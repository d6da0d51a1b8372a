import Intake.Proofs.Downloads.Akin
import Intake.Proofs.Tenants.Calm

/-!
# Worlds without files

`World.bare` is the world without the files that were downloaded, and with nothing about to fail. Nothing that a
delivery asks for reads a file, so the bare world deals with its requests in the same way (`Deals.bare`), and writing a
file, or failing to write a message, leaves the bare world as it was.
-/

namespace Intake

/-- The tables without downloaded files. -/
def Tables.bare (t : Tables) : Tables := { t with attachments := t.attachments.filter (!·.isFile) }

theorem Tables.bare_addFile {t : Tables} {a : Attachment} (ha : a.isFile = true) :
    (t.addAttachment a).bare = t.bare := by
  simp [bare, addAttachment, ha]

theorem Tables.bare_addAttachment {t : Tables} {a : Attachment} (ha : a.isFile = false) :
    (t.addAttachment a).bare = t.bare.addAttachment a := by
  simp [bare, addAttachment, ha]

theorem Tables.bare_part (t : Tables) (accounts inboxes : Snowflake → Bool) :
    t.bare.part accounts inboxes = (t.part accounts inboxes).bare := by
  simp [bare, part, List.filter_filter, Bool.and_comm]

theorem Tables.Coherent.bare {t : Tables} (h : t.Coherent) : t.bare.Coherent :=
  { h with
    attachments := fun a ha => h.attachments a (List.mem_filter.1 ha).1
    types := fun a ha => h.types a (List.mem_filter.1 ha).1 }

theorem Tables.bare_made_le (t : Tables) : t.bare.made ≤ t.made := by
  have hids : ((t.bare.attachments.map (·.id) : List Snowflake) : Multiset Snowflake) ≤ t.attachments.map (·.id) :=
    Multiset.coe_le.2 ((List.filter_sublist.map _).subperm)
  exact Multiset.add_le_add_left hids

namespace MemoryStore

/-- The store without downloaded files, when nothing is about to fail. -/
def bare (s : MemoryStore) : MemoryStore := { s with tables := s.tables.bare, failingLookups := 0, failingWrites := 0 }

variable (s : MemoryStore)

theorem bare_commit {tables : Except DomainError Tables} :
    s.bare.commit (tables.map Tables.bare) = ((s.commit tables).1, (s.commit tables).2.bare) := by
  cases tables <;> rfl

theorem bare_updateStatus (message : Snowflake) (status : MessageStatus) (e : Option String) :
    s.bare.updateStatus message status e =
      ((s.updateStatus message status e).1, (s.updateStatus message status e).2.bare) := by
  have htables : s.tables.bare.updateStatus message status e =
      (s.tables.updateStatus message status e).map Tables.bare := by
    rw [Tables.updateStatus, Tables.updateStatus]
    change (if (s.tables.messages.any (·.id = message)) = true then _ else _) = _
    split <;> rfl
  rw [updateStatus, updateStatus, ← bare_commit, ← htables]
  rfl

theorem bare_createMessage (m : Message) (h : s.failingWrites = 0) :
    s.bare.createMessage m = ((s.createMessage m).1, (s.createMessage m).2.bare) := by
  have htables : s.tables.bare.addMessage m = (s.tables.addMessage m).map Tables.bare := by
    rw [Tables.addMessage, Tables.addMessage]
    change (if (s.tables.findMessage m.inbox m.sourceId).isSome = true then _ else _) = _
    split <;> rfl
  rw [createMessage_eq _ m rfl, s.createMessage_eq m h, ← bare_commit, ← htables]
  rfl

theorem bare_upsertContact (clock : Time) (new : NewContact) :
    s.bare.upsertContact clock new = ((s.upsertContact clock new).1, (s.upsertContact clock new).2.bare) := by
  have hlink : s.bare.tables.findContactInbox = s.tables.findContactInbox := rfl
  have hcontact : s.bare.tables.findContact = s.tables.findContact := rfl
  have hphone : s.bare.tables.findContactByPhone = s.tables.findContactByPhone := rfl
  rw [upsertContact, upsertContact, contactFor, contactFor, hlink, hcontact, hphone]
  cases s.tables.findContactInbox new.inbox new.sourceId with
  | some link =>
    dsimp only
    cases s.tables.findContact link.contact <;> rfl
  | none =>
    dsimp only
    cases s.tables.findContactByPhone new.account new.phoneNumber <;> rfl

end MemoryStore

namespace World

variable {w w' : World} {r : Request} {b : r.Reply} {fetch : Channel → MediaDescriptor → Option FetchedMedia}

/-- The world without downloaded files, when nothing is about to fail. -/
def bare (w : World) : World := { w with store := w.store.bare }

theorem bare_calm (w : World) : w.bare.Calm := ⟨rfl, rfl⟩

theorem Bears.bare {held : Multiset Snowflake} (h : w.Bears held) : w.bare.Bears held :=
  ⟨h.coherent.bare, h.made.mono (Multiset.add_le_add_left w.tables.bare_made_le), h.kept⟩

namespace Deals

theorem of_not_fetch (h : w.Deals (.calm fetch) r b w') (hr : r.isFetch = false)
    (fetch' : Channel → MediaDescriptor → Option FetchedMedia) : w.Deals (.calm fetch') r b w' := by
  rcases h with ⟨clock, file, hc, -, ha⟩ | ⟨e, he, -⟩
  · refine .inl ⟨clock, file, hc, ?_, ha⟩
    rintro channel media rfl
    cases hr
  · cases he

/-- How many of the next message writes fail. -/
theorem failingWrites (h : w.Deals (.calm fetch) r b w') :
    w'.store.failingWrites = if r.isQuiet || r.isGuard then w.store.failingWrites else w.store.failingWrites - 1 := by
  obtain ⟨clock, file, -, ha⟩ := h.of_calm
  cases r with
  | tryClaim =>
    obtain ⟨a, -, ha⟩ := Option.map_eq_some_iff.1 ha
    cases ha
    rfl
  | createMessage m =>
    cases ha
    change (w.store.createMessage m).2.failingWrites = w.store.failingWrites - 1
    cases hw : w.store.failingWrites with
    | zero =>
      rw [w.store.createMessage_eq m hw, w.store.commit_failingWrites, hw]
    | succ n =>
      rw [MemoryStore.createMessage, hw]
      rfl
  | updateStatus =>
    cases ha
    exact w.store.commit_failingWrites _
  | upsertContact new =>
    cases ha
    exact w.store.upsertContact_failingWrites clock new
  | findChannelByPhone | findGupshupChannel =>
    cases ha
    exact w.store.lookUp_failingWrites _
  | _ =>
    cases ha
    rfl

theorem createMessage_refused {m : Message} {b : Except DomainError Unit}
    (h : w.Deals (.calm fetch) (.createMessage m) b w') {n : Nat} (hw : w.store.failingWrites = n + 1) :
    b = .error MemoryStore.writeFailure ∧ w'.bare = w.bare := by
  obtain ⟨clock, file, -, ha⟩ := h.of_calm
  cases ha
  dsimp only
  rw [MemoryStore.createMessage, hw]
  exact ⟨rfl, rfl⟩

theorem bare_eq (h : w.Deals (.calm fetch) r b w') (hr : r.isFiling = true) : w'.bare = w.bare := by
  obtain ⟨clock, file, -, ha⟩ := h.of_calm
  cases r with
  | createAttachment a =>
    cases ha
    have htables : (w.store.tables.addAttachment a).bare = w.store.tables.bare := Tables.bare_addFile hr
    change { w with store := { w.store.bare with tables := (w.store.tables.addAttachment a).bare } } = w.bare
    rw [htables]
    rfl
  | _ => cases hr

theorem bare_tables (h : w.Deals (.calm fetch) r b w') (hr : r.isExtra = true) : w'.bare.tables = w.bare.tables := by
  cases r with
  | newId =>
    obtain ⟨clock, file, -, ha⟩ := h.of_calm
    cases ha
    rfl
  | createAttachment a => exact congrArg World.tables (h.bare_eq hr)
  | _ => cases hr

/-- The bare world deals with a request in the same way, unless a file is written or a message refused. -/
theorem bare (h : w.Deals (.calm fetch) r b w') (hlookup : r.isLookup = false) (hfile : r.isFiling = false)
    (hw : r.isQuiet = true ∨ r.isGuard = true ∨ w.store.failingWrites = 0) :
    w.bare.Deals (.calm fetch) r b w'.bare := by
  rcases h with ⟨clock, file, hc, hfetch, ha⟩ | ⟨e, he, -⟩
  · refine .inl ⟨clock, file, hc, hfetch, ?_⟩
    cases r with
    | tryClaim channel source =>
      obtain ⟨a, hclaim, ha⟩ := Option.map_eq_some_iff.1 ha
      cases ha
      exact Option.map_eq_some_iff.2 ⟨a, hclaim, rfl⟩
    | createMessage m =>
      have hzero : w.store.failingWrites = 0 := by
        rcases hw with hq | hg | hzero
        · cases hq
        · cases hg
        · exact hzero
      cases ha
      exact congrArg (fun p => some (p.1, { w with store := p.2 })) (w.store.bare_createMessage m hzero)
    | updateStatus message status e =>
      cases ha
      exact congrArg (fun p => some (p.1, { w with store := p.2 })) (w.store.bare_updateStatus message status e)
    | upsertContact new =>
      cases ha
      exact congrArg (fun p => some (p.1, { w with store := p.2 })) (w.store.bare_upsertContact clock new)
    | createAttachment a =>
      cases ha
      have htables : (w.store.tables.addAttachment a).bare = w.store.tables.bare.addAttachment a :=
        Tables.bare_addAttachment hfile
      change some (_, { w with store := { w.store.bare with tables := w.store.tables.bare.addAttachment a } }) = _
      rw [← htables]
      rfl
    | findChannelByPhone | findGupshupChannel | accountStatus | findInbox => cases hlookup
    | _ =>
      cases ha
      rfl
  · cases he

end Deals

end World

end Intake
