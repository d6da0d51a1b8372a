import Intake.Proofs.Integrity.Guided
import Intake.Proofs.World.Runs

/-!
# Requests keep the tables in order

A world `Bears` the ids that deliveries have in hand: the tables are coherent, and all those ids and the ids of all rows
are different and were made by the two generators. What a delivery may ask for is answered so that this stays so, rows
are only added, and what the reply says is in the tables (`World.Bears.deals`).
-/

namespace Intake

theorem Conversation.mem_of_latest? {c : Conversation} {cs : List Conversation} (h : latest? cs = some c) : c ∈ cs := by
  cases cs with
  | nil => cases h
  | cons d ds =>
    obtain rfl := Option.some.inj h
    clear h
    induction ds generalizing d with
    | nil => exact List.mem_cons_self
    | cons e es ih =>
      rw [List.foldl_cons]
      split
      · exact List.mem_cons_of_mem _ (ih e)
      · rcases List.mem_cons.1 (ih d) with h | h
        · rw [h]
          exact List.mem_cons_self
        · exact List.mem_cons_of_mem _ (List.mem_cons_of_mem _ h)

namespace Tables

variable {t : Tables}

theorem adds_updateStatus {t' : Tables} {message : Snowflake} {status : MessageStatus} {e : Option String}
    (h : t.updateStatus message status e = .ok t') : t.Adds {} t' := by
  rw [updateStatus] at h
  split at h
  · cases h
    refine .of_core_eq ?_
    simp only [core, records, map_modifyFirst fun m : Message => m.record_applyStatus status e]
  · cases h

end Tables

namespace MemoryStore

variable (s : MemoryStore)

theorem createMessage_tables (m : Message) :
    (s.createMessage m).2.tables = s.tables ∧ (s.createMessage m).1 ≠ .ok () ∨
      (s.createMessage m).2.tables = { s.tables with messages := s.tables.messages ++ [m] } ∧
        (s.createMessage m).1 = .ok () := by
  rw [createMessage]
  cases s.failingWrites with
  | succ n => exact .inl ⟨rfl, by rintro ⟨⟩⟩
  | zero =>
    rcases s.tables.addMessage_cases m with ⟨-, h⟩ | ⟨-, h⟩ <;> rw [h]
    · exact .inl ⟨rfl, by rintro ⟨⟩⟩
    · exact .inr ⟨rfl, rfl⟩

theorem updateStatus_adds (message : Snowflake) (status : MessageStatus) (e : Option String) :
    s.tables.Adds {} (s.updateStatus message status e).2.tables := by
  rw [updateStatus]
  cases h : s.tables.updateStatus message status e with
  | ok t => exact Tables.adds_updateStatus h
  | error => exact .of_core_eq rfl

end MemoryStore

namespace World

/-- The tables are in order, and the ids of their rows and those that are held are all different. -/
structure Bears (w : World) (held : Multiset Snowflake) : Prop where
  coherent : w.tables.Coherent
  made : w.ids.Made (held + w.tables.made)
  kept : w.store.ids.Made w.tables.kept

variable {o : Conditions} {w w' : World} {held held' : Multiset Snowflake}

namespace Bears

theorem distinctIds (h : w.Bears held) : w.tables.DistinctIds :=
  Tables.distinctIds_of_nodup (Multiset.nodup_of_le (Multiset.le_add_left _ _) h.made.nodup) h.kept.nodup

theorem integrity (h : w.Bears held) : w.tables.Integrity := ⟨h.distinctIds, h.coherent⟩

theorem mono (h : w.Bears held) (hle : held' ≤ held) : w.Bears held' :=
  ⟨h.coherent, h.made.mono (Multiset.add_le_add_right hle), h.kept⟩

theorem congr (h : w.Bears held) (ht : w'.tables = w.tables) (hi : w'.ids = w.ids) (hs : w'.store.ids = w.store.ids) :
    w'.Bears held := by
  obtain ⟨hc, hm, hk⟩ := h
  exact ⟨ht ▸ hc, by rwa [ht, hi], by rwa [ht, hs]⟩

theorem adds {new : Tables} (h : w.Bears held) (ha : w.tables.Adds new w'.tables) (hnew : new.Fits w'.tables)
    (hcontacts : new.contacts = []) (hlinks : new.contactInboxes = []) (hkept : new.kept = 0)
    (hheld : held' + new.made ≤ held) (hi : w'.ids = w.ids) (hs : w'.store.ids = w.store.ids) : w'.Bears held' := by
  refine ⟨h.coherent.adds_unlinked ha hnew hcontacts hlinks, ?_, ?_⟩
  · rw [hi, ha.made]
    refine h.made.mono (le_trans (le_of_eq ?_) (Multiset.add_le_add_right hheld))
    ac_rfl
  · rw [hs, ha.kept, hkept, add_zero]
    exact h.kept

theorem adds_link {cs : List Contact} {c : Contact} {l : ContactInbox} (h : w.Bears held)
    (ha : w.tables.Adds { contacts := cs, contactInboxes := [l] } w'.tables)
    (hcs : cs = [] ∧ c ∈ w.tables.contacts ∨
      cs = [c] ∧ ∀ d ∈ w.tables.contacts, (d.account, d.phoneNumber) ≠ (c.account, c.phoneNumber))
    (hl : ∀ k ∈ w.tables.contactInboxes, (k.inbox, k.sourceId) ≠ (l.inbox, l.sourceId)) (hdigits : IsDigits l.sourceId)
    (hphone : c.phoneNumber = some ("+" ++ l.sourceId)) (hinbox : w.tables.HasInbox l.inbox c.account)
    (hcontact : c.id = l.contact) (hi : w'.ids = w.ids)
    (hkept : w'.store.ids.Made (l.id ::ₘ (cs.map (·.id) + w.tables.kept))) : w'.Bears held := by
  have hg : w.tables.Grows w'.tables := ⟨_, ha⟩
  have hmem : c ∈ w'.tables.contacts := by
    rw [ha.contacts]
    rcases hcs with ⟨-, hc⟩ | ⟨rfl, -⟩
    · exact List.mem_append_left _ hc
    · exact List.mem_append_right _ List.mem_cons_self
  have hlink : l.RefersIn w'.tables := by
    obtain ⟨i, hi, hid, haccount⟩ := hg.hasInbox hinbox
    exact ⟨i, hi, c, hmem, hid, hcontact, haccount.symm, hphone⟩
  have hfits : Tables.Fits { contacts := cs, contactInboxes := [l] } w'.tables := by
    constructor <;> first | exact List.forall_mem_singleton.2 ‹_› | exact fun _ h => nomatch h
  refine ⟨h.coherent.adds ha hfits (List.nodup_singleton _) ?_ (List.forall_mem_singleton.2 hl) ?_, ?_, ?_⟩
  · rcases hcs with ⟨rfl, -⟩ | ⟨rfl, -⟩
    · exact List.nodup_nil
    · exact List.nodup_singleton _
  · rcases hcs with ⟨rfl, -⟩ | ⟨rfl, hnew⟩
    · exact nofun
    · exact List.forall_mem_singleton.2 hnew
  · have hnone : Tables.made { contacts := cs, contactInboxes := [l] } = 0 := rfl
    rw [hi, ha.made, hnone, add_zero]
    exact h.made
  · rw [ha.kept]
    refine hkept.mono (le_of_eq ?_)
    simp only [Tables.kept, List.map_nil, Multiset.coe_nil, zero_add, List.map_cons, Multiset.coe_singleton,
      ← Multiset.singleton_add]
    ac_rfl

theorem upsertContact {clock : Time} {new : NewContact} (h : w.Bears held) (hdigits : IsDigits new.sourceId)
    (hphone : new.phoneNumber = "+" ++ new.sourceId) (hinbox : w.tables.HasInbox new.inbox new.account)
    (hw : w' = { w with store := (w.store.upsertContact clock new).2 }) (hrange : w'.store.ids.stamp < 2 ^ 54) :
    w'.Bears held ∧ w.tables.Grows w'.tables ∧
      Exchange.Recorded w'.tables ⟨.upsertContact new, (w.store.upsertContact clock new).1⟩ := by
  rcases w.store.upsertContact_cases clock new with
    ⟨link, hlink, hs, hcontact⟩ | ⟨hlink, ⟨contact, hcontact, heq⟩ | ⟨hcontact, heq⟩⟩
  · -- The sender is linked.
    obtain rfl : w' = w := by rw [hw, hs]
    refine ⟨h, .refl _, ?_⟩
    obtain ⟨hmem, hkey, -⟩ := Tables.findContactInbox_eq_some hlink
    rcases hcontact with ⟨contact, hcontact, hb⟩ | hnone
    · rw [hb]
      exact ⟨link, hmem, rfl, hkey, (Tables.findContact_eq_some hcontact).2.symm⟩
    · obtain ⟨i, -, c, hc, -, hcid, -⟩ := h.coherent.contactInboxes link hmem
      exact absurd hcid (by simpa using List.find?_eq_none.1 hnone c hc)
  · -- Its contact is known by phone number.
    obtain ⟨hmem, hca, hcp⟩ := Tables.findContactByPhone_eq_some hcontact
    rw [heq] at hw ⊢
    subst hw
    have hadds := w.tables.adds_link
      { id := (w.store.ids.generate clock).1, contact := contact.id, inbox := new.inbox, sourceId := new.sourceId }
    refine ⟨h.adds_link hadds (.inl ⟨rfl, hmem⟩) (fun k hk => Tables.ne_of_findContactInbox hlink hk) hdigits
      (by rw [hcp, hphone]) (by rwa [hca]) rfl rfl ?_, ⟨_, hadds⟩, ?_⟩
    · rw [List.map_nil, Multiset.coe_nil, zero_add]
      exact h.kept.generate hrange
    · exact ⟨_, List.mem_append_right _ List.mem_cons_self, rfl, rfl, rfl⟩
  · -- Its contact is new.
    rw [heq] at hw ⊢
    subst hw
    have hadds := w.tables.adds_contact
      { id := (w.store.ids.generate clock).1, account := new.account, name := new.name,
        phoneNumber := some new.phoneNumber }
      { id := ((w.store.ids.generate clock).2.generate clock).1, contact := (w.store.ids.generate clock).1,
        inbox := new.inbox, sourceId := new.sourceId }
    refine ⟨h.adds_link hadds (.inr ⟨rfl, fun d hd => Tables.ne_of_findContactByPhone hcontact hd⟩)
      (fun k hk => Tables.ne_of_findContactInbox hlink hk) hdigits (by rw [hphone]) hinbox rfl rfl ?_, ⟨_, hadds⟩, ?_⟩
    · rw [List.map_singleton, Multiset.coe_singleton, Multiset.singleton_add]
      exact (h.kept.generate (Int.lt_trans Snowflake.Generator.stamp_lt_generate hrange)).generate hrange
    · exact ⟨_, List.mem_append_right _ List.mem_cons_self, rfl, rfl, rfl⟩

theorem unchanged (h : w.Bears held) (ht : w'.tables = w.tables) (hi : w'.ids = w.ids)
    (hs : w'.store.ids = w.store.ids) : w'.Bears held ∧ w.tables.Grows w'.tables :=
  ⟨h.congr ht hi hs, ht ▸ .refl _⟩

section Creates

variable {others : Multiset Snowflake}

theorem erase_add_le {id : Snowflake} (hid : id ∈ held) : held.erase id + others + {id} ≤ held + others := by
  refine le_of_eq ?_
  rw [add_right_comm, Multiset.add_singleton_eq_iff.2 ⟨hid, rfl⟩]

theorem createMessage {m : Message} (h : w.Bears (held + others)) (hid : m.id ∈ held) (hm : m.RefersIn w.tables)
    (hw : w' = { w with store := (w.store.createMessage m).2 }) :
    w'.Bears (held.erase m.id + others) ∧ w.tables.Grows w'.tables ∧
      Exchange.Recorded w'.tables ⟨.createMessage m, (w.store.createMessage m).1⟩ := by
  have hi : w'.ids = w.ids := by rw [hw]
  have hs : w'.store.ids = w.store.ids := by
    rw [hw]
    exact w.store.createMessage_ids m
  have hstore : w'.tables = (w.store.createMessage m).2.tables := by
    rw [hw]
    rfl
  rcases w.store.createMessage_tables m with ⟨ht, hb⟩ | ⟨ht, hb⟩
  · obtain ⟨hbears, hg⟩ := h.unchanged (hstore.trans ht) hi hs
    refine ⟨hbears.mono (Multiset.add_le_add_right (Multiset.erase_le _ _)), hg, ?_⟩
    cases hreply : (w.store.createMessage m).1 with
    | ok => exact absurd hreply hb
    | error => trivial
  · have hadds : w.tables.Adds { messages := [m] } w'.tables := by
      rw [hstore, ht]
      exact w.tables.adds_message m
    have hg : w.tables.Grows w'.tables := ⟨_, hadds⟩
    have hfits : Tables.Fits { messages := [m] } w'.tables := by
      constructor <;> first | exact List.forall_mem_singleton.2 (hg.message hm) | exact fun _ h => nomatch h
    refine ⟨h.adds hadds hfits rfl rfl rfl (erase_add_le hid) hi hs, hg, ?_⟩
    rw [hb]
    exact ⟨m, by rw [hstore, ht]; exact List.mem_append_right _ List.mem_cons_self, rfl, rfl, rfl⟩

theorem createConversation {c : Conversation} (h : w.Bears (held + others)) (hid : c.id ∈ held)
    (hc : c.RefersIn w.tables) (ht : w'.tables = w.tables.addConversation c) (hi : w'.ids = w.ids)
    (hs : w'.store.ids = w.store.ids) :
    w'.Bears (held.erase c.id + others) ∧ w.tables.Grows w'.tables ∧
      w'.tables.HasConversation c.id c.inbox c.account c.contact := by
  have hadds : w.tables.Adds { conversations := [c] } w'.tables := ht ▸ w.tables.adds_conversation c
  have hg : w.tables.Grows w'.tables := ⟨_, hadds⟩
  have hfits : Tables.Fits { conversations := [c] } w'.tables := by
    constructor <;> first | exact List.forall_mem_singleton.2 (hg.conversation hc) | exact fun _ h => nomatch h
  refine ⟨h.adds hadds hfits rfl rfl rfl (erase_add_le hid) hi hs, hg, c, ?_, rfl, rfl, rfl, rfl⟩
  rw [ht]
  exact List.mem_append_right _ List.mem_cons_self

theorem createAttachment {a : Attachment} (h : w.Bears (held + others)) (hid : a.id ∈ held)
    (ha : a.RefersIn w.tables) (htyped : a.Typed) (ht : w'.tables = w.tables.addAttachment a) (hi : w'.ids = w.ids)
    (hs : w'.store.ids = w.store.ids) : w'.Bears (held.erase a.id + others) ∧ w.tables.Grows w'.tables := by
  have hadds : w.tables.Adds { attachments := [a] } w'.tables := ht ▸ w.tables.adds_attachment a
  have hg : w.tables.Grows w'.tables := ⟨_, hadds⟩
  have hfits : Tables.Fits { attachments := [a] } w'.tables := by
    constructor <;> first
      | exact List.forall_mem_singleton.2 (hg.attachment ha)
      | exact List.forall_mem_singleton.2 htyped
      | exact fun _ h => nomatch h
  exact ⟨h.adds hadds hfits rfl rfl rfl (erase_add_le hid) hi hs, hg⟩

end Creates

/-- What a delivery may ask for is answered in order. -/
theorem answer {target : ResolvedChannel} {hand : Hand} {others : Multiset Snowflake} {r : Request} {b : r.Reply}
    {clock : Time} {file : Option FetchedMedia} (h : w.Bears (hand.held + others))
    (hr : r.Admits target hand w.tables) (ha : w.answer? clock file r = some (b, w')) (hrange : w'.InRange) :
    w'.Bears ((hand.after ⟨r, b⟩).held + others) ∧ w.tables.Grows w'.tables ∧ Exchange.Recorded w'.tables ⟨r, b⟩ := by
  cases r with
  | tryClaim channel source =>
    obtain ⟨a, -, ha⟩ := Option.map_eq_some_iff.1 ha
    obtain ⟨rfl, rfl⟩ := Prod.mk.inj ha
    exact ⟨h.congr rfl rfl rfl, .refl _, trivial⟩
  | findChannelByPhone | findGupshupChannel =>
    obtain ⟨rfl, rfl⟩ := Prod.mk.inj (Option.some.inj ha)
    exact and_assoc.1 ⟨h.unchanged (w.store.lookUp_tables _) rfl (w.store.lookUp_ids _), trivial⟩
  | findInbox channel =>
    obtain ⟨rfl, rfl⟩ := Prod.mk.inj (Option.some.inj ha)
    refine ⟨h, .refl _, ?_⟩
    cases hf : w.tables.findInbox channel with
    | none => trivial
    | some i => exact ⟨i, (Tables.findInbox_eq_some hf).1, rfl, rfl⟩
  | findMessage inbox source =>
    obtain ⟨rfl, rfl⟩ := Prod.mk.inj (Option.some.inj ha)
    refine ⟨h, .refl _, ?_⟩
    cases hf : w.tables.findMessage inbox source with
    | none => trivial
    | some m =>
      obtain ⟨hm, hi, -⟩ := Tables.findMessage_eq_some hf
      exact ⟨m, hm, rfl, hi, rfl⟩
  | findConversation link filter =>
    obtain ⟨rfl, rfl⟩ := Prod.mk.inj (Option.some.inj ha)
    cases hf : w.tables.findConversation link filter with
    | none => exact ⟨h, .refl _, trivial⟩
    | some c =>
      obtain ⟨hc, hlink⟩ := List.mem_filter.1 (Conversation.mem_of_latest? hf)
      obtain ⟨hinbox, hlinked⟩ := h.coherent.conversations c hc
      obtain rfl : c.contactInbox = link := by simpa using (Bool.and_eq_true_iff.1 hlink).1
      exact ⟨h, .refl _, ⟨c, hc, rfl, rfl, rfl, rfl⟩, hinbox, hlinked⟩
  | createMessage m =>
    obtain ⟨rfl, rfl⟩ := Prod.mk.inj (Option.some.inj ha)
    obtain ⟨hid, -, -, hm⟩ := hr
    exact h.createMessage hid hm rfl
  | updateStatus m s e =>
    obtain ⟨rfl, rfl⟩ := Prod.mk.inj (Option.some.inj ha)
    have hadds := w.store.updateStatus_adds m s e
    exact ⟨h.adds hadds (Tables.empty_fits _) rfl rfl rfl (le_of_eq (add_zero _)) rfl (w.store.commit_ids _),
      ⟨_, hadds⟩, trivial⟩
  | upsertContact new =>
    obtain ⟨rfl, rfl⟩ := Prod.mk.inj (Option.some.inj ha)
    obtain ⟨-, -, hdigits, hphone, hinbox⟩ := hr
    exact h.upsertContact hdigits hphone hinbox rfl hrange.2
  | createConversation c =>
    obtain ⟨rfl, rfl⟩ := Prod.mk.inj (Option.some.inj ha)
    obtain ⟨hid, -, -, -, -, hc⟩ := hr
    exact h.createConversation hid hc rfl rfl rfl
  | createAttachment a =>
    obtain ⟨rfl, rfl⟩ := Prod.mk.inj (Option.some.inj ha)
    obtain ⟨hid, -, htyped, hm⟩ := hr
    exact and_assoc.1 ⟨h.createAttachment hid ⟨_, hm⟩ htyped rfl rfl rfl, trivial⟩
  | newId =>
    obtain ⟨rfl, rfl⟩ := Prod.mk.inj (Option.some.inj ha)
    refine ⟨⟨h.coherent, ?_, h.kept⟩, .refl _, trivial⟩
    have hmade := h.made.generate hrange.1
    rwa [← Multiset.cons_add, ← Multiset.cons_add] at hmade
  | _ =>
    obtain ⟨rfl, rfl⟩ := Prod.mk.inj (Option.some.inj ha)
    exact ⟨h.congr rfl rfl rfl, .refl _, trivial⟩

/-- What a delivery may ask for is dealt with in order, also if it is refused. -/
theorem deals {target : ResolvedChannel} {hand : Hand} {others : Multiset Snowflake} {r : Request} {b : r.Reply}
    (h : w.Bears (hand.held + others)) (hr : r.Admits target hand w.tables) (hd : w.Deals o r b w')
    (hrange : w'.InRange) :
    w'.Bears ((hand.after ⟨r, b⟩).held + others) ∧ w.tables.Grows w'.tables ∧ Exchange.Recorded w'.tables ⟨r, b⟩ := by
  rcases hd with ⟨clock, file, -, -, ha⟩ | ⟨e, -, hb, rfl⟩
  · exact h.answer hr ha hrange
  · have hheld : (hand.after ⟨r, b⟩).held ≤ hand.held ∧ Exchange.Recorded w'.tables ⟨r, b⟩ := by
      cases r with
      | fetch | newId | now | pause => cases hb
      | createConversation | createMessage | createAttachment =>
        cases hb
        exact ⟨Multiset.erase_le _ _, trivial⟩
      | _ =>
        cases hb
        exact ⟨le_refl _, trivial⟩
    exact ⟨h.mono (Multiset.add_le_add_right hheld.1), .refl _, hheld.2⟩

end Bears

end World

end Intake
