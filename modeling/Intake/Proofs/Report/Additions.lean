import Intake.Proofs.Integrity.Step
import Intake.Proofs.Report.Counted

/-!
# What a run adds

Whatever is refused on the way, a run adds the messages and the attachments that were written, in this order, and takes
no row away (`Runs.adds`). Looking up tenants adds nothing at all (`Runs.eq_of_lookups`).
-/

namespace Intake

namespace MemoryStore

variable (s : MemoryStore)

theorem lookUp_eq {α : Type} (find : Tables → α) : ∃ n, (s.lookUp find).2 = { s with failingLookups := n } := by
  rw [lookUp]
  split
  · exact ⟨s.failingLookups, rfl⟩
  · exact ⟨_, rfl⟩

theorem upsertContact_adds (clock : Time) (new : NewContact) :
    ∃ contacts links, s.tables.Adds { contacts := contacts, contactInboxes := links }
      (s.upsertContact clock new).2.tables := by
  rcases s.upsertContact_cases clock new with ⟨-, -, heq, -⟩ | ⟨-, ⟨_, -, heq⟩ | ⟨-, heq⟩⟩
  · exact ⟨[], [], .of_core_eq (congrArg (fun s => s.tables.core) heq)⟩
  · rw [heq]
    exact ⟨[], _, s.tables.adds_link _⟩
  · rw [heq]
    exact ⟨_, _, s.tables.adds_contact _ _⟩

theorem contact_of_upsertContact {clock : Time} {new : NewContact} {resolved : ResolvedContact}
    (h : (s.upsertContact clock new).1 = .ok resolved) :
    resolved.contact ∈ (s.upsertContact clock new).2.tables.contacts := by
  rcases s.upsertContact_cases clock new with ⟨link, hlink, hs, hcontact⟩ | ⟨-, ⟨contact, hcontact, heq⟩ | ⟨-, heq⟩⟩
  · rw [hs]
    rcases hcontact with ⟨contact, hfound, hb⟩ | hnone
    · cases hb.symm.trans h
      exact (Tables.findContact_eq_some hfound).1
    · rw [upsertContact, hlink] at h
      dsimp only at h
      rw [hnone] at h
      cases h
  · rw [heq] at h ⊢
    cases h
    exact (Tables.findContactByPhone_eq_some hcontact).1
  · rw [heq] at h ⊢
    cases h
    exact List.mem_append_right _ List.mem_cons_self

end MemoryStore

namespace World

variable {o : Conditions} {w w' : World} {r : Request} {b : r.Reply} {t : List Exchange}

/-- What was refused has added nothing. -/
theorem not_counted_of_refusal {e : DomainError} (h : r.refusal? e = some b) : Uncounted [⟨r, b⟩] := by
  cases r <;> first
    | exact .of_requests (List.forall_mem_singleton.2 rfl)
    | cases h; exact ⟨rfl, rfl⟩

theorem Deals.adds (h : w.Deals o r b w') :
    ∃ new, w.tables.Adds new w'.tables ∧ new.messages = writtenMessages [⟨r, b⟩] ∧
      new.attachments = writtenAttachments [⟨r, b⟩] := by
  rcases h with ⟨clock, file, -, -, ha⟩ | ⟨e, -, hb, rfl⟩
  · cases r with
    | tryClaim channel source =>
      obtain ⟨a, -, ha⟩ := Option.map_eq_some_iff.1 ha
      cases ha
      exact ⟨{}, .of_core_eq rfl, rfl, rfl⟩
    | createMessage m =>
      cases ha
      rcases w.store.createMessage_tables m with ⟨ht, hb⟩ | ⟨ht, hb⟩
      · refine ⟨{}, .of_core_eq (congrArg Tables.core ht), ?_, rfl⟩
        cases hreply : (w.store.createMessage m).1 with
        | ok => exact absurd hreply hb
        | error => rfl
      · rw [hb]
        exact ⟨_, (congrArg Tables.core ht).trans (w.tables.adds_message m), rfl, rfl⟩
    | updateStatus message status e =>
      cases ha
      exact ⟨{}, w.store.updateStatus_adds message status e, rfl, rfl⟩
    | upsertContact new =>
      cases ha
      obtain ⟨contacts, links, hadds⟩ := w.store.upsertContact_adds clock new
      exact ⟨_, hadds, rfl, rfl⟩
    | createConversation c =>
      cases ha
      exact ⟨_, w.tables.adds_conversation c, rfl, rfl⟩
    | createAttachment a =>
      cases ha
      exact ⟨_, w.tables.adds_attachment a, rfl, rfl⟩
    | findChannelByPhone | findGupshupChannel =>
      cases ha
      exact ⟨{}, .of_core_eq (congrArg Tables.core (w.store.lookUp_tables _)), rfl, rfl⟩
    | _ =>
      cases ha
      exact ⟨{}, .of_core_eq rfl, rfl, rfl⟩
  · have hnone := not_counted_of_refusal hb
    exact ⟨{}, .of_core_eq rfl, hnone.messages.symm, hnone.attachments.symm⟩

/-- Looking up a tenant changes nothing but how many look-ups are going to fail. -/
theorem Deals.eq_of_lookup (h : w.Deals o r b w') (hr : r.isLookup = true) :
    ∃ n, w' = { w with store := { w.store with failingLookups := n } } := by
  rcases h with ⟨clock, file, -, -, ha⟩ | ⟨e, -, -, rfl⟩
  · cases r with
    | findChannelByPhone phoneNumber =>
      cases ha
      obtain ⟨n, hn⟩ := w.store.lookUp_eq (·.findChannelByPhone phoneNumber)
      exact ⟨n, congrArg (fun s => { w with store := s }) hn⟩
    | findGupshupChannel appName =>
      cases ha
      obtain ⟨n, hn⟩ := w.store.lookUp_eq (·.findGupshupChannel appName)
      exact ⟨n, congrArg (fun s => { w with store := s }) hn⟩
    | accountStatus | findInbox =>
      cases ha
      exact ⟨w.store.failingLookups, rfl⟩
    | _ => cases hr
  · exact ⟨w'.store.failingLookups, rfl⟩

namespace Runs

theorem adds (h : w.Runs o t w') :
    ∃ new, w.tables.Adds new w'.tables ∧ new.messages = writtenMessages t ∧
      new.attachments = writtenAttachments t := by
  induction h with
  | nil => exact ⟨{}, .of_core_eq rfl, rfl, rfl⟩
  | @exchange w w₁ w' r b t hd _ ih =>
    obtain ⟨new, hadds, hm, ha⟩ := hd.adds
    obtain ⟨new', hadds', hm', ha'⟩ := ih
    refine ⟨new.append new', hadds.trans hadds', ?_, ?_⟩
    · rw [← List.singleton_append, writtenMessages_append, ← hm, ← hm']
      rfl
    · rw [← List.singleton_append, writtenAttachments_append, ← ha, ← ha']
      rfl
  | waits _ _ ih => exact ih

/-- The messages of a run are the old ones, whatever their status is now, and those that were written. -/
theorem records (h : w.Runs o t w') :
    w'.tables.records = w.tables.records ++ (writtenMessages t).map Message.record := by
  obtain ⟨new, hadds, hm, -⟩ := h.adds
  exact hm ▸ hadds.records

theorem messageIds (h : w.Runs o t w') :
    w'.tables.messages.map (·.id) = w.tables.messages.map (·.id) ++ (writtenMessages t).map (·.id) := by
  obtain ⟨new, hadds, hm, -⟩ := h.adds
  exact hm ▸ Tables.map_eq_append_of (fun _ _ heq => (Message.record_eq_iff.1 heq).1) hadds.records

theorem attachments (h : w.Runs o t w') :
    w'.tables.attachments = w.tables.attachments ++ writtenAttachments t := by
  obtain ⟨new, hadds, -, ha⟩ := h.adds
  exact ha ▸ hadds.attachments

theorem mem_contacts (h : w.Runs o t w') {c : Contact} (hc : c ∈ w.tables.contacts) : c ∈ w'.tables.contacts := by
  obtain ⟨new, hadds, -⟩ := h.adds
  rw [hadds.contacts]
  exact List.mem_append_left _ hc

theorem eq_of_lookups (h : w.Runs o t w') (ht : ∀ x ∈ t, x.request.isLookup = true) :
    ∃ now n, w' = { w with instant := now, store := { w.store with failingLookups := n } } := by
  induction h with
  | @nil w => exact ⟨w.instant, w.store.failingLookups, rfl⟩
  | exchange hd _ ih =>
    obtain ⟨hx, ht⟩ := List.forall_mem_cons.1 ht
    obtain ⟨n, rfl⟩ := hd.eq_of_lookup hx
    exact ih ht
  | waits _ _ ih => exact ih ht

end Runs

end World

end Intake
