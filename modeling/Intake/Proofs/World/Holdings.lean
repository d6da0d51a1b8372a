import Intake.Proofs.World.Claims
import Intake.Proofs.World.Store

/-!
# Holdings

All that was received, but for the status and error of messages. Only four requests add to it, and `upsertContact` does
not if the sender is linked to the inbox already. Links stay.
-/

namespace Intake

structure Holdings where
  contacts : List Contact
  contactInboxes : List ContactInbox
  conversations : List Conversation
  /-- The messages as they were written, whatever their status. -/
  messages : List Message
  attachments : List Attachment

/-- Whether the request can add a row. -/
def Request.addsRows : Request → Bool
  | createMessage _ | upsertContact _ | createConversation _ | createAttachment _ => true
  | _ => false

theorem Request.addsRows_of_isSupply {r : Request} (h : r.isSupply = true) : r.addsRows = false := by
  cases r <;> trivial

namespace Tables

variable {t t' : Tables}

def holdings (t : Tables) : Holdings :=
  { contacts := t.contacts, contactInboxes := t.contactInboxes, conversations := t.conversations,
    messages := t.records, attachments := t.attachments }

/-- The inbox knows a contact of that source id. -/
def Linked (t : Tables) (inbox : Snowflake) (source : String) : Prop :=
  (t.findContactInbox inbox source).isSome = true

theorem linked_iff {inbox : Snowflake} {source : String} :
    t.Linked inbox source ↔ ∃ c ∈ t.contactInboxes, c.inbox = inbox ∧ c.sourceId = source := by
  simp [Linked, findContactInbox]

theorem Linked.mono {inbox : Snowflake} {source : String} (h : t.Linked inbox source)
    (hp : t.contactInboxes <+: t'.contactInboxes) : t'.Linked inbox source := by
  obtain ⟨c, hc, hkey⟩ := linked_iff.1 h
  exact linked_iff.2 ⟨c, hp.subset hc, hkey⟩

end Tables

namespace MemoryStore

variable (s : MemoryStore) (clock : Time)

theorem updateStatus_holdings (message : Snowflake) (status : MessageStatus) (e : Option String) :
    (s.updateStatus message status e).2.tables.holdings = s.tables.holdings := by
  have hrecords := (s.updateStatus_frame message status e).2.2
  rw [updateStatus, Tables.updateStatus] at hrecords ⊢
  split
  · next h =>
    rw [if_pos h] at hrecords
    simp only [commit, Tables.holdings] at hrecords ⊢
    rw [hrecords]
  · rfl

theorem createMessage_links (m : Message) :
    (s.createMessage m).2.tables.contactInboxes = s.tables.contactInboxes := by
  rw [createMessage, Tables.addMessage]
  split
  · split <;> rfl
  · rfl

theorem createMessage_contacts (m : Message) : (s.createMessage m).2.tables.contacts = s.tables.contacts := by
  rw [createMessage, Tables.addMessage]
  split
  · split <;> rfl
  · rfl

theorem contactFor_links (new : NewContact) :
    (s.contactFor clock new).2.tables.contactInboxes = s.tables.contactInboxes := by
  rw [contactFor]
  split <;> rfl

theorem upsertContact_of_linked {new : NewContact} (h : s.tables.Linked new.inbox new.sourceId) :
    (s.upsertContact clock new).2 = s := by
  rw [upsertContact]
  split
  · split <;> rfl
  · next hn => rw [Tables.Linked, hn] at h; cases h

theorem upsertContact_of_not_linked {new : NewContact} (h : ¬ s.tables.Linked new.inbox new.sourceId) :
    ∃ c : ContactInbox, c.inbox = new.inbox ∧ c.sourceId = new.sourceId ∧
      (s.upsertContact clock new).2.tables.contactInboxes = s.tables.contactInboxes ++ [c] := by
  rw [upsertContact]
  split
  · next hs => rw [Tables.Linked, hs] at h; exact absurd rfl h
  · let id := ((s.contactFor clock new).2.newId clock).1
    refine ⟨{ id, contact := (s.contactFor clock new).1.id, inbox := new.inbox, sourceId := new.sourceId },
      rfl, rfl, ?_⟩
    exact congrArg (· ++ [_]) (s.contactFor_links clock new)

theorem upsertContact_links (new : NewContact) :
    s.tables.contactInboxes <+: (s.upsertContact clock new).2.tables.contactInboxes := by
  by_cases h : s.tables.Linked new.inbox new.sourceId
  · simp only [s.upsertContact_of_linked clock h, List.prefix_rfl]
  · obtain ⟨c, -, -, hc⟩ := s.upsertContact_of_not_linked clock h
    rw [hc]
    exact List.prefix_append _ _

theorem upsertContact_linked (new : NewContact) :
    (s.upsertContact clock new).2.tables.Linked new.inbox new.sourceId := by
  by_cases h : s.tables.Linked new.inbox new.sourceId
  · rwa [s.upsertContact_of_linked clock h]
  · obtain ⟨c, hi, hs, hc⟩ := s.upsertContact_of_not_linked clock h
    refine Tables.linked_iff.2 ⟨c, ?_, hi, hs⟩
    rw [hc]
    exact List.mem_append_right _ List.mem_cons_self

end MemoryStore

namespace World

variable {clocks : Time → Prop} {o : Conditions} {lapses : World → MemoryGuard → Instant → Prop} {w w' : World}
  {t : List Exchange} {r : Request} {b : r.Reply}

namespace Replies

theorem holdings (h : w.Replies clocks o r b w') (hr : r.addsRows = false) :
    w'.tables.holdings = w.tables.holdings := by
  rcases h with ⟨clock, file, -, -, h⟩ | ⟨e, -, -, rfl⟩
  · cases r with
    | tryClaim c s =>
      obtain ⟨a, -, h⟩ := Option.map_eq_some_iff.1 h
      obtain ⟨rfl, rfl⟩ := Prod.mk.inj h
      rfl
    | createMessage | upsertContact | createConversation | createAttachment => cases hr
    | updateStatus m s e =>
      obtain ⟨rfl, rfl⟩ := Prod.mk.inj (Option.some.inj h)
      exact w.store.updateStatus_holdings m s e
    | findChannelByPhone | findGupshupChannel =>
      obtain ⟨rfl, rfl⟩ := Prod.mk.inj (Option.some.inj h)
      exact congrArg Tables.holdings (w.store.lookUp_tables _)
    | _ =>
      obtain ⟨rfl, rfl⟩ := Prod.mk.inj (Option.some.inj h)
      rfl
  · rfl

theorem links (h : w.Replies clocks o r b w') : w.tables.contactInboxes <+: w'.tables.contactInboxes := by
  by_cases hr : r.addsRows = false
  · have heq : w'.tables.contactInboxes = w.tables.contactInboxes := congrArg Holdings.contactInboxes (h.holdings hr)
    simp only [heq, List.prefix_rfl]
  · rcases h with ⟨clock, file, -, -, h⟩ | ⟨e, -, -, rfl⟩
    · cases r with
      | upsertContact new =>
        obtain ⟨rfl, rfl⟩ := Prod.mk.inj (Option.some.inj h)
        exact w.store.upsertContact_links clock new
      | createMessage m =>
        obtain ⟨rfl, rfl⟩ := Prod.mk.inj (Option.some.inj h)
        exact (w.store.createMessage_links m) ▸ List.prefix_rfl
      | createConversation | createAttachment =>
        obtain ⟨rfl, rfl⟩ := Prod.mk.inj (Option.some.inj h)
        exact List.prefix_rfl
      | _ => exact absurd rfl hr
    · exact List.prefix_rfl

theorem tables_of_linked {new : NewContact} {b : Except DomainError ResolvedContact}
    (h : w.Replies clocks o (.upsertContact new) b w') (hl : w.tables.Linked new.inbox new.sourceId) :
    w'.tables = w.tables := by
  rcases h with ⟨clock, file, -, -, h⟩ | ⟨e, -, -, rfl⟩
  · obtain ⟨-, rfl⟩ := Prod.mk.inj (Option.some.inj h)
    exact congrArg MemoryStore.tables (w.store.upsertContact_of_linked clock hl)
  · rfl

end Replies

namespace Takes

theorem holdings (h : w.Takes (.alone clocks o lapses) t w') (ht : ∀ x ∈ t, x.request.addsRows = false) :
    w'.tables.holdings = w.tables.holdings := by
  induction h with
  | nil => rfl
  | exchange hr _ ih =>
    obtain ⟨hx, ht⟩ := List.forall_mem_cons.1 ht
    exact (ih ht).trans (hr.holdings hx)
  | lapse _ _ ih => exact ih ht

theorem links (h : w.Takes (.alone clocks o lapses) t w') : w.tables.contactInboxes <+: w'.tables.contactInboxes := by
  induction h with
  | nil => exact List.prefix_rfl
  | exchange hr _ ih => exact hr.links.trans ih
  | lapse _ _ ih => exact ih

theorem holdings_of_linked {new : NewContact} {b : Except DomainError ResolvedContact}
    (h : w.Takes (.alone clocks o lapses) [⟨.upsertContact new, b⟩] w')
    (hl : w.tables.Linked new.inbox new.sourceId) : w'.tables.holdings = w.tables.holdings := by
  obtain ⟨w₀, w₁, h₀, hr, h₁⟩ := h.uncons
  rw [h₁.holdings (by simp), hr.tables_of_linked (hl.mono h₀.links), h₀.holdings (by simp)]

end Takes

/-- An outage does not keep a sender from being linked. -/
theorem Answers.linked_of_upsert {outage : Outage} {new : NewContact} {b : Except DomainError ResolvedContact}
    (h : w.Answers outage (.upsertContact new) b w') : w'.tables.Linked new.inbox new.sourceId := by
  rcases h with ⟨clock, file, -, -, h⟩ | ⟨e, hs, -, -⟩
  · obtain ⟨-, rfl⟩ := Prod.mk.inj (Option.some.inj h)
    exact w.store.upsertContact_linked clock new
  · cases hs

theorem Passes.linked_of_upsert {outage : Outage} {new : NewContact} {b : Except DomainError ResolvedContact}
    (h : w.Passes outage t w') (hx : ⟨.upsertContact new, b⟩ ∈ t) : w'.tables.Linked new.inbox new.sourceId := by
  induction h with
  | nil => cases hx
  | exchange ha hp ih =>
    rcases List.mem_cons.1 hx with heq | hx
    · cases heq
      exact ha.linked_of_upsert.mono hp.links
    · exact ih hx
  | lapse _ _ ih => exact ih hx

end World

end Intake
