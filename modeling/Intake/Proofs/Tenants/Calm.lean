import Intake.Proofs.Integrity.Handling
import Intake.Proofs.Tenants.Within
import Intake.Proofs.World.Lasting

/-!
# What a delivery does to its target

If nothing is about to fail (`World.Calm`), each request that writes does one thing to the rows within the target, which
is what this module says request by request (`Deals.createMessage` and so on). `World.Ready` is the state that a
delivery goes on from: the world bears what the delivery has in hand, and where the delivery found no conversation to
join, there still is none.
-/

namespace Intake

namespace MemoryStore

variable (s : MemoryStore)

theorem commit_failingWrites (tables : Except DomainError Tables) :
    (s.commit tables).2.failingWrites = s.failingWrites := by
  cases tables <;> rfl

theorem lookUp_failingWrites {α : Type} (find : Tables → α) : (s.lookUp find).2.failingWrites = s.failingWrites := by
  rw [lookUp]
  split <;> rfl

theorem createMessage_eq (m : Message) (h : s.failingWrites = 0) :
    s.createMessage m = s.commit (s.tables.addMessage m) := by
  rw [createMessage, h]

theorem createMessage_of_isSome {m : Message} (h : s.failingWrites = 0)
    (hm : (s.tables.findMessage m.inbox m.sourceId).isSome = true) :
    s.createMessage m = (.error (.duplicateSourceId m.inbox m.sourceId), s) := by
  rw [s.createMessage_eq m h, Tables.addMessage, if_pos hm]
  rfl

theorem createMessage_of_not_isSome {m : Message} (h : s.failingWrites = 0)
    (hm : (s.tables.findMessage m.inbox m.sourceId).isSome = false) :
    s.createMessage m = (.ok (), { s with tables := { s.tables with messages := s.tables.messages ++ [m] } }) := by
  rw [s.createMessage_eq m h, Tables.addMessage, if_neg (by rw [hm]; exact Bool.false_ne_true)]
  rfl

theorem upsertContact_failingWrites (clock : Time) (new : NewContact) :
    (s.upsertContact clock new).2.failingWrites = s.failingWrites := by
  rcases s.upsertContact_cases clock new with ⟨-, -, heq, -⟩ | ⟨-, ⟨_, -, heq⟩ | ⟨-, heq⟩⟩
  all_goals rw [heq]

end MemoryStore

namespace World

variable {w w' : World} {target : ResolvedChannel} {hand : Hand} {others : Multiset Snowflake} {r : Request}
  {b : r.Reply} {t : List Exchange} {fetch : Channel → MediaDescriptor → Option FetchedMedia}

/-- Nothing is about to fail. -/
structure Calm (w : World) : Prop where
  lookups : w.store.failingLookups = 0
  writes : w.store.failingWrites = 0

theorem Calm.deals (h : w.Calm) (hd : w.Deals (.calm fetch) r b w') : w'.Calm := by
  have ha := hd.answers_of_calm
  refine ⟨ha.failingLookups h.lookups, ?_⟩
  obtain ⟨clock, file, -, hb⟩ := hd.of_calm
  cases r with
  | tryClaim channel source =>
    obtain ⟨a, -, hb⟩ := Option.map_eq_some_iff.1 hb
    cases hb
    exact h.writes
  | createMessage m =>
    cases hb
    exact (congrArg (fun p => p.2.failingWrites) (w.store.createMessage_eq m h.writes)).trans
      ((w.store.commit_failingWrites _).trans h.writes)
  | updateStatus message status e =>
    cases hb
    exact (w.store.commit_failingWrites _).trans h.writes
  | upsertContact new =>
    cases hb
    exact (w.store.upsertContact_failingWrites clock new).trans h.writes
  | findChannelByPhone | findGupshupChannel =>
    cases hb
    exact (w.store.lookUp_failingWrites _).trans h.writes
  | _ =>
    cases hb
    exact h.writes

namespace Runs

theorem calm (h : Runs (.calm fetch) w t w') (hw : w.Calm) : w'.Calm := by
  induction h with
  | nil => exact hw
  | exchange hd _ ih => exact ih (hw.deals hd)
  | waits _ _ ih => exact ih ⟨hw.lookups, hw.writes⟩

theorem read (h : Runs (.calm fetch) w t w') (hw : w.Calm) : ∀ x ∈ t, x.Read := by
  induction h with
  | nil => exact fun _ hx => absurd hx List.not_mem_nil
  | exchange hd _ ih => exact List.forall_mem_cons.2 ⟨hd.answers_of_calm.read hw.lookups, ih (hw.deals hd)⟩
  | waits _ _ ih => exact ih ⟨hw.lookups, hw.writes⟩

theorem accepted (h : Runs (.calm fetch) w t w') (hw : w.Calm) : ∀ x ∈ t, x.refused = none := by
  induction h with
  | nil => exact fun _ hx => absurd hx List.not_mem_nil
  | @exchange w _ _ r _ _ hd _ ih =>
    refine List.forall_mem_cons.2 ⟨?_, ih (hw.deals hd)⟩
    cases r with
    | createMessage m =>
      obtain ⟨clock, file, -, ha⟩ := hd.of_calm
      cases ha
      dsimp only
      rw [w.store.createMessage_eq m hw.writes]
      rcases w.store.tables.addMessage_cases m with ⟨-, heq⟩ | ⟨-, heq⟩ <;> rw [heq] <;> rfl
    | _ => rfl
  | waits _ _ ih => exact ih ⟨hw.lookups, hw.writes⟩

end Runs

/-- The world is in order for a delivery to the target, and what was found vacant is so. -/
structure Ready (target : ResolvedChannel) (hand : Hand) (others : Multiset Snowflake) (w : World) : Prop where
  calm : w.Calm
  bears : w.Bears (hand.held + others)
  inbox : w.tables.HasInbox target.inbox.id target.inbox.account
  vacant : ∀ link, hand.vacant = some link →
    (w.tables.within target).findConversation link target.inbox.joinable = none

theorem Ready.deals (h : Ready target hand others w) (hr : r.Admits target hand w.tables)
    (hd : w.Deals (.calm fetch) r b w') (hrange : w'.InRange) :
    Ready target (hand.after ⟨r, b⟩) others w' ∧ w.tables.Grows w'.tables ∧ Exchange.Recorded w'.tables ⟨r, b⟩ := by
  obtain ⟨hbears, hg, hrec⟩ := h.bears.deals hr hd hrange
  refine ⟨⟨h.calm.deals hd, hbears, hg.hasInbox h.inbox, fun link hlink => ?_⟩, hg, hrec⟩
  obtain ⟨clock, file, -, ha⟩ := hd.of_calm
  cases r with
  | newId | now =>
    cases ha
    exact h.vacant link hlink
  | findConversation l filter =>
    cases ha
    obtain ⟨rfl, contact, hl⟩ := hr
    cases hf : w.tables.findConversation l target.inbox.joinable with
    | none =>
      rw [hf] at hlink
      cases hlink
      exact (h.bears.integrity.within_findConversation hl _).trans hf
    | some c =>
      rw [hf] at hlink
      cases hlink
  | _ => cases hlink

/-- The same world with other tables. -/
def withTables (w : World) (t : Tables) : World := { w with store := { w.store with tables := t } }

namespace Deals

theorem createMessage {m : Message} {b : Except DomainError Unit} (h : w.Deals (.calm fetch) (.createMessage m) b w')
    (hw : w.Calm) (hi : m.inbox = target.inbox.id) :
    (w.tables.findMessage m.inbox m.sourceId).isSome = true ∧ b = .error (.duplicateSourceId m.inbox m.sourceId) ∧
        w'.tables = w.tables ∨
      (w.tables.findMessage m.inbox m.sourceId).isSome = false ∧ b = .ok () ∧
        w'.tables.within target =
          { w.tables.within target with messages := (w.tables.within target).messages ++ [m] } := by
  obtain ⟨clock, file, -, ha⟩ := h.of_calm
  have hb : (w.store.createMessage m).1 = b ∧ w'.tables = (w.store.createMessage m).2.tables := by
    cases ha
    exact ⟨rfl, rfl⟩
  cases hfound : (w.tables.findMessage m.inbox m.sourceId).isSome with
  | true =>
    rw [w.store.createMessage_of_isSome hw.writes hfound] at hb
    exact .inl ⟨rfl, hb.1.symm, hb.2⟩
  | false =>
    rw [w.store.createMessage_of_not_isSome hw.writes hfound] at hb
    exact .inr ⟨rfl, hb.1.symm, (congrArg (·.within target) hb.2).trans (Tables.within_addMessage hi)⟩

theorem updateStatus {message account : Snowflake} {status : MessageStatus} {e : Option String}
    {b : Except DomainError Unit} (h : w.Deals (.calm fetch) (.updateStatus message status e) b w')
    (hw : w.tables.Integrity) (hm : w.tables.HasMessage message target.inbox.id account) :
    b = .ok () ∧ w'.tables.within target = { w.tables.within target with
      messages := (w.tables.within target).messages.map fun m =>
        if m.id = message then m.applyStatus status e else m } := by
  obtain ⟨clock, file, -, ha⟩ := h.of_calm
  obtain ⟨t, ht, hwithin⟩ := hw.within_updateStatus hm status e
  have hcommit : w.store.updateStatus message status e = (.ok (), { w.store with tables := t }) :=
    congrArg w.store.commit ht
  have hb : (w.store.updateStatus message status e).1 = b ∧
      w'.tables = (w.store.updateStatus message status e).2.tables := by
    cases ha
    exact ⟨rfl, rfl⟩
  rw [hcommit] at hb
  exact ⟨hb.1.symm, (congrArg (·.within target) hb.2).trans hwithin⟩

theorem createConversation {c : Conversation} {b : Except DomainError Unit}
    (h : w.Deals (.calm fetch) (.createConversation c) b w') (hi : c.inbox = target.inbox.id) :
    b = .ok () ∧ w'.tables.within target = (w.tables.within target).addConversation c := by
  obtain ⟨clock, file, -, ha⟩ := h.of_calm
  cases ha
  exact ⟨rfl, Tables.within_addConversation hi⟩

theorem createAttachment {a : Attachment} {b : Except DomainError Unit}
    (h : w.Deals (.calm fetch) (.createAttachment a) b w') (ha : a.account = target.inbox.account) :
    b = .ok () ∧ w'.tables.within target = (w.tables.within target).addAttachment a := by
  obtain ⟨clock, file, -, hb⟩ := h.of_calm
  cases hb
  exact ⟨rfl, Tables.within_addAttachment ha⟩

theorem upsertContact {new : NewContact} {b : Except DomainError ResolvedContact}
    (h : w.Deals (.calm fetch) (.upsertContact new) b w') :
    ∃ clock s, w.store.upsertContact clock new = (b, s) ∧ w' = { w with store := s } := by
  obtain ⟨clock, file, -, ha⟩ := h.of_calm
  cases ha
  exact ⟨clock, _, rfl, rfl⟩

end Deals

/-- The store has made one more id. -/
def advance (w : World) (clock : Time) : World := { w with store := (w.store.newId clock).2 }

theorem Bears.advance {clock : Time} {held : Multiset Snowflake} (h : w.Bears held)
    (hrange : (w.store.ids.generate clock).2.stamp < 2 ^ 54) : (w.advance clock).Bears held :=
  ⟨h.coherent, h.made, (h.kept.generate hrange).mono (Multiset.le_cons_self _ _)⟩

theorem Bears.findConversation_eq_none {held : Multiset Snowflake} (h : w.Bears held) (target : ResolvedChannel)
    {link : Snowflake} (hl : ¬ w.store.ids.Issued link) (filter : ConversationFilter) :
    (w.tables.within target).findConversation link filter = none := by
  refine Tables.findConversation_eq_none_iff.2 fun c hc hboth => hl ?_
  obtain ⟨l, hmem, hid, -⟩ := (h.coherent.conversations c (List.mem_filter.1 hc).1).2
  refine h.kept.issued link ?_
  rw [← hboth.1, ← hid]
  exact Multiset.mem_add.2 (.inr (Multiset.mem_coe.2 (List.mem_map_of_mem hmem)))

theorem upsertContact_linked (h : w.tables.Integrity) (hi : w.tables.HasInbox target.inbox.id target.inbox.account)
    {new : NewContact} (hinbox : new.inbox = target.inbox.id) {l : ContactInbox}
    (hl : w.tables.findContactInbox new.inbox new.sourceId = some l) (clock : Time) :
    ∃ c, (w.tables.within target).findContact l.contact = some c ∧
      w.store.upsertContact clock new = (.ok ⟨c, l⟩, w.store) := by
  obtain ⟨hmem, hlinked, -⟩ := Tables.findContactInbox_eq_some hl
  obtain ⟨c, hc, hfound⟩ := h.within_findContact hi hmem (hlinked.trans hinbox)
  refine ⟨c, hc, ?_⟩
  change w.store.tables.findContactInbox _ _ = _ at hl
  change w.store.tables.findContact _ = _ at hfound
  rw [MemoryStore.upsertContact, hl]
  dsimp only
  rw [hfound]

end World

end Intake
