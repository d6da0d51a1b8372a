import Intake.Proofs.Clashes.Stored
import Intake.Proofs.Conversations.Looking
import Intake.Proofs.Downloads.Akin
import Intake.Proofs.Retry.Cards
import Intake.Proofs.Standing.Told

/-!
# Shared contacts

An event may share contacts, as cards. Each card is made into a message of its own (`cardLetter`), all of them in one
conversation with the sender. If none of their ids is stored and nothing fails then all are stored, in the order of the
cards (`shared_contacts_stored`): the ids that are derived from the event's are different, so no card is taken for
another one that was stored before it.
-/

namespace Intake

open Ingest

namespace Ingest

/-- What the message of a card says. -/
def cardLetter (replyTo : Option String) (card : ContactCard) : Letter where
  content := card.name.getD MessageContent.placeholder
  replyTo
  files := cardFiles card

/-- There is one draft for each card, in order; the first card has the index `first`. -/
def ConveyCards (inbox : Inbox) (source : String) (replyTo : Option String) (v : Conversation) (c : Contact)
    (first : Nat) (cards : List ContactCard) (ds : List Draft) : Prop :=
  List.Forall₂ (fun d (card, i) => (cardLetter replyTo card).Conveys inbox (cardSourceId source i) v c d) ds
    (cards.zipIdx first)

variable {inbox : Inbox} {source : String} {replyTo : Option String} {v : Conversation} {c : Contact} {first : Nat}
  {cards : List ContactCard} {ds : List Draft} {t : List Exchange} {letter : Letter} {d : Draft}

theorem Letter.Conveys.record (h : letter.Conveys inbox source v c d) : d.message.record = d.message := by
  obtain ⟨id, time, hm⟩ := h.message
  rw [hm]
  rfl

theorem draftCards_conveys (h : (draftCards (drafter inbox v c replyTo) source first cards).Yields t ds) :
    ConveyCards inbox source replyTo v c first cards ds := by
  induction cards generalizing first t ds with
  | nil =>
    obtain ⟨-, rfl⟩ := h
    exact .nil
  | cons card cards ih =>
    obtain ⟨t₁, m, t₂, rfl, hm, h⟩ := Program.yields_bind.1 h
    obtain ⟨t₃, as, t₄, rfl, has, h⟩ := Program.yields_bind.1 h
    obtain ⟨t₅, rest, t₆, rfl, hrest, -, rfl⟩ := Program.yields_bind.1 h
    exact .cons ⟨drafter_yields hm, fallbacks_files has⟩ (ih hrest)

namespace ConveyCards

theorem record (h : ConveyCards inbox source replyTo v c first cards ds) :
    ∀ d ∈ ds, d.message.record = d.message := by
  induction cards generalizing first ds with
  | nil =>
    cases h
    exact nofun
  | cons card cards ih =>
    cases h with
    | cons hd hds => exact List.forall_mem_cons.2 ⟨hd.record, ih hds⟩

theorem length_eq (h : ConveyCards inbox source replyTo v c first cards ds) : ds.length = cards.length := by
  rw [List.Forall₂.length_eq h, List.length_zipIdx]

theorem attachments (h : ConveyCards inbox source replyTo v c first cards ds) :
    (ds.flatMap (·.attachments)).length = (cards.map fun card => (cardFiles card).length).sum := by
  induction cards generalizing first ds with
  | nil =>
    cases h
    rfl
  | cons card cards ih =>
    cases h with
    | cons hd hds =>
      rw [List.flatMap_cons, List.length_append, List.map_cons, List.sum_cons, ih hds, hd.files.length_eq]
      rfl

end ConveyCards

theorem persist_cards_fetches_nothing (target : ResolvedChannel) {m : InboundMessage}
    (hm : m.content = .contacts cards) (hne : cards ≠ []) (new : NewContact) :
    (persist target source m new).run.Asks (·.isFetch = false) := by
  obtain ⟨card, rest, rfl⟩ := List.exists_cons_of_ne_nil hne
  refine asks_persist rfl rfl (fun r hr => ?_) (fun v c => ?_)
    fun v c t ds _ => (write_records source ds).mono fun r hr => ?_
  · cases r <;> first | rfl | cases hr
  · unfold drafts
    rw [hm]
    refine (draftCards_plain (fun _ _ => drafter_plain ..) ..).mono fun r hr => ?_
    cases r <;> first | rfl | cases hr
  · cases r <;> first | rfl | cases hr

theorem handleEvent_cards_fetches_nothing (target : ResolvedChannel) {e : IncomingEvent} {m : InboundMessage}
    (he : e.Accepted m) (hm : m.content = .contacts cards) (hne : cards ≠ []) :
    (handleEvent target e).run.Asks (·.isFetch = false) := by
  obtain ⟨new, hclaimed⟩ := handleEvent_of_accepted target he
  rw [hclaimed]
  exact asks_claimed rfl rfl (persist_cards_fetches_nothing target hm hne new)

end Ingest

namespace Tables

variable {t u : Tables} {d : Draft} {ds : List Draft} {inbox : Inbox} {new : NewContact} {c : ResolvedContact}
  {v : Conversation}

def addDrafts (t : Tables) (ds : List Draft) : Tables :=
  { t with
    messages := t.messages ++ ds.map (·.message)
    attachments := t.attachments ++ ds.flatMap (·.attachments) }

theorem addDrafts_nil (t : Tables) : t.addDrafts [] = t := by
  simp [addDrafts]

theorem addDrafts_cons (t : Tables) (d : Draft) (ds : List Draft) :
    t.addDrafts (d :: ds) = (t.addDraft d).addDrafts ds := by
  simp [addDrafts, addDraft]

theorem addDraft_keys (t : Tables) (d : Draft) : (t.addDraft d).keys = t.keys ++ [d.key] := by
  simp [keys, addDraft, Draft.key]

/-- The drafts are new to the tables and to each other, and as messages arrive. -/
structure Lacks (t : Tables) (ds : List Draft) : Prop where
  fresh : ∀ d ∈ ds, d.message.record = d.message
  distinct : (ds.map Draft.key).Nodup
  missing : ∀ k ∈ ds.map Draft.key, k ∉ t.keys

theorem Lacks.head (h : t.Lacks (d :: ds)) : d.message.record = d.message ∧ d.key ∉ t.keys :=
  ⟨h.fresh d List.mem_cons_self, h.missing _ List.mem_cons_self⟩

theorem Lacks.tail (h : t.Lacks (d :: ds)) : (t.addDraft d).Lacks ds := by
  obtain ⟨hd, hdistinct⟩ := List.nodup_cons.1 h.distinct
  refine ⟨(List.forall_mem_cons.1 h.fresh).2, hdistinct, fun k hk => ?_⟩
  rw [addDraft_keys, List.mem_append, List.mem_singleton]
  rintro (hmem | rfl)
  · exact h.missing k (List.mem_cons_of_mem _ hk) hmem
  · exact hd hk

/-- Making ready does not depend on what became of other messages. -/
theorem Readies.of_recorded (h : t.recorded.Readies inbox new c v u) :
    t.Readies inbox new c v { u with messages := t.messages } := by
  obtain ⟨hl, hj⟩ := h
  cases hl <;> cases hj
  · exact ⟨.linked ‹_› ‹_›, .existing ‹_›⟩
  · exact ⟨.linked ‹_› ‹_›, .opened ‹_› ‹_›⟩
  · exact ⟨.known ‹_› ‹_› ‹_›, .existing ‹_›⟩
  · exact ⟨.known ‹_› ‹_› ‹_›, .opened ‹_› ‹_›⟩
  · exact ⟨.new ‹_› ‹_› ‹_› ‹_›, .existing ‹_›⟩
  · exact ⟨.new ‹_› ‹_› ‹_› ‹_›, .opened ‹_› ‹_›⟩

theorem Readies.messages (h : t.Readies inbox new c v u) : u.messages = t.messages := by
  obtain ⟨hl, hj⟩ := h
  cases hj <;> exact hl.messages

theorem Readies.attachments (h : t.Readies inbox new c v u) : u.attachments = t.attachments := by
  obtain ⟨hl, hj⟩ := h
  cases hl <;> cases hj <;> rfl

end Tables

theorem Exchange.message?_eq_some {x : Exchange} {m : Message} :
    x.message? = some m ↔ x = ⟨.createMessage m, .ok ()⟩ := by
  constructor
  · intro h
    obtain ⟨r, b⟩ := x
    cases r with
    | createMessage =>
      cases b with
      | ok =>
        cases h
        rfl
      | error => cases h
    | _ => cases h
  · rintro rfl
    rfl

/-! ## Writing all of them -/

namespace World

variable {fetch : Channel → MediaDescriptor → Option FetchedMedia} {w w' : World} {t q : List Exchange} {d : Draft}
  {ds : List Draft} {source : String} {r : Except DomainError EventOutcome} {n : Nat}

namespace Runs

theorem creates {b : Except DomainError Unit} (hr : w.Runs (.flaky fetch) (⟨.createMessage d.message, b⟩ :: t) w')
    (hb : Exchange.refused ⟨.createMessage d.message, b⟩ = none) (hd : w.tables.recorded.Lacks (d :: ds)) :
    b = .ok () ∧ ∃ w₁ : World, w₁.Runs (.flaky fetch) t w' ∧
      w₁.tables.recorded = { w.tables.recorded with messages := w.tables.recorded.messages ++ [d.message] } := by
  obtain ⟨w₁, hr₁, hr₂⟩ := hr.head
  rcases hr₁.createMessage with ⟨-, ⟨_, -, hrefused⟩ | hmem⟩ | ⟨hok, hwritten⟩
  · cases hb.symm.trans hrefused
  · exact absurd hmem hd.head.2
  · exact ⟨hok, w₁, hr₂, hd.head.1 ▸ hwritten⟩

theorem createsDraft (hr : w.Runs (.flaky fetch) (⟨.createMessage d.message, .ok ()⟩ :: (q ++ t)) w')
    (ha : (writeAttachments d.attachments).Yields q n) (hd : w.tables.recorded.Lacks (d :: ds)) :
    ∃ w₁ : World, w₁.Runs (.flaky fetch) t w' ∧ w₁.tables.recorded = w.tables.recorded.addDraft d := by
  obtain ⟨-, w₁, hr₁, hwritten⟩ := hr.creates rfl hd
  obtain ⟨w₂, hr₂, hr₃⟩ := hr₁.split
  refine ⟨w₂, hr₃, ?_⟩
  rw [hr₂.attaches ha, hwritten]
  rfl

theorem writesRest {messages : List Snowflake} {count : Nat} (hr : w.Runs (.flaky fetch) t w')
    (h : (writeRest source messages count ds).run.Yields t r) (hacc : ∀ x ∈ t, x.refused = none)
    (hds : w.tables.recorded.Lacks ds) : w'.tables.recorded = w.tables.recorded.addDrafts ds := by
  induction ds generalizing w t messages count with
  | nil =>
    obtain ⟨rfl, rfl⟩ := h
    obtain ⟨now, rfl⟩ := hr.nil_eq
    exact (Tables.addDrafts_nil _).symm
  | cons d ds ih =>
    rw [writeRest] at h
    obtain ⟨t₁, b, t₂, rfl, h₁, h₂⟩ := Attempt.yields_lift_bind.1 h
    obtain rfl := Program.yields_request.1 h₁
    obtain ⟨rfl, -⟩ := hr.creates (hacc _ List.mem_cons_self) hds
    obtain ⟨q, n, t₃, rfl, h₃, h₄⟩ := Attempt.yields_lift_bind.1 h₂
    rw [List.singleton_append] at hr
    obtain ⟨w₁, hr₁, hw₁⟩ := hr.createsDraft h₃ hds
    rw [Tables.addDrafts_cons, ← hw₁]
    exact ih hr₁ h₄ (fun x hx => hacc x (by simp [hx])) (hw₁ ▸ hds.tail)

/-- Drafts that are not there are written, with their attachments, if none is refused. -/
theorem writesAll (hr : w.Runs (.flaky fetch) t w') (h : (write source ds).run.Yields t r)
    (hacc : ∀ x ∈ t, x.refused = none) (hds : w.tables.recorded.Lacks ds) :
    w'.tables.recorded = w.tables.recorded.addDrafts ds := by
  cases write_cases h with
  | nothing =>
    obtain ⟨now, rfl⟩ := hr.nil_eq
    exact (Tables.addDrafts_nil _).symm
  | beaten =>
    obtain ⟨heq, -⟩ := hr.creates rfl hds
    cases heq
  | refused hrefused => cases (hacc _ List.mem_cons_self).symm.trans hrefused
  | written ha hrest =>
    obtain ⟨w₁, hr₁, hw₁⟩ := hr.createsDraft ha hds
    rw [Tables.addDrafts_cons, ← hw₁]
    exact hr₁.writesRest hrest (fun x hx => hacc x (by simp [hx])) (hw₁ ▸ hds.tail)

theorem messages_of_ingests {o : Conditions} (hr : w.Runs o t w') (ht : ∀ x ∈ t, x.request.Ingests) :
    w'.tables.messages = w.tables.messages ++ writtenMessages t ∧
      (writtenMessages t).map Message.record = writtenMessages t := by
  induction hr with
  | @nil w => exact ⟨(List.append_nil _).symm, rfl⟩
  | @exchange w w₁ w' r b t hd _ ih =>
    obtain ⟨hx, ht⟩ := List.forall_mem_cons.1 ht
    obtain ⟨hm, hfresh⟩ := ih ht
    cases hwritten : Exchange.message? ⟨r, b⟩ with
    | some m =>
      cases Exchange.message?_eq_some.1 hwritten
      rw [writtenMessages, List.filterMap_cons_some hwritten, ← writtenMessages, List.map_cons, hfresh, hm,
        hd.messages_of_stored, List.append_assoc]
      exact ⟨rfl, congrArg (· :: _) hx⟩
    | none =>
      rw [writtenMessages, List.filterMap_cons_none hwritten, ← writtenMessages, hm]
      refine ⟨congrArg (· ++ _) (hd.messages_eq (fun m heq => ?_) fun id status error heq => ?_), hfresh⟩
      · cases hwritten.symm.trans (Exchange.message?_eq_some.2 heq)
      · cases heq
        exact hx
  | waits _ _ ih => exact ih ht

theorem persists_cards {target : ResolvedChannel} {m : InboundMessage} {new : NewContact} {cards : List ContactCard}
    (hr : w.Runs (.calm fetch) t w') (h : (persist target source m new).run.Yields t r) (hw : w.Calm)
    (hroot : w.tables.Rooted) (hcards : m.content = .contacts cards) (hne : cards ≠ [])
    (hnew : ∀ i < cards.length, (target.inbox.id, cardSourceId source i) ∉ w.tables.keys) :
    (∃ messages count, r = .ok (.messageCreated source messages count)) ∧
      ∃ c v u ds, w.tables.recorded.Readies target.inbox new c v u ∧ w'.tables.recorded = u.addDrafts ds ∧
        ConveyCards target.inbox source m.replyTo v c.contact 0 cards ds := by
  have hkeys : ∀ k ∈ messageKeys target source m, k ∉ w.tables.keys := (forall_messageKeys_contacts hcards hne).2 hnew
  obtain ⟨outcome, rfl⟩ := hr.persist_ok hw hroot h
  rcases hr.keys_of_persisted (persist_yields h) with ⟨hmem, -⟩ | ⟨-, ⟨messages, count, rfl⟩, -⟩
  · exact absurd hmem (hkeys _ (mem_messageKeys_self target source m))
  refine ⟨⟨messages, count, rfl⟩, ?_⟩
  generalize hok : Except.ok (EventOutcome.messageCreated source messages count) = r at h
  cases persist_cases h with
  | unread | found | unlinked | unjoined => cases hok
  | @drafted c v ds t₁ t₂ t₃ _ hj hd hwrite =>
    obtain ⟨-, w₁, w₂, -, hready, hr₂⟩ :=
      hr.flaky.readies (hroot.congr rfl rfl) hj ((drafts_supplies (drafter_supplies _ _ _ _) ..).mem hd)
    have hds : DraftsOf target source m ds := drafts_keys (fun _ _ _ _ => drafter_key) hd
    have hconvey : ConveyCards target.inbox source m.replyTo v c.contact 0 cards ds := by
      obtain ⟨card, rest, rfl⟩ := List.exists_cons_of_ne_nil hne
      unfold drafts at hd
      rw [hcards] at hd
      exact draftCards_conveys hd
    have hlacks : w₂.tables.recorded.Lacks ds := by
      refine ⟨hconvey.record, hds ▸ messageKeys_nodup target source m, fun k hk => ?_⟩
      rw [hready.keys, w.tables.recorded_keys]
      exact hkeys k (hds ▸ hk)
    refine ⟨c, v, w₂.tables.recorded, ds, hready, hr₂.writesAll hwrite (fun x hx => ?_) hlacks, hconvey⟩
    exact hr.accepted hw x (by simp [hx])

end Runs

theorem Runs.stores_cards {target : ResolvedChannel} {e : IncomingEvent} {m : InboundMessage} {cards : List ContactCard}
    (hr : w.Runs (.calm fetch) t w') (h : (handleEvent target e).run.Yields t r) (hw : w.Calm)
    (hroot : w.tables.Rooted) (hm : e.Accepted m) (hcards : m.content = .contacts cards) (hne : cards ≠ [])
    (hnew : ∀ i < cards.length, (target.inbox.id, cardSourceId e.sourceId i) ∉ w.tables.keys)
    (hgranted : ⟨.tryClaim target.channel.id e.sourceId, .ok true⟩ ∈ t) :
    ∃ new c v u ds messages count, accept target.inbox e.sender m = .ok new ∧
      w.tables.recorded.Readies target.inbox new c v u ∧
      ConveyCards target.inbox e.sourceId m.replyTo v c.contact 0 cards ds ∧ w'.tables.recorded = u.addDrafts ds ∧
      r = .ok (.messageCreated e.sourceId messages count) := by
  cases handleEvent_cases h with
  | unfit => cases hgranted
  | reported hb => cases hb.symm.trans hm.body
  | announced hb => cases hb.symm.trans hm.body
  | @claimed m' new _ _ hb haccept hclaimed =>
    cases hb.symm.trans hm.body
    cases hclaimed with
    | failed | denied => cases List.mem_singleton.1 hgranted
    | granted hpersist =>
      obtain ⟨w₁, w₂, hr₁, hr₂, hclaim, hrelease⟩ := hr.under_claim
      obtain ⟨⟨messages, count, rfl⟩, c, v, u, ds, hready, hrecorded, hconvey⟩ :=
        hr₂.persists_cards hpersist (hr₁.calm hw) (hr₁.rooted hroot) hcards hne (hclaim ▸ hnew)
      rw [hclaim] at hready
      rw [← hrelease] at hrecorded
      exact ⟨new, c, v, u, ds, messages, count, haccept, hready, hconvey, hrecorded, rfl⟩

end World

/-! ## In every reachable store -/

theorem Pool.Reached.rooted {n : Nat} {P : Pool WebhookJob (Except DomainError IngestReport)} (h : Reached n P) :
    P.world.tables.Rooted := by
  induction h with
  | empty => exact nofun
  | seed provider phone credentials _ _ ih => exact ih.congr rfl rfl
  | arrive _ _ ih | wait _ _ ih => exact ih
  | turn _ hd ih => exact hd.rooted ih
  | change _ hs ih => cases hs <;> exact ih.congr rfl rfl

/-- An event that shares contacts is stored as one message for each card, in the order of the cards. It may come to any
store that can come about, at a moment when nothing is about to fail and none of its ids is stored, and it must get its
claim, as it does if nobody holds it. The messages are all in one conversation with the sender, each with an attachment
for every phone number; they are what the tables have more than before, except for a contact, a link and a conversation
that were missing. Nothing is downloaded. -/
theorem shared_contacts_stored {n : Nat} {P : Pool WebhookJob (Except DomainError IngestReport)}
    {target : ResolvedChannel} {e : IncomingEvent} {m : InboundMessage} {cards : List ContactCard}
    (hP : Pool.Reached n P) (hcalm : P.world.Calm) (hm : e.Accepted m) (hcards : m.content = .contacts cards)
    (hne : cards ≠ [])
    (hnew : ∀ i < cards.length, (target.inbox.id, cardSourceId e.sourceId i) ∉ P.world.tables.keys)
    (fetch : Channel → MediaDescriptor → Option FetchedMedia) :
    (¬P.world.Claimed (target.channel.id, e.sourceId) →
      (P.world.instant.deadline? P.world.guard.ttl).isSome = true →
      ∃ t r w', (handleEvent target e).run.Yields t r ∧ P.world.Runs (.calm fetch) t w' ∧
        ⟨.tryClaim target.channel.id e.sourceId, .ok true⟩ ∈ t) ∧
    ∀ t r w', (handleEvent target e).run.Yields t r → P.world.Runs (.calm fetch) t w' →
      ⟨.tryClaim target.channel.id e.sourceId, .ok true⟩ ∈ t →
      (∃ new c v u ds, accept target.inbox e.sender m = .ok new ∧ P.world.tables.Readies target.inbox new c v u ∧
        ConveyCards target.inbox e.sourceId m.replyTo v c.contact 0 cards ds ∧ ds.length = cards.length ∧
        w'.tables = u.addDrafts ds ∧ w'.tables.messages = P.world.tables.messages ++ ds.map (·.message) ∧
        w'.tables.attachments = P.world.tables.attachments ++ ds.flatMap (·.attachments) ∧
        r = .ok (.messageCreated e.sourceId (ds.map (·.message.id))
          (cards.map fun card => (cardFiles card).length).sum)) ∧
      ∀ x ∈ t, x.request.isFetch = false := by
  refine ⟨fun hfree hdeadline => ?_, fun t r w' hy hr hgranted => ?_⟩
  · obtain ⟨t, r, w', hy, hr⟩ := World.exists_runs fetch (handleEvent target e).run hdeadline
    obtain ⟨new, hclaimed⟩ := handleEvent_of_accepted target hm
    obtain ⟨_, _, rfl, -⟩ := hr.granted (claimed_cases (hclaimed ▸ hy)) hfree
    exact ⟨_, r, w', hy, hr, List.mem_cons_self⟩
  obtain ⟨new, c, v, u, ds, messages, count, haccept, hready, hconvey, hrecorded, rfl⟩ :=
    hr.stores_cards hy hcalm hP.rooted hm hcards hne hnew hgranted
  have hbody : ∀ report, e.body ≠ .status report := fun report hb => by cases hm.body.symm.trans hb
  obtain ⟨hmessages, hfresh⟩ := hr.messages_of_ingests ((handleEvent_ingests hbody).mem hy)
  obtain ⟨-, hcounted⟩ := handleEvent_counts hy
  -- What was written are the messages of the drafts, and their attachments.
  have hwritten : writtenMessages t = ds.map (·.message) := by
    have hrecords : w'.tables.records = P.world.tables.records ++ ds.map (·.message) := by
      change w'.tables.recorded.messages = _
      rw [hrecorded, Tables.addDrafts, hready.messages]
      rfl
    rw [hr.records, hfresh] at hrecords
    exact List.append_cancel_left hrecords
  have hattached : writtenAttachments t = ds.flatMap (·.attachments) := by
    have hall : w'.tables.recorded.attachments = P.world.tables.attachments ++ ds.flatMap (·.attachments) := by
      rw [hrecorded, Tables.addDrafts, hready.attachments]
      rfl
    exact List.append_cancel_left (hr.attachments.symm.trans hall)
  rw [hwritten] at hmessages
  refine ⟨⟨new, c, v, { u with messages := P.world.tables.messages }, ds, haccept, hready.of_recorded, hconvey,
    hconvey.length_eq, ?_, hmessages, hattached ▸ hr.attachments, ?_⟩,
    (handleEvent_cards_fetches_nothing target hm hcards hne).mem hy⟩
  · change { w'.tables.recorded with messages := w'.tables.messages } = _
    rw [hrecorded, hmessages]
    rfl
  · have hids : messages = ds.map (·.message.id) := by
      refine hcounted.messages.trans ?_
      rw [hwritten, List.map_map]
      rfl
    have hcount : count = (cards.map fun card => (cardFiles card).length).sum := by
      refine hcounted.attachments.trans ?_
      rw [hattached, hconvey.attachments]
    rw [hids, hcount]

theorem Sample.world_reached : Pool.Reached 1 ⟨Sample.world, []⟩ :=
  .seed .default "+15550001" ⟨[]⟩ Sample.pool_reached (by decide)

/-- Two contacts with one phone number each, in a store with one channel. -/
theorem two_contacts_stored : ∃ n P target e m t r w', Pool.Reached n P ∧ P.world.Calm ∧ e.Accepted m ∧
    m.content = .contacts [Sample.ada, Sample.grace] ∧
    (∀ i < [Sample.ada, Sample.grace].length, (target.inbox.id, cardSourceId e.sourceId i) ∉ P.world.tables.keys) ∧
    (handleEvent target e).run.Yields t r ∧ P.world.Runs (.calm fun _ _ => none) t w' ∧
    ⟨.tryClaim target.channel.id e.sourceId, .ok true⟩ ∈ t ∧
    w'.tables.messages.length = P.world.tables.messages.length + 2 ∧
    ∃ messages, messages.length = 2 ∧ r = .ok (.messageCreated e.sourceId messages 2) := by
  obtain ⟨⟨target, e, m⟩, hmem⟩ : ∃ p, p ∈ Sample.world.tables.accepted Sample.cards := by
    refine List.exists_mem_of_ne_nil _ ?_
    decide +kernel
  obtain ⟨-, -, hm⟩ := Tables.mem_accepted_iff.1 hmem
  obtain ⟨hcards, hfresh, -⟩ := Sample.cards_fresh hmem
  have hcalm : Sample.world.Calm := ⟨rfl, rfl⟩
  have hne : [Sample.ada, Sample.grace] ≠ [] := List.cons_ne_nil _ _
  have hnew : ∀ i < [Sample.ada, Sample.grace].length,
      (target.inbox.id, cardSourceId e.sourceId i) ∉ Sample.world.tables.keys := fun i hi =>
    hfresh _ ((mem_messageIds_contacts hcards hne).2 ⟨i, hi, rfl⟩)
  obtain ⟨hexists, hall⟩ := shared_contacts_stored Sample.world_reached hcalm hm hcards hne hnew fun _ _ => none
  obtain ⟨t, r, w', hy, hr, hgranted⟩ := hexists (Sample.not_claimed _) (by decide)
  obtain ⟨⟨new, c, v, u, ds, -, -, -, hlen, -, hmessages, -, houtcome⟩, -⟩ := hall t r w' hy hr hgranted
  refine ⟨1, _, target, e, m, t, r, w', Sample.world_reached, hcalm, hm, hcards, hnew, hy, hr, hgranted, ?_,
    _, ?_, houtcome⟩
  · rw [hmessages, List.length_append, List.length_map, hlen]
    rfl
  · rw [List.length_map, hlen]
    rfl

end Intake
