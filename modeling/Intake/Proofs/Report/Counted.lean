import Intake.Proofs.Delivery.Perform
import Mathlib.Algebra.GroupWithZero.Nat

/-!
# What a report counts

A report says which messages were written and how many attachments. `writtenMessages` and `writtenAttachments` read the
same off the exchanges of a delivery, so that `EventOutcome.Counts` ties an outcome to the exchanges of its event: one
lemma for each function that writes, and everything else writes nothing.
-/

namespace Intake

/-- Whether the request writes a row that reports count. -/
def Request.isCounted : Request → Bool
  | createMessage _ | createAttachment _ => true
  | _ => false

theorem Request.isCounted_of_isSupply {r : Request} (h : r.isSupply = true) : r.isCounted = false := by
  cases r <;> trivial

theorem Request.isCounted_of_isJoin {r : Request} (h : r.isJoin = true) : r.isCounted = false := by
  cases r <;> trivial

theorem Request.isCounted_of_isLookup {r : Request} (h : r.isLookup = true) : r.isCounted = false := by
  cases r <;> trivial

theorem Request.isCounted_of_isFollowUp {r : Request} (h : r.isFollowUp = true) : r.isCounted = false := by
  cases r <;> trivial

namespace Exchange

def message? : Exchange → Option Message
  | ⟨.createMessage m, .ok _⟩ => some m
  | _ => none

def attachment? : Exchange → Option Attachment
  | ⟨.createAttachment a, .ok _⟩ => some a
  | _ => none

theorem not_counted {x : Exchange} (h : x.request.isCounted = false) : x.message? = none ∧ x.attachment? = none := by
  obtain ⟨r, b⟩ := x
  cases r <;> first | exact ⟨rfl, rfl⟩ | cases h

end Exchange

/-- The messages that were written, in order. -/
def writtenMessages (t : List Exchange) : List Message := t.filterMap Exchange.message?

def writtenAttachments (t : List Exchange) : List Attachment := t.filterMap Exchange.attachment?

@[simp] theorem writtenMessages_append (t t' : List Exchange) :
    writtenMessages (t ++ t') = writtenMessages t ++ writtenMessages t' := List.filterMap_append

@[simp] theorem writtenAttachments_append (t t' : List Exchange) :
    writtenAttachments (t ++ t') = writtenAttachments t ++ writtenAttachments t' := List.filterMap_append

/-- Nothing is written that a report counts. -/
structure Uncounted (t : List Exchange) : Prop where
  messages : writtenMessages t = []
  attachments : writtenAttachments t = []

namespace Uncounted

variable {t t' : List Exchange}

theorem nil : Uncounted [] := ⟨rfl, rfl⟩

theorem of_requests (h : ∀ x ∈ t, x.request.isCounted = false) : Uncounted t :=
  ⟨List.filterMap_eq_nil_iff.2 fun x hx => (Exchange.not_counted (h x hx)).1,
    List.filterMap_eq_nil_iff.2 fun x hx => (Exchange.not_counted (h x hx)).2⟩

theorem of_asks {α : Type} {P : Request → Prop} {p : Program α} {a : α} (hp : p.Asks P) (h : p.Yields t a)
    (hP : ∀ r, P r → r.isCounted = false) : Uncounted t :=
  of_requests fun x hx => hP _ (hp.mem h x hx)

theorem append (h : Uncounted t) (h' : Uncounted t') : Uncounted (t ++ t') := by
  constructor
  · rw [writtenMessages_append, h.messages, h'.messages, List.append_nil]
  · rw [writtenAttachments_append, h.attachments, h'.attachments, List.append_nil]

end Uncounted

namespace EventOutcome

/-- The messages that the outcome says were created. -/
def messages : EventOutcome → List Snowflake
  | messageCreated _ messages _ => messages
  | _ => []

/-- How many attachments the outcome says were written. -/
def attachments : EventOutcome → Nat
  | messageCreated _ _ count => count
  | _ => 0

/-- The outcome says what was written in the exchanges. -/
structure Counts (outcome : EventOutcome) (t : List Exchange) : Prop where
  messages : outcome.messages = (writtenMessages t).map (·.id)
  attachments : outcome.attachments = (writtenAttachments t).length

variable {outcome : EventOutcome} {t t' : List Exchange}

theorem Counts.of_uncounted (h : Uncounted t) (hm : outcome.messages = []) (ha : outcome.attachments = 0) :
    outcome.Counts t := by
  constructor
  · rw [h.messages, hm, List.map_nil]
  · rw [h.attachments, ha, List.length_nil]

theorem Counts.append_left (h : outcome.Counts t') (ht : Uncounted t) : outcome.Counts (t ++ t') := by
  constructor
  · rw [writtenMessages_append, ht.messages, List.nil_append, h.messages]
  · rw [writtenAttachments_append, ht.attachments, List.nil_append, h.attachments]

theorem Counts.append_right (h : outcome.Counts t) (ht : Uncounted t') : outcome.Counts (t ++ t') := by
  constructor
  · rw [writtenMessages_append, ht.messages, List.append_nil, h.messages]
  · rw [writtenAttachments_append, ht.attachments, List.append_nil, h.attachments]

theorem Counts.of_created?_eq_none (h : Uncounted t) (hc : outcome.created? = none) : outcome.Counts t := by
  cases outcome with
  | messageCreated => cases hc
  | _ => exact .of_uncounted h rfl rfl

end EventOutcome

theorem IngestReport.createdMessages_eq (r : IngestReport) :
    r.createdMessages = r.outcomes.flatMap EventOutcome.messages := rfl

namespace Ingest

variable {target : ResolvedChannel} {source : String} {e : IncomingEvent} {t : List Exchange} {outcome : EventOutcome}

/-! ## Writing -/

theorem writeAttachments_counts {as : List Attachment} {n : Nat} (h : (writeAttachments as).Yields t n) :
    n = (writtenAttachments t).length ∧ writtenMessages t = [] := by
  induction as generalizing t n with
  | nil =>
    obtain ⟨rfl, rfl⟩ := h
    exact ⟨rfl, rfl⟩
  | cons a as ih =>
    obtain ⟨t₁, reply, t₂, rfl, h₁, h₂⟩ := Program.yields_bind.1 h
    obtain ⟨t₃, rest, t₄, rfl, h₃, rfl, rfl⟩ := Program.yields_bind.1 h₂
    obtain rfl := Program.yields_request.1 h₁
    obtain ⟨rfl, hm⟩ := ih h₃
    rw [List.append_nil, List.singleton_append]
    cases reply with
    | ok => exact ⟨rfl, hm⟩
    | error => exact ⟨rfl, hm⟩

/-- What a written message adds to the exchanges of the drafts after it. -/
theorem written_cons {m : Message} {q t : List Exchange} (hq : writtenMessages q = []) :
    writtenMessages (⟨.createMessage m, .ok ()⟩ :: (q ++ t)) = m :: writtenMessages t ∧
      writtenAttachments (⟨.createMessage m, .ok ()⟩ :: (q ++ t)) = writtenAttachments q ++ writtenAttachments t := by
  constructor
  · change m :: writtenMessages (q ++ t) = _
    rw [writtenMessages_append, hq, List.nil_append]
  · change writtenAttachments (q ++ t) = _
    rw [writtenAttachments_append]

theorem writeRest_counts {messages : List Snowflake} {count : Nat} {ds : List Draft}
    (h : (writeRest source messages count ds).run.Yields t (.ok outcome)) :
    outcome = .messageCreated source (messages ++ (writtenMessages t).map (·.id))
      (count + (writtenAttachments t).length) := by
  induction ds generalizing messages count t with
  | nil =>
    obtain ⟨rfl, heq⟩ := h
    cases heq
    simp [writtenMessages, writtenAttachments]
  | cons d ds ih =>
    rw [writeRest] at h
    obtain ⟨t₁, reply, t₂, rfl, h₁, h₂⟩ := Attempt.yields_lift_bind.1 h
    obtain rfl := Program.yields_request.1 h₁
    rw [List.singleton_append]
    rcases reply with error | ⟨⟩
    · cases error with
      | duplicateSourceId =>
        obtain rfl := ih h₂
        rfl
      | _ => cases h₂.2
    · obtain ⟨q, n, t₃, rfl, h₃, h₄⟩ := Attempt.yields_lift_bind.1 h₂
      obtain ⟨rfl, hq⟩ := writeAttachments_counts h₃
      obtain ⟨hm, ha⟩ := written_cons (m := d.message) (t := t₃) hq
      rw [ih h₄, hm, ha, List.map_cons, List.length_append, List.append_assoc, List.singleton_append, Nat.add_assoc]

theorem write_counts {ds : List Draft} (h : (write source ds).run.Yields t (.ok outcome)) :
    outcome.sourceId = source ∧ outcome.Counts t := by
  cases write_cases h with
  | nothing => exact ⟨rfl, .of_uncounted .nil rfl rfl⟩
  | beaten => exact ⟨rfl, .of_uncounted ⟨rfl, rfl⟩ rfl rfl⟩
  | @written d ds q t n _ ha hrest =>
    obtain ⟨rfl, hq⟩ := writeAttachments_counts ha
    obtain ⟨hm, ha⟩ := written_cons (m := d.message) (t := t) hq
    obtain rfl := writeRest_counts hrest
    refine ⟨rfl, ?_, ?_⟩
    · rw [hm]
      rfl
    · rw [ha, List.length_append]
      rfl

/-! ## Events -/

theorem persist_counts {m : InboundMessage} {new : NewContact}
    (h : (persist target source m new).run.Yields t (.ok outcome)) : outcome.sourceId = source ∧ outcome.Counts t := by
  cases persist_cases h with
  | found => exact ⟨rfl, .of_uncounted ⟨rfl, rfl⟩ rfl rfl⟩
  | @drafted c v ds t₁ t₂ t₃ _ hj hd hw =>
    have ht₁ : Uncounted t₁ := .of_asks (resolveConversation_joins ..) hj fun _ => Request.isCounted_of_isJoin
    have ht₂ : Uncounted t₂ :=
      .of_asks (drafts_supplies (drafter_supplies _ _ _ _) ..) hd fun _ => Request.isCounted_of_isSupply
    have hbefore : Uncounted [⟨.findMessage target.inbox.id source, .ok none⟩, ⟨.upsertContact new, .ok c⟩] :=
      ⟨rfl, rfl⟩
    obtain ⟨hs, hc⟩ := write_counts hw
    exact ⟨hs, (hc.append_left (ht₁.append ht₂)).append_left hbefore⟩

theorem ClaimCase.counts {channel : Snowflake} {body : Attempt EventOutcome}
    (h : ClaimCase channel source body t (.ok outcome))
    (hbody : ∀ t, body.run.Yields t (.ok outcome) → outcome.sourceId = source ∧ outcome.Counts t) :
    outcome.sourceId = source ∧ outcome.Counts t := by
  cases h with
  | denied => exact ⟨rfl, .of_uncounted ⟨rfl, rfl⟩ rfl rfl⟩
  | granted h =>
    have hclaim : Uncounted [⟨.tryClaim channel source, .ok true⟩] := ⟨rfl, rfl⟩
    obtain ⟨hs, hc⟩ := hbody _ h
    exact ⟨hs, (hc.append_right ⟨rfl, rfl⟩).append_left hclaim⟩

theorem handleEvent_counts (h : (handleEvent target e).run.Yields t (.ok outcome)) :
    outcome.sourceId = e.sourceId ∧ outcome.Counts t := by
  cases handleEvent_cases h with
  | unfit => exact ⟨rfl, .of_uncounted .nil rfl rfl⟩
  | claimed _ _ hc => exact hc.counts fun _ => persist_counts
  | reported _ h' =>
    refine ⟨(reconcile_yields h').sourceId, .of_created?_eq_none ?_ (reconcile_created h')⟩
    exact .of_asks (reconcile_asks ..) h' fun _ => Request.isCounted_of_isFollowUp
  | announced _ h' =>
    refine ⟨(resolveCard_yields h').sourceId, .of_created?_eq_none ?_ (resolveCard_created h')⟩
    cases resolveCard_yields h' with
    | missing => exact .nil
    | resolved | refused => exact ⟨rfl, rfl⟩

theorem handleEvents_counts {es : List IncomingEvent} {outcomes : List EventOutcome}
    (h : (handleEvents target es).run.Yields t (.ok outcomes)) :
    outcomes.map (·.sourceId) = es.map (·.sourceId) ∧
      outcomes.flatMap EventOutcome.messages = (writtenMessages t).map (·.id) ∧
      (outcomes.map EventOutcome.attachments).sum = (writtenAttachments t).length := by
  induction es generalizing t outcomes with
  | nil =>
    obtain ⟨rfl, heq⟩ := h
    cases heq
    exact ⟨rfl, rfl, rfl⟩
  | cons e es ih =>
    rcases handleEvents_cons h with ⟨error, -, heq⟩ | ⟨t₁, outcome, t₂, rest, rfl, h₁, h₂, heq⟩
    · cases heq
    cases rest with
    | error => cases heq
    | ok rest =>
      cases heq
      obtain ⟨hs, hc⟩ := handleEvent_counts h₁
      obtain ⟨hss, hms, has⟩ := ih h₂
      refine ⟨?_, ?_, ?_⟩
      · rw [List.map_cons, List.map_cons, hs, hss]
      · rw [List.flatMap_cons, writtenMessages_append, List.map_append, hms, hc.messages]
      · rw [List.map_cons, List.sum_cons, writtenAttachments_append, List.length_append, has, hc.attachments]

end Ingest

theorem perform_counts {job : WebhookJob} {t : List Exchange} {report : IngestReport}
    (h : (perform job).run.Yields t (.ok report)) : report.createdMessages = (writtenMessages t).map (·.id) := by
  obtain ⟨q, t', res, rfl, hq, ⟨e, -, -, heq⟩ | ⟨resolution, rfl, h'⟩⟩ := perform_resolves h
  · cases heq
  have hlookups : Uncounted q := .of_asks (Routing.resolve_lookups job) hq fun _ => Request.isCounted_of_isLookup
  rw [writtenMessages_append, hlookups.messages, List.nil_append, IngestReport.createdMessages_eq]
  cases resolution with
  | active target =>
    obtain ⟨outcomes, h₁, rfl⟩ := performOn_active_ok h'
    exact (Ingest.handleEvents_counts h₁).2.1
  | _ =>
    obtain ⟨rfl, heq⟩ := h'
    cases heq
    rfl

end Intake
