import Intake.Proofs.Delivery.Persist
import Intake.Proofs.Delivery.Reconcile

/-!
# Handling events

`EventCase` lists how an event can go, in terms of the parts of `handleEvent`; `Handled` is what is left of that when
all but claims, look-ups and writes is forgotten. Events that are accepted (`IncomingEvent.Accepted`) ask for their
claim, and are looked up and written under it; all others are quiet. `HandledAll` is for events in order, up to the
first error.
-/

namespace Intake

/-- The event is a message of a handled subtype, reports no error, and its sender's phone number has a digit. -/
structure IncomingEvent.Accepted (e : IncomingEvent) (m : InboundMessage) : Prop where
  body : e.body = .message m
  processable : m.subtype.isProcessable = true
  errors : m.errors = []
  sender : ∃ s, e.sender = some s ∧ ∃ c ∈ s.phone.toList, c.isDigit = true

def IncomingEvent.accepted? (e : IncomingEvent) : Option InboundMessage :=
  match e.body with
  | .message m =>
    if m.subtype.isProcessable && m.errors.isEmpty && e.sender.any (·.phone.toList.any Char.isDigit) then some m
    else none
  | _ => none

theorem IncomingEvent.accepted?_eq_some_iff {e : IncomingEvent} {m : InboundMessage} :
    e.accepted? = some m ↔ e.Accepted m := by
  constructor
  · intro h
    unfold accepted? at h
    split at h
    · next m' hb =>
      split at h
      · next hc =>
        cases h
        simp only [Bool.and_eq_true, List.isEmpty_iff, Option.any_eq_true, List.any_eq_true] at hc
        exact ⟨hb, hc.1.1, hc.1.2, hc.2⟩
      · cases h
    · cases h
  · rintro ⟨hb, hp, he, s, hs, c, hc, hd⟩
    have hany : s.phone.toList.any Char.isDigit = true := List.any_eq_true.2 ⟨c, hc, hd⟩
    simp [accepted?, hb, hp, he, hs, hany]

def EventOutcome.created? : EventOutcome → Option String
  | messageCreated source .. => some source
  | _ => none

theorem phoneDigits?_isSome {phone : String} :
    (phoneDigits? phone).isSome = true ↔ ∃ c ∈ phone.toList, c.isDigit = true := by
  rw [phoneDigits?]
  split
  · next h => simpa [List.filter_eq_nil_iff] using h
  · next h =>
    obtain ⟨c, hc⟩ := List.exists_mem_of_ne_nil _ h
    obtain ⟨hc, hd⟩ := List.mem_filter.1 hc
    exact ⟨fun _ => ⟨c, hc, hd⟩, fun _ => rfl⟩

/-- Whether the request looks a message up or changes its status. -/
def Request.isFollowUp : Request → Bool
  | findMessage .. | updateStatus .. => true
  | _ => false

namespace Ingest

theorem accept_ok_iff {inbox : Inbox} {e : IncomingEvent} {m : InboundMessage} (hm : e.body = .message m) :
    (∃ new, accept inbox e.sender m = .ok new) ↔ e.Accepted m := by
  unfold accept
  constructor
  · rintro ⟨new, h⟩
    split at h
    · cases h
    · next hp =>
      split at h
      · cases h
      · next he =>
        split at h
        · cases h
        · next hs =>
          obtain ⟨s, hs, hn⟩ := Option.bind_eq_some_iff.1 hs
          obtain ⟨ds, hd, -⟩ := Option.map_eq_some_iff.1 hn
          refine ⟨hm, by simpa using hp, by simpa [InboundMessage.isErrorEvent] using he, s, hs, ?_⟩
          exact phoneDigits?_isSome.1 (Option.isSome_iff_exists.2 ⟨ds, hd⟩)
  · rintro ⟨-, hp, he, s, hs, hd⟩
    obtain ⟨ds, hds⟩ := Option.isSome_iff_exists.1 (phoneDigits?_isSome.2 hd)
    simp [hp, InboundMessage.isErrorEvent, he, hs, NewContact.ofSender?, hds]

inductive Handled (target : ResolvedChannel) (e : IncomingEvent) :
    List Exchange → Except DomainError EventOutcome → Prop
  | quiet {q : List Exchange} {outcome : EventOutcome} :
    (∀ m, ¬ e.Accepted m) → QuietTrace q → outcome.created? = none → Handled target e q (.ok outcome)
  | unclaimed {m : InboundMessage} {error : DomainError} :
    e.Accepted m → Handled target e [⟨.tryClaim target.channel.id e.sourceId, .error error⟩] (.error error)
  | denied {m : InboundMessage} :
    e.Accepted m →
      Handled target e [⟨.tryClaim target.channel.id e.sourceId, .ok false⟩] (.ok (.dropped e.sourceId .inFlight))
  | granted {m : InboundMessage} {t : List Exchange} {released : Except DomainError Unit}
    {r : Except DomainError EventOutcome} :
    e.Accepted m → Persisted target e.sourceId m t r →
      Handled target e
        (⟨.tryClaim target.channel.id e.sourceId, .ok true⟩ ::
          (t ++ [⟨.release target.channel.id e.sourceId, released⟩]))
        r

variable {target : ResolvedChannel} {e : IncomingEvent} {t : List Exchange}

theorem reconcile_created {inbox : Inbox} {source : String} {report : StatusReport} {outcome : EventOutcome}
    (h : (reconcile inbox source report).Yields t outcome) : outcome.created? = none := by
  cases reconcile_yields h <;> rfl

theorem resolveCard_created {inbox : Inbox} {source : String} {sender : Option Sender} {outcome : EventOutcome}
    (h : (resolveCard inbox source sender).Yields t outcome) : outcome.created? = none := by
  cases resolveCard_yields h <;> rfl

theorem handleEvent_of_accepted (target : ResolvedChannel) {m : InboundMessage} (hm : e.Accepted m) :
    ∃ new, handleEvent target e = claimed target.channel.id e.sourceId (persist target e.sourceId m new) := by
  obtain ⟨new, hnew⟩ : ∃ new, accept target.inbox e.sender m = .ok new := (accept_ok_iff hm.body).2 hm
  refine ⟨new, ?_⟩
  rw [handleEvent, hm.body]
  show ingestMessage target e.sourceId e.sender m = _
  rw [ingestMessage, hnew]

/-- How a body can go that is run under a claim. -/
inductive ClaimCase (channel : Snowflake) (source : String) (body : Attempt EventOutcome) :
    List Exchange → Except DomainError EventOutcome → Prop
  | failed {e : DomainError} : ClaimCase channel source body [⟨.tryClaim channel source, .error e⟩] (.error e)
  | denied :
    ClaimCase channel source body [⟨.tryClaim channel source, .ok false⟩] (.ok (.dropped source .inFlight))
  | granted {t : List Exchange} {released : Except DomainError Unit} {r : Except DomainError EventOutcome} :
    body.run.Yields t r →
      ClaimCase channel source body
        (⟨.tryClaim channel source, .ok true⟩ :: (t ++ [⟨.release channel source, released⟩])) r

theorem claimed_cases {channel : Snowflake} {source : String} {body : Attempt EventOutcome}
    {r : Except DomainError EventOutcome} (h : (claimed channel source body).run.Yields t r) :
    ClaimCase channel source body t r := by
  unfold claimed at h
  rcases Attempt.yields_bind.1 h with ⟨error, h₁, rfl⟩ | ⟨t₁, granted, t₂, rfl, h₁, h₂⟩
  · obtain rfl := Program.yields_request.1 h₁
    exact .failed
  obtain rfl := Program.yields_request.1 h₁
  cases granted with
  | false =>
    obtain ⟨rfl, rfl⟩ := h₂
    exact .denied
  | true =>
    obtain ⟨t₃, result, t₄, rfl, h₃, h₄⟩ := Attempt.yields_lift_bind.1 h₂
    obtain ⟨t₅, released, t₆, rfl, h₅, h₆⟩ := Attempt.yields_lift_bind.1 h₄
    obtain rfl := Program.yields_request.1 h₅
    obtain ⟨rfl, rfl⟩ := h₆
    exact .granted h₃

theorem asks_claimed {channel : Snowflake} {source : String} {body : Attempt EventOutcome} {P : Request → Prop}
    (hclaim : P (.tryClaim channel source)) (hrelease : P (.release channel source)) (hbody : body.run.Asks P) :
    (claimed channel source body).run.Asks P := by
  unfold claimed
  refine Attempt.asks_bind (Program.Asks.request hclaim) fun granted => ?_
  split
  · refine Attempt.asks_bind (Attempt.asks_lift hbody) fun result => ?_
    exact Attempt.asks_bind (Attempt.asks_lift (Program.Asks.request hrelease)) fun _ => trivial
  · trivial

/-- How an event can go, by what it is. -/
inductive EventCase (target : ResolvedChannel) (e : IncomingEvent) :
    List Exchange → Except DomainError EventOutcome → Prop
  | unfit {m : InboundMessage} {reason : DropReason} :
    e.body = .message m → accept target.inbox e.sender m = .error reason →
      EventCase target e [] (.ok (.dropped e.sourceId reason))
  | claimed {m : InboundMessage} {new : NewContact} {t : List Exchange} {r : Except DomainError EventOutcome} :
    e.body = .message m → accept target.inbox e.sender m = .ok new →
      ClaimCase target.channel.id e.sourceId (persist target e.sourceId m new) t r → EventCase target e t r
  | reported {report : StatusReport} {t : List Exchange} {outcome : EventOutcome} :
    e.body = .status report → (reconcile target.inbox e.sourceId report).Yields t outcome →
      EventCase target e t (.ok outcome)
  | announced {t : List Exchange} {outcome : EventOutcome} :
    e.body = .contactCard → (resolveCard target.inbox e.sourceId e.sender).Yields t outcome →
      EventCase target e t (.ok outcome)

theorem handleEvent_cases {r : Except DomainError EventOutcome} (h : (handleEvent target e).run.Yields t r) :
    EventCase target e t r := by
  unfold handleEvent at h
  split at h
  · next m hm =>
    unfold ingestMessage at h
    split at h
    · next reason hreason =>
      obtain ⟨rfl, rfl⟩ := h
      exact .unfit hm hreason
    · next new hnew => exact .claimed hm hnew (claimed_cases h)
  · next report hb =>
    obtain ⟨outcome, h', rfl⟩ := Attempt.yields_lift.1 h
    exact .reported hb h'
  · next hb =>
    obtain ⟨outcome, h', rfl⟩ := Attempt.yields_lift.1 h
    exact .announced hb h'

theorem ClaimCase.handled {m : InboundMessage} {new : NewContact} {r : Except DomainError EventOutcome}
    (h : ClaimCase target.channel.id e.sourceId (persist target e.sourceId m new) t r) (ha : e.Accepted m) :
    Handled target e t r := by
  cases h with
  | failed => exact .unclaimed ha
  | denied => exact .denied ha
  | granted h => exact .granted ha (persist_yields h)

theorem handleEvent_yields {r : Except DomainError EventOutcome} (h : (handleEvent target e).run.Yields t r) :
    Handled target e t r := by
  cases handleEvent_cases h with
  | unfit hm hreason =>
    refine .quiet (fun m' ha => ?_) (by simp [QuietTrace]) rfl
    obtain rfl := EventBody.message.inj (hm.symm.trans ha.body)
    obtain ⟨new, hnew⟩ := (accept_ok_iff hm).2 ha
    cases hreason.symm.trans hnew
  | claimed hm hnew hc => exact hc.handled ((accept_ok_iff hm).1 ⟨_, hnew⟩)
  | reported hb h' =>
    refine .quiet (fun m ha => ?_) ((reconcile_quiet ..).mem h') (reconcile_created h')
    cases hb.symm.trans ha.body
  | announced hb h' =>
    refine .quiet (fun m ha => ?_) ((resolveCard_quiet ..).mem h') (resolveCard_created h')
    cases hb.symm.trans ha.body

/-! ### Events that are not accepted -/

theorem reconcile_asks (inbox : Inbox) (source : String) (report : StatusReport) :
    (reconcile inbox source report).Asks (·.isFollowUp = true) := by
  unfold reconcile
  refine Program.Asks.bind (Program.Asks.request rfl) fun found => ?_
  split
  · trivial
  · trivial
  · split
    · trivial
    · refine Program.Asks.bind (Program.Asks.request rfl) fun updated => ?_
      split <;> trivial

/-- What an event that is not accepted comes to: messages are followed up, or the announced contact is made sure of. -/
theorem handleEvent_unaccepted {r : Except DomainError EventOutcome} (hn : ∀ m, ¬ e.Accepted m)
    (h : (handleEvent target e).run.Yields t r) :
    ∃ outcome, r = .ok outcome ∧ ((∀ x ∈ t, x.request.isFollowUp = true) ∨
      ∃ new b, e.body = .contactCard ∧ e.sender.bind (NewContact.ofSender? target.inbox) = some new ∧
        t = [⟨.upsertContact new, b⟩]) := by
  cases handleEvent_cases h with
  | unfit => exact ⟨_, rfl, .inl (by simp)⟩
  | claimed hm hnew => exact absurd ((accept_ok_iff hm).1 ⟨_, hnew⟩) (hn _)
  | reported _ h' => exact ⟨_, rfl, .inl ((reconcile_asks ..).mem h')⟩
  | announced hb h' =>
    cases resolveCard_yields h' with
    | missing => exact ⟨_, rfl, .inl (by simp)⟩
    | resolved hs | refused hs => exact ⟨_, rfl, .inr ⟨_, _, hb, hs, rfl⟩⟩

/-! ### All events -/

inductive HandledAll (target : ResolvedChannel) :
    List IncomingEvent → List Exchange → Except DomainError (List EventOutcome) → Prop
  | nil : HandledAll target [] [] (.ok [])
  | stopped {e : IncomingEvent} {es : List IncomingEvent} {t : List Exchange} {error : DomainError} :
    Handled target e t (.error error) → HandledAll target (e :: es) t (.error error)
  | stoppedLater {e : IncomingEvent} {es : List IncomingEvent} {t t' : List Exchange} {outcome : EventOutcome}
    {error : DomainError} :
    Handled target e t (.ok outcome) → HandledAll target es t' (.error error) →
      HandledAll target (e :: es) (t ++ t') (.error error)
  | cons {e : IncomingEvent} {es : List IncomingEvent} {t t' : List Exchange} {outcome : EventOutcome}
    {outcomes : List EventOutcome} :
    Handled target e t (.ok outcome) → HandledAll target es t' (.ok outcomes) →
      HandledAll target (e :: es) (t ++ t') (.ok (outcome :: outcomes))

theorem handleEvents_cons {es : List IncomingEvent} {r : Except DomainError (List EventOutcome)}
    (h : (handleEvents target (e :: es)).run.Yields t r) :
    (∃ error, (handleEvent target e).run.Yields t (.error error) ∧ r = .error error) ∨
      ∃ t₁ outcome t₂ rest, t = t₁ ++ t₂ ∧ (handleEvent target e).run.Yields t₁ (.ok outcome) ∧
        (handleEvents target es).run.Yields t₂ rest ∧ r = rest.map (outcome :: ·) := by
  rw [handleEvents] at h
  rcases Attempt.yields_bind.1 h with ⟨error, h₁, rfl⟩ | ⟨t₁, outcome, t₂, rfl, h₁, h₂⟩
  · exact .inl ⟨error, h₁, rfl⟩
  rcases Attempt.yields_bind.1 h₂ with ⟨error, h₃, rfl⟩ | ⟨t₃, outcomes, t₄, rfl, h₃, h₄⟩
  · exact .inr ⟨t₁, outcome, t₂, .error error, rfl, h₁, h₃, rfl⟩
  · obtain ⟨rfl, rfl⟩ := h₄
    rw [List.append_nil]
    exact .inr ⟨t₁, outcome, t₃, .ok outcomes, rfl, h₁, h₃, rfl⟩

theorem handleEvents_yields {es : List IncomingEvent} {r : Except DomainError (List EventOutcome)}
    (h : (handleEvents target es).run.Yields t r) : HandledAll target es t r := by
  induction es generalizing t r with
  | nil =>
    obtain ⟨rfl, rfl⟩ := h
    exact .nil
  | cons e es ih =>
    rcases handleEvents_cons h with ⟨error, h₁, rfl⟩ | ⟨t₁, outcome, t₂, rest, rfl, h₁, h₂, rfl⟩
    · exact .stopped (handleEvent_yields h₁)
    · cases rest with
      | error error => exact .stoppedLater (handleEvent_yields h₁) (ih h₂)
      | ok outcomes => exact .cons (handleEvent_yields h₁) (ih h₂)

end Ingest

end Intake
