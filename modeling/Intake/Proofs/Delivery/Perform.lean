import Intake.Delivery.Run
import Intake.Proofs.Delivery.Handle
import Intake.Proofs.Delivery.Route

/-!
# Deliveries

`Performed` lists how a delivery can go when the tenants are those of `tb`, and `Retried` how its repetition can: some
failed attempts with pauses, then the last one.
-/

namespace Intake

open Ingest

/-- The accepted events of a job, with the channel that it goes to. -/
def Tables.accepted (tb : Tables) (job : WebhookJob) : List (ResolvedChannel × IncomingEvent × InboundMessage) :=
  match tb.route job with
  | .active target => (target.events job).filterMap fun e => e.accepted?.map fun m => (target, e, m)
  | _ => []

theorem Tables.mem_accepted_iff {tb : Tables} {job : WebhookJob} {target : ResolvedChannel} {e : IncomingEvent}
    {m : InboundMessage} :
    (target, e, m) ∈ tb.accepted job ↔ tb.route job = .active target ∧ e ∈ target.events job ∧ e.Accepted m := by
  unfold accepted
  constructor
  · intro h
    split at h
    · next target' hr =>
      obtain ⟨e', he, h⟩ := List.mem_filterMap.1 h
      obtain ⟨m', hm, heq⟩ := Option.map_eq_some_iff.1 h
      cases heq
      exact ⟨hr, he, IncomingEvent.accepted?_eq_some_iff.1 hm⟩
    · cases h
  · rintro ⟨hr, he, hm⟩
    rw [hr]
    refine List.mem_filterMap.2 ⟨e, he, ?_⟩
    rw [IncomingEvent.accepted?_eq_some_iff.2 hm]
    rfl

inductive Performed (tb : Tables) (job : WebhookJob) : List Exchange → Except DomainError IngestReport → Prop
  | unresolved {q : List Exchange} {e : DomainError} : QuietTrace q → Performed tb job q (.error e)
  | skipped {q : List Exchange} {reason : DropReason} :
    QuietTrace q → (∀ target, tb.route job ≠ .active target) → Performed tb job q (.ok (.skip reason))
  | stopped {q t : List Exchange} {target : ResolvedChannel} {e : DomainError} :
    QuietTrace q → tb.route job = .active target → HandledAll target (target.events job) t (.error e) →
      Performed tb job (q ++ t) (.error e)
  | handled {q t : List Exchange} {target : ResolvedChannel} {outcomes : List EventOutcome} :
    QuietTrace q → tb.route job = .active target → HandledAll target (target.events job) t (.ok outcomes) →
      Performed tb job (q ++ t) (.ok (.ofChannel target.channel.id outcomes))

inductive Retried (tb : Tables) (job : WebhookJob) : List Exchange → Except DomainError IngestReport → Prop
  | last {t : List Exchange} {r : Except DomainError IngestReport} : Performed tb job t r → Retried tb job t r
  | again {t t' : List Exchange} {e : DomainError} {millis : Nat} {r : Except DomainError IngestReport} :
    Performed tb job t (.error e) → Retried tb job t' r → Retried tb job (t ++ ⟨.pause millis, ()⟩ :: t') r

variable {tb : Tables} {job : WebhookJob} {t : List Exchange}

theorem performOn_active {target : ResolvedChannel} {r : Except DomainError IngestReport}
    (h : (performOn job (.active target)).run.Yields t r) :
    ∃ outcomes, (handleEvents target (target.events job)).run.Yields t outcomes ∧
      r = outcomes.map (.ofChannel target.channel.id) := by
  rcases Attempt.yields_bind.1 h with ⟨e, h₁, rfl⟩ | ⟨t₁, outcomes, t₂, rfl, h₁, rfl, rfl⟩
  · exact ⟨_, h₁, rfl⟩
  · rw [List.append_nil]
    exact ⟨_, h₁, rfl⟩

theorem performOn_active_ok {target : ResolvedChannel} {report : IngestReport}
    (h : (performOn job (.active target)).run.Yields t (.ok report)) :
    ∃ outcomes, (handleEvents target (target.events job)).run.Yields t (.ok outcomes) ∧
      report = .ofChannel target.channel.id outcomes := by
  obtain ⟨outcomes, h₁, heq⟩ := performOn_active h
  cases outcomes with
  | error => cases heq
  | ok outcomes => exact ⟨outcomes, h₁, Except.ok.inj heq⟩

theorem performOn_yields {q : List Exchange} {r : Except DomainError IngestReport} {resolution : Resolution}
    (hq : QuietTrace q) (hres : resolution = tb.route job) (h : (performOn job resolution).run.Yields t r) :
    Performed tb job (q ++ t) r := by
  cases resolution with
  | active target =>
    obtain ⟨outcomes, h₁, rfl⟩ := performOn_active h
    cases outcomes with
    | error => exact .stopped hq hres.symm (handleEvents_yields h₁)
    | ok => exact .handled hq hres.symm (handleEvents_yields h₁)
  | _ =>
    obtain ⟨rfl, rfl⟩ := h
    rw [List.append_nil]
    refine .skipped hq fun target htarget => ?_
    cases hres.trans htarget

/-- A delivery is routed, and then does what its channel asks for. -/
theorem perform_resolves {r : Except DomainError IngestReport} (h : (perform job).run.Yields t r) :
    ∃ q t' res, t = q ++ t' ∧ (Routing.resolve job).run.Yields q res ∧
      ((∃ e, res = .error e ∧ t' = [] ∧ r = .error e) ∨
        ∃ resolution, res = .ok resolution ∧ (performOn job resolution).run.Yields t' r) := by
  unfold perform at h
  rcases Attempt.yields_bind.1 h with ⟨e, h₁, rfl⟩ | ⟨q, resolution, t', rfl, h₁, h₂⟩
  · exact ⟨t, [], _, by simp, h₁, .inl ⟨e, rfl, rfl, rfl⟩⟩
  · exact ⟨q, t', _, rfl, h₁, .inr ⟨resolution, rfl, h₂⟩⟩

theorem perform_yields {r : Except DomainError IngestReport} (h : (perform job).run.Yields t r)
    (ht : ∀ x ∈ t, x.Fits tb) : Performed tb job t r := by
  obtain ⟨q, t', res, rfl, hq, ⟨e, rfl, rfl, rfl⟩ | ⟨resolution, rfl, ht'⟩⟩ := perform_resolves h
  · rw [List.append_nil]
    exact .unresolved ((Routing.resolve_quiet job).mem hq)
  · rw [List.forall_mem_append] at ht
    exact performOn_yields ((Routing.resolve_quiet job).mem hq) (Routing.resolve_yields hq ht.1) ht'

namespace JobRunner

/-- The run was completed with a report that is not skipped. -/
def JobOutput.Delivered (out : JobOutput) : Prop := ∃ report, out.result = .completed report ∧ report.skipped = none

instance (out : JobOutput) : Decidable out.Delivered :=
  match h : out.result with
  | .completed report =>
    decidable_of_iff (report.skipped = none)
      ⟨fun hs => ⟨report, h, hs⟩, fun ⟨report', h', hs⟩ => by rw [h] at h'; cases h'; exact hs⟩
  | .failed _ => isFalse fun ⟨_, h', _⟩ => by rw [h] at h'; cases h'

theorem retry_yields {left attempt : Nat} {a : Nat × Except DomainError IngestReport}
    (h : (retry (perform job) left attempt).Yields t a) (ht : ∀ x ∈ t, x.Fits tb) : Retried tb job t a.2 := by
  induction left generalizing attempt t with
  | zero =>
    obtain ⟨t₁, r, t₂, rfl, h₁, rfl, rfl⟩ := Program.yields_bind.1 h
    rw [List.append_nil] at ht ⊢
    exact .last (perform_yields h₁ ht)
  | succ left ih =>
    obtain ⟨t₁, r, t₂, rfl, h₁, h₂⟩ := Program.yields_bind.1 h
    rw [List.forall_mem_append] at ht
    cases r with
    | ok report =>
      obtain ⟨rfl, rfl⟩ := h₂
      rw [List.append_nil]
      exact .last (perform_yields h₁ ht.1)
    | error e =>
      dsimp only at h₂
      split at h₂
      · obtain ⟨t₃, ⟨⟩, t₄, rfl, h₃, h₄⟩ := Program.yields_bind.1 h₂
        obtain rfl := Program.yields_request.1 h₃
        exact .again (perform_yields h₁ ht.1) (ih h₄ (List.forall_mem_append.1 ht.2).2)
      · obtain ⟨rfl, rfl⟩ := h₂
        rw [List.append_nil]
        exact .last (perform_yields h₁ ht.1)

theorem run_yields {maxAttempts line : Nat} {out : JobOutput} (h : (run maxAttempts line job).Yields t out)
    (ht : ∀ x ∈ t, x.Fits tb) :
    ∃ r, Retried tb job t r ∧ ∀ report, out.result = .completed report → r = .ok report := by
  obtain ⟨t₁, ⟨attempts, result⟩, t₂, rfl, h₁, rfl, rfl⟩ := Program.yields_bind.1 h
  rw [List.append_nil] at ht ⊢
  refine ⟨result, retry_yields h₁ ht, fun report hout => ?_⟩
  cases result with
  | ok r => exact congrArg Except.ok (JobResult.completed.inj hout)
  | error e => cases hout

end JobRunner

end Intake
