import Intake.Delivery.Run
import Intake.Proofs.Program.Exchange

/-!
# Attempts

A run of a job is some attempts that failed, each with a pause after it (`Tried`), and then the last attempt, whose
result is that of the run.
-/

namespace Intake.JobRunner

variable {α : Type} {body : Attempt α} {left first : Nat} {t : List Exchange} {a : Nat × Except DomainError α}

/-! ## The loop -/

/-- Whether another attempt could end otherwise: the error, in the form that a process reports, is worth a retry. -/
def worthRetry : Except DomainError α → Bool
  | .ok _ => false
  | .error e => (IngestError.store e).toServiceError.isRetryable

def pauseAfter (attempt : Nat) : Exchange := ⟨.pause (backoff attempt), ()⟩

theorem retry_zero_yields :
    (retry body 0 first).Yields t a ↔ ∃ r, body.run.Yields t r ∧ a = (first, r) := by
  constructor
  · intro h
    obtain ⟨t₁, r, t₂, rfl, h₁, rfl, rfl⟩ := Program.yields_bind.1 h
    exact ⟨r, by rwa [List.append_nil], rfl⟩
  · rintro ⟨r, hr, rfl⟩
    exact Program.yields_bind.2 ⟨t, r, [], (List.append_nil _).symm, hr, rfl, rfl⟩

/-- An attempt ends the loop, or there are a pause and the rest of the loop after it. -/
theorem retry_succ_yields :
    (retry body (left + 1) first).Yields t a ↔ ∃ t₁ r, body.run.Yields t₁ r ∧
      if worthRetry r then
        ∃ t₂, t = t₁ ++ pauseAfter first :: t₂ ∧ (retry body left (first + 1)).Yields t₂ a
      else t = t₁ ∧ a = (first, r) := by
  have hrest (r : Except DomainError α) (t' : List Exchange) :
      (match r with
        | .ok a => return (first, .ok a)
        | .error e => if e.isRetryable then do
            Ask.pause (backoff first)
            retry body left (first + 1)
          else return (first, .error e) : Program (Nat × Except DomainError α)).Yields t' a ↔
        if worthRetry r then
          ∃ t₂, t' = pauseAfter first :: t₂ ∧ (retry body left (first + 1)).Yields t₂ a
        else t' = [] ∧ a = (first, r) := by
    cases r with
    | ok report => rfl
    | error e =>
      change (ite (e.isRetryable = true) _ _ : Program _).Yields t' a ↔ if e.isRetryable = true then _ else _
      split
      · constructor
        · rintro ⟨⟨⟩, t₂, rfl, h⟩
          exact ⟨t₂, rfl, h⟩
        · rintro ⟨t₂, rfl, h⟩
          exact ⟨(), t₂, rfl, h⟩
      · rfl
  rw [retry, Program.yields_bind]
  constructor
  · rintro ⟨t₁, r, t₂, rfl, h₁, h₂⟩
    refine ⟨t₁, r, h₁, ?_⟩
    have h := (hrest r t₂).1 h₂
    by_cases hr : worthRetry r = true
    · rw [if_pos hr] at h ⊢
      obtain ⟨t₃, rfl, h⟩ := h
      exact ⟨t₃, rfl, h⟩
    · rw [if_neg hr] at h ⊢
      obtain ⟨rfl, rfl⟩ := h
      exact ⟨List.append_nil _, rfl⟩
  · rintro ⟨t₁, r, h₁, h⟩
    split at h
    · next hr =>
      obtain ⟨t₂, rfl, h⟩ := h
      exact ⟨t₁, r, _, rfl, h₁, (hrest r _).2 (by rw [if_pos hr]; exact ⟨t₂, rfl, h⟩)⟩
    · next hr =>
      obtain ⟨rfl, rfl⟩ := h
      exact ⟨t, r, [], (List.append_nil _).symm, h₁, (hrest r _).2 (by rw [if_neg hr]; exact ⟨rfl, rfl⟩)⟩

/-! ## Failed attempts -/

/-- Attempts that failed with errors worth a retry, and the pauses after them. -/
inductive Tried (body : Attempt α) : List Exchange → Prop
  | nil : Tried body []
  | cons {t t' : List Exchange} {e : DomainError} {millis : Nat} :
    body.run.Yields t (.error e) → e.isRetryable = true → Tried body t' →
      Tried body (t ++ ⟨.pause millis, ()⟩ :: t')

theorem retry_tried (h : (retry body left first).Yields t a) :
    ∃ before last, t = before ++ last ∧ Tried body before ∧ body.run.Yields last a.2 := by
  induction left generalizing first t with
  | zero =>
    obtain ⟨r, hr, rfl⟩ := retry_zero_yields.1 h
    exact ⟨[], t, rfl, .nil, hr⟩
  | succ left ih =>
    obtain ⟨t₁, r, h₁, h₂⟩ := retry_succ_yields.1 h
    split at h₂
    · next hr =>
      obtain ⟨t₂, rfl, h₂⟩ := h₂
      obtain ⟨before, last, rfl, hbefore, hlast⟩ := ih h₂
      cases r with
      | ok report => cases hr
      | error e => exact ⟨t₁ ++ pauseAfter first :: before, last, by simp, .cons h₁ hr hbefore, hlast⟩
    · obtain ⟨rfl, rfl⟩ := h₂
      exact ⟨[], t, rfl, .nil, h₁⟩

theorem run_tried {maxAttempts line : Nat} {job : WebhookJob} {t : List Exchange} {out : JobOutput}
    {report : IngestReport} (h : (run maxAttempts line job).Yields t out) (hout : out.result = .completed report) :
    ∃ before last, t = before ++ last ∧ Tried (perform job) before ∧ (perform job).run.Yields last (.ok report) := by
  obtain ⟨t₁, ⟨attempts, result⟩, t₂, rfl, h₁, rfl, rfl⟩ := Program.yields_bind.1 h
  obtain ⟨before, last, rfl, hbefore, hlast⟩ := retry_tried h₁
  rw [List.append_nil]
  cases result with
  | ok r =>
    obtain rfl := JobResult.completed.inj hout
    exact ⟨before, last, rfl, hbefore, hlast⟩
  | error e => cases hout

end Intake.JobRunner
