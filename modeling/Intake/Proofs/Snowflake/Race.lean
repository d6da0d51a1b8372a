import Intake.Proofs.Snowflake.Words
import Mathlib.Logic.Function.Basic
import Mathlib.Logic.Relation

/-!
# A generator that threads share

A thread loads the word, reads the clock and exchanges the word for the next one, unless another thread has exchanged it
in the meantime; then it starts again (`Race.Step`). Whoever wins has used the word as it was, so the words of the wins
only grow (`Race.Sound`), and so do the ids (`Race.ids_increase`). The clock may say anything.
-/

namespace Intake.Snowflake

/-- How far a thread has come with an id. -/
inductive Thread where
  | idle
  | loaded (previous : Int64)
  | timed (previous clock : Int64)

/-- An exchange that has succeeded. -/
structure Win where
  previous : Int64
  clock : Int64

namespace Win

/-- The reading in milliseconds since `epoch`, in a word. -/
def now (x : Win) : Int64 := x.clock - .ofInt epoch

def millis (x : Win) : Int64 := nextMillis x.previous x.now

def stamp (x : Win) : Int64 := nextWord x.previous x.now

/-- The id that the winner returns. -/
def id (x : Win) (worker : Nat) : Snowflake := idWord x.stamp worker

end Win

/-- The shared word, the threads, and the exchanges that have succeeded, in their order. -/
structure Race (ι : Type) where
  packed : Int64 := 0
  threads : ι → Thread := fun _ => .idle
  wins : List Win := []

namespace Race

variable {ι : Type} [DecidableEq ι]

def move (r : Race ι) (i : ι) (t : Thread) : Race ι := { r with threads := Function.update r.threads i t }

inductive Step : Race ι → Race ι → Prop
  | loads {r : Race ι} (i : ι) : r.threads i = .idle → Step r (r.move i (.loaded r.packed))
  | reads {r : Race ι} {previous : Int64} (i : ι) (clock : Int64) :
    r.threads i = .loaded previous → Step r (r.move i (.timed previous clock))
  | wins {r : Race ι} {x : Win} (i : ι) :
    r.threads i = .timed x.previous x.clock → r.packed = x.previous →
      Step r { r.move i .idle with packed := x.stamp, wins := r.wins ++ [x] }
  | loses {r : Race ι} {previous clock : Int64} (i : ι) :
    r.threads i = .timed previous clock → r.packed ≠ previous → Step r (r.move i .idle)

def Reaches : Race ι → Race ι → Prop := Relation.ReflTransGen Step

/-- The milliseconds that were packed into the word. -/
def InRange (r : Race ι) : Prop := ∀ x ∈ r.wins, x.millis.toInt < 2 ^ 41

def ids (r : Race ι) (worker : Nat) : List Snowflake := r.wins.map (·.id worker)

end Race

/-! ### One win -/

namespace Win

/-- The word was a stamp when it was loaded, and the next stamp fits it too. -/
structure Fits (x : Win) : Prop where
  nonneg : 0 ≤ x.previous.toInt
  lt : x.previous.toInt < 2 ^ 53
  millis_lt : x.millis.toInt < 2 ^ 41

namespace Fits

variable {x : Win} {worker : Nat}

/-- A clock so far back that the subtraction wraps around gives milliseconds out of range. -/
theorem now_eq (h : x.Fits) : x.now.toInt = x.clock.toInt - epoch := by
  have hnow : x.now.toInt < 2 ^ 41 := by
    have hmillis := h.millis_lt
    have hlt := h.lt
    rw [millis, toInt_nextMillis h.nonneg h.lt] at hmillis
    split at hmillis <;> omega
  have hsub : x.now.toInt = (x.clock.toInt - epoch).bmod (2 ^ 64) := Int64.toInt_sub _ _
  have hmin := x.clock.le_toInt
  have hmax := x.clock.toInt_lt
  have hepoch : epoch = 1704067200000 := rfl
  by_cases hwrap : -2 ^ 63 ≤ x.clock.toInt - epoch
  · rw [hsub, Int.bmod_eq_of_le] <;> omega
  · rw [← Int.add_bmod_right, Int.bmod_eq_of_le] at hsub <;> omega

theorem stamp_eq (h : x.Fits) : x.stamp.toInt = (Stamp.next x.previous.toInt (x.clock.toInt - epoch) : Int) := by
  rw [stamp, toInt_nextWord h.nonneg h.lt h.millis_lt, h.now_eq]

theorem lt_stamp (h : x.Fits) : x.previous.toInt < x.stamp.toInt := by
  rw [h.stamp_eq]
  exact Stamp.lt_next

theorem millis_eq (h : x.Fits) : x.stamp.toInt / 4096 = x.millis.toInt := by
  rw [h.stamp_eq, ← h.now_eq, Stamp.next_eq, millis, toInt_nextMillis h.nonneg h.lt]
  split
  · exact Int.mul_ediv_cancel _ (by decide)
  · split <;> omega

theorem stamp_lt (h : x.Fits) : x.stamp.toInt < 2 ^ 53 := by
  have heq := h.millis_eq
  have hlt := h.millis_lt
  omega

theorem id_eq (h : x.Fits) (hw : worker < 1024) :
    (x.id worker).toInt = x.stamp.toInt / 4096 * 4194304 + worker * 4096 + x.stamp.toInt % 4096 :=
  toInt_idWord (Int.le_trans h.nonneg (Int.le_of_lt h.lt_stamp)) h.stamp_lt hw

theorem id_pos (h : x.Fits) (hw : worker < 1024) : 0 < (x.id worker).toInt := by
  have hlt := h.lt_stamp
  have hnonneg := h.nonneg
  rw [h.id_eq hw]
  omega

theorem worker_id (h : x.Fits) (hw : worker < 1024) : (x.id worker).worker = worker := by
  rw [Snowflake.worker, h.id_eq hw, Int.fdiv_eq_ediv_of_nonneg _ (by decide)]
  omega

theorem clock_le_timestamp (h : x.Fits) (hw : worker < 1024) : x.clock.toInt ≤ (x.id worker).timestamp := by
  have hstamp := h.stamp_eq
  rw [Stamp.next_eq] at hstamp
  rw [Snowflake.timestamp, h.id_eq hw, Int.fdiv_eq_ediv_of_nonneg _ (by decide)]
  split at hstamp <;> omega

/-- The winner returns what a generator issues that is asked alone. -/
theorem generate_eq (h : x.Fits) (hw : worker < 1024) :
    Generator.generate ⟨worker, hw, x.previous.toInt⟩ x.clock.toInt =
      (x.id worker, ⟨worker, hw, x.stamp.toInt⟩) := by
  rw [Generator.generate, ← h.stamp_eq, id,
    idWord_eq_toId (Int.le_trans h.nonneg (Int.le_of_lt h.lt_stamp)) h.stamp_lt hw]

theorem id_lt {y : Win} (h : x.Fits) (hy : y.Fits) (hw : worker < 1024) (hlt : x.stamp.toInt < y.stamp.toInt) :
    (x.id worker).toInt < (y.id worker).toInt := by
  rw [h.id_eq hw, hy.id_eq hw]
  omega

end Fits

end Win

/-! ### The race -/

namespace Race

variable {ι : Type} {r r' : Race ι}

/-- The word is the stamp of the last win, if any, and each win made it larger. -/
structure Sound (r : Race ι) : Prop where
  nonneg : 0 ≤ r.packed.toInt
  lt : r.packed.toInt < 2 ^ 53
  fits : ∀ x ∈ r.wins, x.Fits
  stamp_le : ∀ x ∈ r.wins, x.stamp.toInt ≤ r.packed.toInt
  increasing : r.wins.Pairwise fun x y => x.stamp.toInt < y.stamp.toInt

theorem sound_start : Sound ({} : Race ι) where
  nonneg := Int.le_refl 0
  lt := show (0 : Int64).toInt < 2 ^ 53 by decide
  fits x hx := by cases hx
  stamp_le x hx := by cases hx
  increasing := .nil

variable [DecidableEq ι]

theorem Sound.move (h : Sound r) (i : ι) (t : Thread) : Sound (r.move i t) := { h with }

theorem Sound.win {x : Win} (h : Sound r) (i : ι) (hx : r.packed = x.previous) (hrange : x.millis.toInt < 2 ^ 41) :
    Sound { r.move i .idle with packed := x.stamp, wins := r.wins ++ [x] } := by
  have hfits : x.Fits := ⟨hx ▸ h.nonneg, hx ▸ h.lt, hrange⟩
  have hlt : r.packed.toInt < x.stamp.toInt := hx ▸ hfits.lt_stamp
  refine ⟨Int.le_trans h.nonneg (Int.le_of_lt hlt), hfits.stamp_lt, fun y hy => ?_, fun y hy => ?_, ?_⟩
  · rcases List.mem_append.1 hy with hy | hy
    · exact h.fits y hy
    · exact List.mem_singleton.1 hy ▸ hfits
  · rcases List.mem_append.1 hy with hy | hy
    · exact Int.le_trans (h.stamp_le y hy) (Int.le_of_lt hlt)
    · rw [List.mem_singleton.1 hy]
  · refine List.pairwise_append.2 ⟨h.increasing, List.pairwise_singleton _ _, fun y hy z hz => ?_⟩
    rw [List.mem_singleton.1 hz]
    exact Int.lt_of_le_of_lt (h.stamp_le y hy) hlt

theorem Step.inRange (h : Step r r') (hrange : r'.InRange) : r.InRange := by
  cases h with
  | loads => exact hrange
  | reads => exact hrange
  | wins => exact fun x hx => hrange x (List.mem_append_left _ hx)
  | loses => exact hrange

theorem Step.sound (h : Step r r') (hr : Sound r) (hrange : r'.InRange) : Sound r' := by
  cases h with
  | loads i => exact hr.move i _
  | reads i clock => exact hr.move i _
  | wins i hthread hpacked =>
    exact hr.win i hpacked (hrange _ (List.mem_append_right _ (List.mem_singleton_self _)))
  | loses i => exact hr.move i _

theorem Reaches.sound (h : Reaches {} r) (hrange : r.InRange) : Sound r := by
  induction h with
  | refl => exact sound_start
  | tail _ hstep ih => exact hstep.sound (ih (hstep.inRange hrange)) hrange

/-- However the threads take turns and whatever the clock says, the ids that are returned increase from win to win; each
is positive, carries the worker and is not older than the reading that its winner used, and is what a generator issues
that is asked alone. No other worker returns any of them. -/
theorem ids_increase {worker : Nat} (hw : worker < 1024) (hr : Reaches {} r) (hrange : r.InRange) :
    (r.ids worker).Pairwise (·.toInt < ·.toInt) ∧
      (∀ x ∈ r.wins, 0 < (x.id worker).toInt ∧ (x.id worker).worker = worker ∧
        x.clock.toInt ≤ (x.id worker).timestamp ∧
        Generator.generate ⟨worker, hw, x.previous.toInt⟩ x.clock.toInt =
          (x.id worker, ⟨worker, hw, x.stamp.toInt⟩)) ∧
      ∀ {κ : Type} [DecidableEq κ] {other : Race κ} {worker' : Nat}, worker' < 1024 → worker' ≠ worker →
        Reaches {} other → other.InRange → ∀ id ∈ r.ids worker, id ∉ other.ids worker' := by
  have hsound := hr.sound hrange
  refine ⟨?_, fun x hx => ?_, fun {κ _ other worker'} hw' hne hother hrange' id hid hid' => ?_⟩
  · refine List.pairwise_map.2 (hsound.increasing.imp_of_mem fun hx hy hlt => ?_)
    exact (hsound.fits _ hx).id_lt (hsound.fits _ hy) hw hlt
  · have hfits := hsound.fits x hx
    exact ⟨hfits.id_pos hw, hfits.worker_id hw, hfits.clock_le_timestamp hw, hfits.generate_eq hw⟩
  · obtain ⟨x, hx, rfl⟩ := List.mem_map.1 hid
    obtain ⟨y, hy, heq⟩ := List.mem_map.1 hid'
    have hworker := (hsound.fits x hx).worker_id hw
    rw [← heq, ((hother.sound hrange').fits y hy).worker_id hw'] at hworker
    exact hne hworker

/-- The win of the first of two threads that load the word at once. -/
def firstWin : Win := ⟨0, .ofInt (epoch + 5)⟩

/-- The win of the second, at a clock that has stepped back behind the word. -/
def secondWin : Win := ⟨firstWin.stamp, .ofInt (epoch + 2)⟩

theorem reaches_secondWin : ∃ threads, Reaches ({} : Race Bool) ⟨secondWin.stamp, threads, [firstWin, secondWin]⟩ := by
  have h₁ := Relation.ReflTransGen.refl.tail (Step.loads (r := ({} : Race Bool)) true rfl)
  have h₂ := h₁.tail (.loads false rfl)
  have h₃ := h₂.tail (.reads true firstWin.clock rfl)
  have h₄ := h₃.tail (.reads false (.ofInt (epoch - 3)) rfl)
  have h₅ := h₄.tail (.wins (x := firstWin) true rfl rfl)
  have hlost : firstWin.stamp ≠ 0 := by decide +kernel
  have h₆ := h₅.tail (.loses false rfl hlost)
  have h₇ := h₆.tail (.loads false rfl)
  have h₈ := h₇.tail (.reads false secondWin.clock rfl)
  exact ⟨_, h₈.tail (.wins (x := secondWin) false rfl rfl)⟩

theorem ids_increase_secondWin : ∃ r : Race Bool, r.wins = [firstWin, secondWin] ∧ Reaches {} r ∧ r.InRange ∧
    (r.ids 3).Pairwise (·.toInt < ·.toInt) ∧ (∀ x ∈ r.wins, x.clock.toInt ≤ (x.id 3).timestamp) ∧
      ∀ id ∈ r.ids 3, id ∉ r.ids 4 := by
  obtain ⟨threads, hr⟩ := reaches_secondWin
  have hrange : InRange (⟨secondWin.stamp, threads, [firstWin, secondWin]⟩ : Race Bool) := by
    show ∀ x ∈ [firstWin, secondWin], x.millis.toInt < 2 ^ 41
    decide +kernel
  obtain ⟨hids, hwins, hothers⟩ := ids_increase (show 3 < 1024 by decide) hr hrange
  exact ⟨_, rfl, hr, hrange, hids, fun x hx => (hwins x hx).2.2.1,
    hothers (show 4 < 1024 by decide) (by decide) hr hrange⟩

end Race

end Intake.Snowflake
