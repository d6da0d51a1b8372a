import Intake.Snowflake.Generator
import Mathlib.Algebra.Group.Int.Defs
import Mathlib.Algebra.Order.Group.Multiset

/-!
# Ids are made once

A stamp has 54 bits in an id, and the stamps of a generator only grow. So a generator makes no id twice as long as its
stamps stay below `2 ^ 54` (`not_issued_generate`). While the clock is before the horizon, the milliseconds of a clock
reading need 41 bits of the stamp's 42, which leaves `2 ^ 53` ids to be made ahead of the clock
(`stamp_generate_le`).
-/

namespace Intake.Snowflake

/-- The moment up to which the milliseconds of a clock reading fit an id that is not negative. -/
def horizon : Int := epoch + 2 ^ 41

namespace Stamp

variable {s s' now : Int} {worker : Nat}

theorem millis_eq : (millis s : Int) = s / 4096 := Int.fdiv_eq_ediv_of_nonneg _ (by decide)

theorem next_eq : (next s now : Int) = if s / 4096 < now then now * 4096 else s + 1 := by
  rw [next, millis_eq]
  split
  · rfl
  · split
    · rfl
    · next hfull =>
      change ¬ s % 4096 < 4096 - 1 at hfull
      change (s / 4096 + 1) * 4096 = s + 1
      omega

theorem lt_next : s < (next s now : Int) := by
  rw [next_eq]
  split <;> omega

theorem next_le {bound : Int} (hnow : now < 2 ^ 41) (h : s < bound) (hb : 2 ^ 53 ≤ bound) :
    (next s now : Int) ≤ bound := by
  rw [next_eq]
  split
  · change now * 4096 ≤ bound
    omega
  · exact h

theorem toId_inj (hs : 0 ≤ s ∧ s < 2 ^ 54) (hs' : 0 ≤ s' ∧ s' < 2 ^ 54)
    (h : toId s worker = toId s' worker) : s = s' := by
  have hwords := congrArg (fun id => id.word.toInt % (Int64.size : Int)) h
  simp only [toId, Snowflake.ofInt, Int64.toInt_ofInt, millis_eq, sequence] at hwords
  rw [Int.bmod_emod, Int.bmod_emod] at hwords
  change (s / 4096 * 4194304 + worker * 4096 + s % 4096) % 18446744073709551616 =
    (s' / 4096 * 4194304 + worker * 4096 + s' % 4096) % 18446744073709551616 at hwords
  omega

end Stamp

namespace Generator

variable {g : Generator} {clock : Int} {id : Snowflake}

/-- The last stamp, as a number. -/
def stamp (g : Generator) : Int := g.last

/-- The generator may have made the id. -/
def Issued (g : Generator) (id : Snowflake) : Prop :=
  ∃ s : Int, 0 ≤ s ∧ s ≤ g.stamp ∧ id = Stamp.toId s g.worker

theorem stamp_lt_generate : g.stamp < (g.generate clock).2.stamp := Stamp.lt_next

theorem Issued.generate (h : g.Issued id) : (g.generate clock).2.Issued id := by
  obtain ⟨s, h₀, hs, rfl⟩ := h
  exact ⟨s, h₀, Int.le_trans hs (Int.le_of_lt stamp_lt_generate), rfl⟩

theorem issued_generate (h₀ : 0 ≤ g.stamp) : (g.generate clock).2.Issued (g.generate clock).1 :=
  ⟨_, Int.le_trans h₀ (Int.le_of_lt stamp_lt_generate), Int.le_refl _, rfl⟩

theorem not_issued_generate (h₀ : 0 ≤ g.stamp) (h : (g.generate clock).2.stamp < 2 ^ 54) :
    ¬ g.Issued (g.generate clock).1 := by
  rintro ⟨s, hs₀, hs, heq⟩
  have hlt : g.stamp < (g.generate clock).2.stamp := stamp_lt_generate
  have hnext : (g.generate clock).2.stamp = s :=
    Stamp.toId_inj ⟨Int.le_trans h₀ (Int.le_of_lt hlt), h⟩ ⟨hs₀, Int.lt_trans (Int.lt_of_le_of_lt hs hlt) h⟩ heq
  omega

/-- Before the horizon a generator is ahead of the clock by no more than it has made. -/
theorem stamp_generate_le {bound : Int} (hc : clock < horizon) (h : g.stamp < bound) (hb : 2 ^ 53 ≤ bound) :
    (g.generate clock).2.stamp ≤ bound := by
  have hnow : clock - epoch < 2 ^ 41 := by
    rw [horizon] at hc
    omega
  exact Stamp.next_le hnow h hb

/-! ### What a generator has made -/

/-- The ids are different, and the generator has made them all. -/
structure Made (g : Generator) (ids : Multiset Snowflake) : Prop where
  nonneg : 0 ≤ g.stamp
  nodup : ids.Nodup
  issued : ∀ id ∈ ids, g.Issued id

namespace Made

variable {ids ids' : Multiset Snowflake}

theorem mono (h : g.Made ids) (hle : ids' ≤ ids) : g.Made ids' :=
  ⟨h.nonneg, Multiset.nodup_of_le hle h.nodup, fun id hid => h.issued id (Multiset.mem_of_le hle hid)⟩

theorem generate (h : g.Made ids) (hrange : (g.generate clock).2.stamp < 2 ^ 54) :
    (g.generate clock).2.Made ((g.generate clock).1 ::ₘ ids) := by
  refine ⟨Int.le_trans h.nonneg (Int.le_of_lt stamp_lt_generate), ?_, fun id hid => ?_⟩
  · exact Multiset.nodup_cons.2 ⟨fun hmem => not_issued_generate h.nonneg hrange (h.issued _ hmem), h.nodup⟩
  · rcases Multiset.mem_cons.1 hid with rfl | hid
    · exact issued_generate h.nonneg
    · exact (h.issued id hid).generate

end Made

end Generator

end Intake.Snowflake
