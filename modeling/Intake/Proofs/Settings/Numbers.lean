import Intake.Proofs.Text.Numerals
import Intake.Proofs.Webhook.Tidy
import Intake.Settings.Lookup
import Mathlib.Algebra.Group.Nat.Defs
import Mathlib.Data.List.Basic

/-!
# Reading numbers from variables

A variable denotes a number if it has digits in it, perhaps after a plus sign, and blanks around them. It is read
exactly if it is absent or denotes a number of 64 bits (`exists_number_iff`), and what is read is what it denotes
(`number_eq_ok_iff`).
-/

namespace Intake

theorem Digits.Natural.isBlank_eq_false {s : List Char} {n : Nat} (h : Natural s n) :
    s ≠ [] ∧ ∀ c ∈ s, Text.isBlank c = false := by
  cases h with
  | plain h => exact ⟨h.ne_nil, fun c hc => Text.isBlank_of_isDigit (h.isDigit c hc)⟩
  | plus h =>
    refine ⟨List.cons_ne_nil _ _, List.forall_mem_cons.2 ⟨by decide, fun c hc => ?_⟩⟩
    exact Text.isBlank_of_isDigit (h.isDigit c hc)

namespace Settings

/-- The text says the number `n`, with blanks around it. -/
def Denotes (text : String) (n : Nat) : Prop :=
  ∃ before s after, text.toList = before ++ s ++ after ∧ (∀ c ∈ before, Text.isBlank c = true) ∧
    (∀ c ∈ after, Text.isBlank c = true) ∧ Digits.Natural s n

theorem denotes_iff {text : String} {n : Nat} :
    Denotes text n ↔ Digits.nat? (Text.trimList text.toList) = some n := by
  rw [Digits.nat?_eq_some_iff]
  constructor
  · rintro ⟨before, s, after, htext, hbefore, hafter, hs⟩
    obtain ⟨hne, hblank⟩ := hs.isBlank_eq_false
    rw [htext, Text.trimList_surrounded hbefore hafter hne (fun c hc => hblank c (List.mem_of_head? hc))
      fun c hc => hblank c (List.mem_of_getLast? hc)]
    exact hs
  · intro h
    obtain ⟨before, after, htext, hbefore, hafter⟩ := Text.exists_trimList text.toList
    exact ⟨before, _, after, htext, hbefore, hafter, h⟩

theorem Denotes.unique {text : String} {m n : Nat} (hm : Denotes text m) (hn : Denotes text n) : m = n :=
  Option.some.inj ((denotes_iff.1 hm).symm.trans (denotes_iff.1 hn))

instance (text : String) (n : Nat) : Decidable (Denotes text n) := decidable_of_iff _ denotes_iff.symm

namespace Lookup

variable {lookup : Lookup} {name text : String} {w : UInt64} {r : Option UInt64}

theorem number?_eq_some_iff : number? text = some w ↔ Denotes text w.toNat := by
  rw [denotes_iff, number?, Option.map_eq_some_iff]
  constructor
  · rintro ⟨n, hn, rfl⟩
    obtain ⟨hread, hlt⟩ := Option.filter_eq_some_iff.1 hn
    rw [hread, UInt64.toNat_ofNat_of_lt' (of_decide_eq_true hlt)]
  · intro h
    refine ⟨w.toNat, Option.filter_eq_some_iff.2 ⟨h, decide_eq_true w.toNat_lt⟩, UInt64.ofNat_toNat⟩

/-- The variable is absent, or it denotes a number below the limit. -/
def Reads (lookup : Lookup) (name : String) (limit : Nat) : Prop :=
  ∀ text, lookup name = some text → ∃ n, Denotes text n ∧ n < limit

theorem number_of_none (h : lookup name = none) : lookup.number name = .ok none := by
  rw [number, h]

theorem number_of_denotes (h : lookup name = some text) (hw : Denotes text w.toNat) :
    lookup.number name = .ok (some w) := by
  rw [number, h]
  simp only [number?_eq_some_iff.2 hw]

theorem number_eq_ok_iff : lookup.number name = .ok r ↔
    lookup name = none ∧ r = none ∨ ∃ text w, lookup name = some text ∧ r = some w ∧ Denotes text w.toNat := by
  constructor
  · intro h
    rw [number] at h
    split at h
    · next hnone => exact .inl ⟨hnone, (Except.ok.inj h).symm⟩
    · next text hsome =>
      split at h
      · next w hw => exact .inr ⟨text, w, hsome, (Except.ok.inj h).symm, number?_eq_some_iff.1 hw⟩
      · cases h
  · rintro (⟨hnone, rfl⟩ | ⟨text, w, hsome, rfl, hw⟩)
    · exact number_of_none hnone
    · exact number_of_denotes hsome hw

theorem number_of_some (h : lookup.number name = .ok r) (htext : lookup name = some text) :
    ∃ w, r = some w ∧ Denotes text w.toNat := by
  rcases number_eq_ok_iff.1 h with ⟨hnone, -⟩ | ⟨text', w, hsome, rfl, hw⟩
  · rw [hnone] at htext
    cases htext
  · obtain rfl : text' = text := Option.some.inj (hsome.symm.trans htext)
    exact ⟨w, rfl, hw⟩

theorem exists_number_iff : (∃ r, lookup.number name = .ok r) ↔ Reads lookup name (2 ^ 64) := by
  constructor
  · rintro ⟨r, hr⟩ text htext
    obtain ⟨w, -, hw⟩ := number_of_some hr htext
    exact ⟨w.toNat, hw, w.toNat_lt⟩
  · intro h
    cases htext : lookup name with
    | none => exact ⟨none, number_of_none htext⟩
    | some text =>
      obtain ⟨n, hn, hlt⟩ := h text htext
      refine ⟨some (.ofNat n), number_of_denotes htext ?_⟩
      rwa [UInt64.toNat_ofNat_of_lt' hlt]

end Lookup

end Settings

end Intake
