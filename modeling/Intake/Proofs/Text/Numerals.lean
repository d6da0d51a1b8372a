import Intake.Text.Digits
import Mathlib.Data.List.Induction

/-!
# Numerals

A digit denotes itself, and a digit that follows a numeral adds itself to ten times what that denotes. The readers
accept numerals of any length, leading zeros included, and read what they denote (`nat?_eq_some_iff`,
`int?_eq_some_iff`).
-/

namespace Intake.Digits

/-- At least one digit, and nothing else. -/
inductive Numeral : List Char → Nat → Prop
  | digit {c : Char} (hc : c.isDigit = true) : Numeral [c] (c.toNat - '0'.toNat)
  | concat {s : List Char} {n : Nat} {c : Char} (hs : Numeral s n) (hc : c.isDigit = true) :
    Numeral (s ++ [c]) (10 * n + (c.toNat - '0'.toNat))

/-- A numeral, perhaps after a plus sign. -/
inductive Natural : List Char → Nat → Prop
  | plain {s : List Char} {n : Nat} (h : Numeral s n) : Natural s n
  | plus {s : List Char} {n : Nat} (h : Numeral s n) : Natural ('+' :: s) n

/-- A numeral, perhaps after a sign. -/
inductive Integer : List Char → Int → Prop
  | natural {s : List Char} {n : Nat} (h : Natural s n) : Integer s n
  | minus {s : List Char} {n : Nat} (h : Numeral s n) : Integer ('-' :: s) (-n)

variable {s : List Char} {n : Nat} {i : Int}

theorem value_concat (s : List Char) (c : Char) : value (s ++ [c]) = 10 * value s + (c.toNat - '0'.toNat) := by
  rw [value, Nat.ofDigitChars_append, Nat.ofDigitChars_cons, Nat.ofDigitChars_nil, value]

namespace Numeral

theorem ne_nil (h : Numeral s n) : s ≠ [] := by
  cases h with
  | digit => exact List.cons_ne_nil _ _
  | concat => exact List.concat_ne_nil _ _

theorem isDigit (h : Numeral s n) : ∀ c ∈ s, c.isDigit = true := by
  induction h with
  | digit hc => exact List.forall_mem_singleton.2 hc
  | concat _ hc ih => exact List.forall_mem_append.2 ⟨ih, List.forall_mem_singleton.2 hc⟩

theorem value_eq (h : Numeral s n) : value s = n := by
  induction h with
  | digit => rw [value, Nat.ofDigitChars_cons, Nat.ofDigitChars_nil, Nat.mul_zero, Nat.zero_add]
  | concat _ _ ih => rw [value_concat, ih]

end Numeral

theorem numeral_value (hne : s ≠ []) (hdigits : ∀ c ∈ s, c.isDigit = true) : Numeral s (value s) := by
  induction s using List.reverseRecOn with
  | nil => exact absurd rfl hne
  | append_singleton s c ih =>
    obtain ⟨hs, hc⟩ := List.forall_mem_append.1 hdigits
    have hdigit : c.isDigit = true := hc c List.mem_cons_self
    by_cases hnil : s = []
    · subst hnil
      have hsingle : Numeral [c] (c.toNat - '0'.toNat) := .digit hdigit
      rwa [← hsingle.value_eq] at hsingle
    · rw [value_concat]
      exact .concat (ih hnil hs) hdigit

theorem unsigned?_eq_some_iff : unsigned? s = some n ↔ Numeral s n := by
  constructor
  · intro h
    rw [unsigned?] at h
    split at h
    · next hs =>
      obtain rfl := Option.some.inj h
      exact numeral_value hs.1 (List.all_eq_true.1 hs.2)
    · cases h
  · intro h
    rw [unsigned?, if_pos ⟨h.ne_nil, List.all_eq_true.2 h.isDigit⟩, h.value_eq]

theorem Numeral.nat?_eq (h : Numeral s n) : nat? s = unsigned? s := by
  unfold nat?
  split
  · exact absurd (h.isDigit '+' List.mem_cons_self) (by decide)
  · rfl

theorem nat?_eq_some_iff : nat? s = some n ↔ Natural s n := by
  constructor
  · intro h
    unfold nat? at h
    split at h
    · exact .plus (unsigned?_eq_some_iff.1 h)
    · exact .plain (unsigned?_eq_some_iff.1 h)
  · intro h
    cases h with
    | plain h => rw [h.nat?_eq, unsigned?_eq_some_iff.2 h]
    | plus h => exact unsigned?_eq_some_iff.2 h

theorem int?_minus (s : List Char) : int? ('-' :: s) = (unsigned? s).map fun n : Nat => -(n : Int) := by
  rw [int?]
  cases unsigned? s <;> rfl

theorem int?_of_ne (h : ∀ r, s ≠ '-' :: r) : int? s = (nat? s).map fun n : Nat => (n : Int) := by
  unfold int?
  split
  · exact absurd rfl (h _)
  · cases nat? s <;> rfl

theorem Natural.ne_minus (h : Natural s n) (r : List Char) : s ≠ '-' :: r := by
  rintro rfl
  cases h with
  | plain h => exact absurd (h.isDigit '-' List.mem_cons_self) (by decide)

theorem int?_eq_some_iff : int? s = some i ↔ Integer s i := by
  constructor
  · intro h
    by_cases hminus : ∃ r, s = '-' :: r
    · obtain ⟨r, rfl⟩ := hminus
      rw [int?_minus] at h
      obtain ⟨n, hn, rfl⟩ := Option.map_eq_some_iff.1 h
      exact .minus (unsigned?_eq_some_iff.1 hn)
    · rw [int?_of_ne fun r hr => hminus ⟨r, hr⟩] at h
      obtain ⟨n, hn, rfl⟩ := Option.map_eq_some_iff.1 h
      exact .natural (nat?_eq_some_iff.1 hn)
  · intro h
    cases h with
    | natural h => rw [int?_of_ne h.ne_minus, nat?_eq_some_iff.2 h, Option.map_some]
    | minus h => rw [int?_minus, unsigned?_eq_some_iff.2 h, Option.map_some]

end Intake.Digits
