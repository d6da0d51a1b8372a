/-!
# Decimal digits

Integers in base ten are written by `toString`: no leading zero and no plus sign. The readers accept an optional plus
sign, any number of leading zeros, and ASCII digits only.
-/

namespace Intake.Digits

/-- The number that a list of digits denotes, most significant digit first. -/
def value (s : List Char) : Nat := Nat.ofDigitChars 10 s 0

def unsigned? (s : List Char) : Option Nat :=
  if s ≠ [] ∧ s.all Char.isDigit then some (value s) else none

/-- An optional plus sign and at least one digit. -/
def nat? : List Char → Option Nat
  | '+' :: s => unsigned? s
  | s => unsigned? s

/-- An optional sign and at least one digit. -/
def int? : List Char → Option Int
  | '-' :: s => (unsigned? s).map fun n => -(n : Int)
  | s => (nat? s).map fun n => (n : Int)

theorem unsigned?_toDigits (n : Nat) : unsigned? (Nat.toDigits 10 n) = some n := by
  have h : (Nat.toDigits 10 n).all Char.isDigit = true := by
    simpa using fun c hc => Nat.isDigit_of_mem_toDigits (by omega) (by omega) hc
  simp [unsigned?, value, h, Nat.toDigits_ne_nil, Nat.ofDigitChars_toDigits]

theorem toList_toString (n : Nat) : (toString n).toList = Nat.toDigits 10 n := by
  rw [Nat.toString_eq_repr, Nat.toList_repr]

theorem toString_inj {m n : Nat} (h : toString m = toString n) : m = n := by
  have h' := congrArg (fun s : String => unsigned? s.toList) h
  simp only [toList_toString, unsigned?_toDigits, Option.some.injEq] at h'
  exact h'

/-- What is written is read back. -/
theorem int?_toString (i : Int) : int? (toString i).toList = some i := by
  cases i with
  | ofNat n =>
    show int? (toString n).toList = _
    rw [toList_toString]
    have h := unsigned?_toDigits n
    cases hd : Nat.toDigits 10 n with
    | nil => exact absurd hd Nat.toDigits_ne_nil
    | cons c s =>
      have hc : c.isDigit = true := Nat.isDigit_of_mem_toDigits (by omega) (by omega) (hd ▸ List.mem_cons_self)
      rw [hd] at h
      unfold int? nat?
      split
      · rename_i heq
        cases heq
        exact absurd hc (by decide)
      · split
        · rename_i heq
          cases heq
          exact absurd hc (by decide)
        · rw [h]
          rfl
  | negSucc n =>
    show int? ("-" ++ (n + 1).repr).toList = _
    rw [String.toList_append, Nat.toList_repr]
    show (unsigned? (Nat.toDigits 10 (n + 1))).map (fun m => -(m : Int)) = _
    rw [unsigned?_toDigits]
    rfl

/-- An integer is written with digits and a minus sign. -/
theorem of_mem_toString {i : Int} {c : Char} (h : c ∈ (toString i).toList) : c.isDigit = true ∨ c = '-' := by
  have digit : ∀ {n : Nat}, c ∈ Nat.toDigits 10 n → c.isDigit = true :=
    Nat.isDigit_of_mem_toDigits (by omega) (by omega)
  cases i with
  | ofNat n => exact .inl (digit (toList_toString n ▸ h))
  | negSucc n =>
    change c ∈ ("-" ++ (n + 1).repr).toList at h
    rw [String.toList_append, Nat.toList_repr, List.mem_append] at h
    rcases h with h | h
    · exact .inr (by simpa using h)
    · exact .inl (digit h)

end Intake.Digits
