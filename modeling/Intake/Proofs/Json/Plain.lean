import Intake.Json.Reader
import Intake.Json.Writer
import Mathlib.Data.List.Basic
import Mathlib.Data.Option.Basic

/-!
# Plain JSON text

Integers of 64 bits, and strings that need no escapes, are read back from the text that is written for them
(`parse_integer`, `parse_quoted`).
-/

namespace Intake.Json

namespace Reader

/-! ### Digits -/

section

variable {s : List Char} {n : Nat}

theorem span_digits (hdigits : ∀ c ∈ s, c.isDigit = true) :
    s.takeWhile Char.isDigit = s ∧ s.dropWhile Char.isDigit = [] := by
  induction s with
  | nil => exact ⟨rfl, rfl⟩
  | cons c s ih =>
    obtain ⟨hc, hs⟩ := List.forall_mem_cons.1 hdigits
    obtain ⟨htake, hdrop⟩ := ih hs
    rw [List.takeWhile_cons_of_pos hc, List.dropWhile_cons_of_pos hc, htake]
    exact ⟨rfl, hdrop⟩

/-- An integer is its whole part. A zero in front of other digits would end it. -/
theorem written_digits (hne : s ≠ []) (hdigits : ∀ c ∈ s, c.isDigit = true) (hzero : ∀ r, s = '0' :: r → r = []) :
    written s = some (⟨false, s, [], none⟩, []) ∧ written ('-' :: s) = some (⟨true, s, [], none⟩, []) := by
  obtain ⟨htake, hdrop⟩ := span_digits hdigits
  have hguard : ∀ [Decidable (s ≠ [])], (guard (s ≠ []) : Option Unit) = some () := if_pos hne
  by_cases hz : s = ['0']
  · subst hz
    exact ⟨rfl, rfl⟩
  · have hnonzero : ∀ r, s = '0' :: r → False := by
      intro r hr
      exact hz (by rw [hr, hzero r hr])
    have hminus : ∀ r, s = '-' :: r → False := by
      rintro r rfl
      exact absurd (hdigits '-' List.mem_cons_self) (by decide)
    constructor
    · rw [written, htake, hdrop]
      · rw [hguard]
        rfl
      · exact hminus
      · exact hnonzero
    · rw [written, htake, hdrop]
      · rw [hguard]
        rfl
      · exact hnonzero

theorem le_ofDigitChars (n : Nat) (s : List Char) : n ≤ Nat.ofDigitChars 10 s n := by
  induction s generalizing n with
  | nil => exact Nat.le_refl n
  | cons c s ih =>
    rw [Nat.ofDigitChars_cons]
    have hstep := ih (10 * n + (c.toNat - '0'.toNat))
    omega

theorem appendDigits_eq (h : Nat.ofDigitChars 10 s n < 0x10000000000000000) :
    appendDigits n s = (Nat.ofDigitChars 10 s n, s.length, 0) := by
  induction s generalizing n with
  | nil => rfl
  | cons c s ih =>
    rw [Nat.ofDigitChars_cons] at h ⊢
    have hstep : n * 10 + (c.toNat - 48) = 10 * n + (c.toNat - '0'.toNat) := by
      rw [Nat.mul_comm]
      rfl
    have hle := le_ofDigitChars (10 * n + (c.toNat - '0'.toNat)) s
    rw [appendDigits, hstep, if_pos (by omega), ih h]
    rfl

theorem toNumber?_natural (h : Digits.value s < 0x10000000000000000) :
    Written.toNumber? ⟨false, s, [], none⟩ = some (.integer (Digits.value s)) := by
  rw [Written.toNumber?, appendDigits_eq h]
  rfl

theorem toNumber?_negative (hpos : 0 < Digits.value s) (hle : Digits.value s ≤ 0x8000000000000000) :
    Written.toNumber? ⟨true, s, [], none⟩ = some (.integer (-Digits.value s)) := by
  have hfits : Digits.value s < 0x10000000000000000 := by omega
  have hinteger : Digits.value s ≠ 0 ∧ Digits.value s ≤ 0x8000000000000000 := ⟨by omega, hle⟩
  rw [Written.toNumber?, appendDigits_eq hfits]
  exact if_pos hinteger

end

/-! ### What begins a value -/

/-- No space, and no bracket either. -/
def Starts (c : Char) : Prop := isSpace c = false ∧ c ≠ '[' ∧ c ≠ '\x7b'

theorem starts_of_isDigit {c : Char} (h : c.isDigit = true) : Starts c := by
  have hne : ∀ d : Char, d.isDigit = false → c ≠ d := by
    rintro d hd rfl
    exact absurd h (by simp [hd])
  refine ⟨?_, hne _ (by decide), hne _ (by decide)⟩
  simp [isSpace, hne ' ' (by decide), hne '\t' (by decide), hne '\n' (by decide), hne '\r' (by decide)]

theorem parse_of_scalar {text : String} {c : Char} {r : List Char} {v : Json} (htext : text.toList = c :: r)
    (hc : Starts c) (h : scalar (c :: r) = some (v, [])) : parse text = some v := by
  obtain ⟨hspace, harray, hobject⟩ := hc
  have hskip : skipSpace (c :: r) = c :: r := List.dropWhile_cons_of_neg (by simp [hspace])
  have hvalue : value maxDepth (c :: r) = some (v, []) := by
    rw [maxDepth, value, hskip]
    split
    · next heq => exact absurd (List.cons.inj heq).1 harray
    · next heq => exact absurd (List.cons.inj heq).1 hobject
    · exact h
  rw [parse, htext, hvalue]
  rfl

theorem scalar_number {c : Char} {r : List Char} {w : Written} {n : Number} (hc : c = '-' ∨ c.isDigit = true)
    (hw : written (c :: r) = some (w, [])) (hn : w.toNumber? = some n) :
    scalar (c :: r) = some (.number n, []) := by
  have hquote : c ≠ '"' := by
    rintro rfl
    exact absurd hc (by decide)
  unfold scalar
  split
  · next heq => exact absurd (List.cons.inj heq).1 hquote
  · next heq =>
    obtain ⟨rfl, rfl⟩ := List.cons.inj heq
    rw [if_pos hc, hw]
    simp [hn]
  · next heq => cases heq

/-! ### Strings -/

/-- A character that stands for itself in a string. -/
def Plain (c : Char) : Prop := 32 ≤ c.toNat ∧ c.toNat < 127 ∧ c ≠ '"' ∧ c ≠ '\\'

theorem plain_of_isDigit {c : Char} (h : c.isDigit = true) : Plain c := by
  have hcodes : 48 ≤ c.toNat ∧ c.toNat ≤ 57 := by
    simpa [Char.isDigit, UInt32.le_iff_toNat_le] using h
  refine ⟨by omega, by omega, ?_, ?_⟩
  · rintro rfl
    exact absurd h (by decide)
  · rintro rfl
    exact absurd h (by decide)

theorem Plain.char_eq {c : Char} (h : Plain c) : Writer.char c = [c] := by
  obtain ⟨hlo, hhi, hquote, hescape⟩ := h
  rw [Writer.char, if_neg hquote, if_neg hescape, if_pos ⟨hlo, hhi⟩]

theorem string_plain {cs : List Char} (h : ∀ c ∈ cs, Plain c) (read : List Char) :
    string read (cs ++ ['"']) = some (read.reverse ++ cs, []) := by
  induction cs generalizing read with
  | nil => simp [string]
  | cons c cs ih =>
    obtain ⟨⟨hlo, -, hquote, hescape⟩, hcs⟩ := List.forall_mem_cons.1 h
    have hstep : string read (c :: (cs ++ ['"'])) = string (c :: read) (cs ++ ['"']) := by
      rw [string]
      · exact if_neg (by omega)
      · exact hquote
      · intro a b d e r hc
        exact absurd hc hescape
      · intro a r hc
        exact absurd hc hescape
    rw [List.cons_append, hstep, ih hcs, List.reverse_cons, List.append_assoc, List.singleton_append]

end Reader

open Reader

theorem parse_quoted {s : String} (h : ∀ c ∈ s.toList, Plain c) : parse (Writer.quoted s) = some (.string s) := by
  have hchars : s.toList.flatMap Writer.char = s.toList := by
    rw [List.flatMap_congr fun c hc => (h c hc).char_eq]
    exact List.flatMap_singleton' s.toList
  have htext : (Writer.quoted s).toList = '"' :: (s.toList ++ ['"']) := by
    rw [Writer.quoted, String.toList_ofList, hchars, List.cons_append]
  refine parse_of_scalar htext ⟨rfl, by decide, by decide⟩ ?_
  rw [scalar, string_plain h, Option.map_some]
  show some (Json.string (String.ofList s.toList), []) = _
  rw [String.ofList_toList]

theorem head?_toDigits {n : Nat} (h : 0 < n) : (Nat.toDigits 10 n).head? ≠ some '0' := by
  induction n using Nat.strongRecOn with
  | _ n ih =>
    by_cases hsmall : n < 10
    · rw [Nat.toDigits_of_lt_base hsmall, List.head?_cons, Ne, Option.some.injEq]
      intro hzero
      have hcode := congrArg Char.toNat hzero
      rw [Nat.toNat_digitChar_of_lt_ten hsmall] at hcode
      change 48 + n = 48 at hcode
      omega
    · have hsplit : Nat.toDigits 10 n = Nat.toDigits 10 (n / 10) ++ Nat.toDigits 10 (n % 10) := by
        rw [Nat.toDigits_append_toDigits (by decide) (by omega) (Nat.mod_lt _ (by decide)), Nat.div_add_mod]
      rw [hsplit, List.head?_append_of_ne_nil _ Nat.toDigits_ne_nil]
      exact ih (n / 10) (by omega) (by omega)

theorem toDigits_zero {n : Nat} (r : List Char) (h : Nat.toDigits 10 n = '0' :: r) : r = [] := by
  by_cases hn : n = 0
  · subst hn
    exact (List.cons.inj h).2.symm
  · exact absurd (by rw [h, List.head?_cons]) (head?_toDigits (Nat.pos_of_ne_zero hn))

theorem parse_integer {i : Int} (hlo : -0x8000000000000000 ≤ i) (hhi : i < 0x10000000000000000) :
    parse (toString i) = some (.number (.integer i)) := by
  have hdigits : ∀ n : Nat, ∀ c ∈ Nat.toDigits 10 n, c.isDigit = true := fun n c hc =>
    Nat.isDigit_of_mem_toDigits (by omega) (by omega) hc
  have hvalue : ∀ n : Nat, Digits.value (Nat.toDigits 10 n) = n := fun n => by
    rw [Digits.value, Nat.ofDigitChars_toDigits (by omega) (by omega)]
  cases i with
  | ofNat n =>
    obtain ⟨hwritten, -⟩ := written_digits Nat.toDigits_ne_nil (hdigits n) toDigits_zero
    have hfits : n < 0x10000000000000000 := Int.ofNat_lt.1 hhi
    have hnumber := toNumber?_natural (s := Nat.toDigits 10 n) (by rwa [hvalue])
    rw [hvalue] at hnumber
    obtain ⟨c, r, hcons⟩ := List.exists_cons_of_ne_nil (Nat.toDigits_ne_nil (b := 10) (n := n))
    have hc : c.isDigit = true := hdigits n c (hcons ▸ List.mem_cons_self)
    have htext : (toString (Int.ofNat n)).toList = c :: r := (Digits.toList_toString n).trans hcons
    rw [hcons] at hwritten hnumber
    exact parse_of_scalar htext (starts_of_isDigit hc) (scalar_number (.inr hc) hwritten hnumber)
  | negSucc n =>
    obtain ⟨-, hwritten⟩ := written_digits Nat.toDigits_ne_nil (hdigits (n + 1)) toDigits_zero
    have hnumber := toNumber?_negative (s := Nat.toDigits 10 (n + 1)) (by rw [hvalue]; omega) (by rw [hvalue]; omega)
    rw [hvalue] at hnumber
    have htext : (toString (Int.negSucc n)).toList = '-' :: Nat.toDigits 10 (n + 1) := by
      show ("-" ++ (n + 1).repr).toList = _
      rw [String.toList_append, Nat.toList_repr]
      rfl
    exact parse_of_scalar htext ⟨rfl, by decide, by decide⟩ (scalar_number (.inl rfl) hwritten hnumber)

end Intake.Json
