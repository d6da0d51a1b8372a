import Intake.Number.Shortest
import Intake.Text.Blank
import Intake.Text.Digits
import Mathlib.Data.List.Basic
import Mathlib.Data.List.TakeWhile

/-!
# Tidy texts

A text is tidy if it says something and has no blanks at its ends: these are the results of `Text.nonBlank`, which drops
the blanks around a text and nothing else (`nonBlank_eq_some_iff`), and the texts that it leaves alone. Numbers are
written tidily.
-/

namespace Intake

namespace Text

/-- Not empty, and without blanks at its ends. -/
structure Tidy (s : String) : Prop where
  ne_empty : s ≠ ""
  first : ∀ c ∈ s.toList.head?, isBlank c = false
  last : ∀ c ∈ s.toList.getLast?, isBlank c = false

variable {s t : String}

theorem head?_dropWhile {p : Char → Bool} {cs : List Char} {c : Char} (h : c ∈ (cs.dropWhile p).head?) :
    p c = false := by
  have hnot := List.head?_dropWhile_not p cs
  rw [h] at hnot
  exact hnot

theorem getLast?_dropEndWhile {p : Char → Bool} {cs : List Char} {c : Char} (h : c ∈ (dropEndWhile p cs).getLast?) :
    p c = false := by
  rw [dropEndWhile, List.getLast?_reverse] at h
  exact head?_dropWhile h

theorem starts_dropEndWhile (p : Char → Bool) (cs : List Char) : dropEndWhile p cs <+: cs := by
  rw [dropEndWhile, ← List.reverse_suffix, List.reverse_reverse]
  exact List.dropWhile_suffix p

theorem mem_head?_of_starts {cs ds : List Char} {c : Char} (h : cs <+: ds) (hc : c ∈ cs.head?) : c ∈ ds.head? := by
  obtain ⟨r, rfl⟩ := h
  cases cs with
  | nil => cases hc
  | cons => exact hc

theorem dropWhile_eq_self {p : Char → Bool} {cs : List Char} (h : ∀ c ∈ cs.head?, p c = false) :
    cs.dropWhile p = cs := by
  cases cs with
  | nil => rfl
  | cons c cs => simp [h c rfl]

/-! ## Trimming -/

theorem exists_trimList (s : List Char) : ∃ before after, s = before ++ trimList s ++ after ∧
    (∀ c ∈ before, isBlank c = true) ∧ ∀ c ∈ after, isBlank c = true := by
  let rest := s.dropWhile isBlank
  have hstart : s = s.takeWhile isBlank ++ rest := List.takeWhile_append_dropWhile.symm
  have hend : rest = dropEndWhile isBlank rest ++ (rest.reverse.takeWhile isBlank).reverse := by
    rw [dropEndWhile, ← List.reverse_append, List.takeWhile_append_dropWhile, List.reverse_reverse]
  refine ⟨s.takeWhile isBlank, (rest.reverse.takeWhile isBlank).reverse, ?_, fun c hc => ?_, fun c hc => ?_⟩
  · rw [trimList, List.append_assoc, ← hend]
    exact hstart
  · exact List.mem_takeWhile_imp hc
  · exact List.mem_takeWhile_imp (List.mem_reverse.1 hc)

theorem trimList_surrounded {before cs after : List Char} (hbefore : ∀ c ∈ before, isBlank c = true)
    (hafter : ∀ c ∈ after, isBlank c = true) (hne : cs ≠ []) (hfirst : ∀ c ∈ cs.head?, isBlank c = false)
    (hlast : ∀ c ∈ cs.getLast?, isBlank c = false) : trimList (before ++ cs ++ after) = cs := by
  have hstart : (before ++ cs ++ after).dropWhile isBlank = cs ++ after := by
    rw [List.append_assoc, List.dropWhile_append_of_pos hbefore]
    refine dropWhile_eq_self fun c hc => hfirst c ?_
    rwa [List.head?_append_of_ne_nil _ hne] at hc
  have hend : (cs ++ after).reverse.dropWhile isBlank = cs.reverse := by
    rw [List.reverse_append, List.dropWhile_append_of_pos fun c hc => hafter c (List.mem_reverse.1 hc)]
    refine dropWhile_eq_self fun c hc => hlast c ?_
    rwa [List.head?_reverse] at hc
  rw [trimList, hstart, dropEndWhile, hend, List.reverse_reverse]

theorem tidy_of_nonBlank (h : nonBlank s = some t) : Tidy t := by
  rw [nonBlank] at h
  split at h
  · cases h
  · next hne =>
    obtain rfl := Option.some.inj h
    rw [trim] at hne ⊢
    refine ⟨hne, fun c hc => ?_, fun c hc => ?_⟩
    · rw [String.toList_ofList, trimList] at hc
      exact head?_dropWhile (mem_head?_of_starts (starts_dropEndWhile isBlank _) hc)
    · rw [String.toList_ofList] at hc
      exact getLast?_dropEndWhile hc

theorem nonBlank_eq_some_iff : nonBlank s = some t ↔ Tidy t ∧ ∃ before after,
    s.toList = before ++ t.toList ++ after ∧ (∀ c ∈ before, isBlank c = true) ∧ ∀ c ∈ after, isBlank c = true := by
  constructor
  · intro h
    refine ⟨tidy_of_nonBlank h, ?_⟩
    rw [nonBlank] at h
    split at h
    · cases h
    · obtain rfl := Option.some.inj h
      rw [trim, String.toList_ofList]
      exact exists_trimList s.toList
  · rintro ⟨htidy, before, after, hs, hbefore, hafter⟩
    have hne : t.toList ≠ [] := fun hnil => htidy.ne_empty (String.toList_eq_nil_iff.1 hnil)
    have htrim : trim s = t := by
      rw [trim, hs, trimList_surrounded hbefore hafter hne htidy.first htidy.last, String.ofList_toList]
    rw [nonBlank, htrim, if_neg htidy.ne_empty]

theorem Tidy.nonBlank_eq (h : Tidy s) : nonBlank s = some s :=
  nonBlank_eq_some_iff.2 ⟨h, [], [], by simp, by simp, by simp⟩

theorem tidy_iff : Tidy s ↔ nonBlank s = some s := ⟨Tidy.nonBlank_eq, tidy_of_nonBlank⟩

instance (s : String) : Decidable (Tidy s) := decidable_of_iff _ tidy_iff.symm

theorem Tidy.trim_ne_empty (h : Tidy s) : trim s ≠ "" := by
  intro hempty
  have heq := h.nonBlank_eq
  rw [nonBlank, hempty] at heq
  cases heq

theorem tidy_of_forall (hne : s ≠ "") (h : ∀ c ∈ s.toList, isBlank c = false) : Tidy s :=
  ⟨hne, fun c hc => h c (List.mem_of_head? hc), fun c hc => h c (List.mem_of_getLast? hc)⟩

/-! ## Numbers -/

/-- Of the ASCII characters that are not control characters only the space is a blank. -/
theorem isBlank_eq_false {c : Char} (h : 33 ≤ c.toNat ∧ c.toNat ≤ 126) : isBlank c = false := by
  simp only [isBlank, Bool.or_eq_false_iff, Bool.and_eq_false_iff, decide_eq_false_iff_not, beq_eq_false_iff_ne]
  omega

theorem isBlank_of_isDigit {c : Char} (h : c.isDigit = true) : isBlank c = false := by
  refine isBlank_eq_false ?_
  simp only [Char.isDigit, Bool.and_eq_true, decide_eq_true_eq, ge_iff_le, UInt32.le_iff_toNat_le] at h
  exact ⟨Nat.le_trans (by decide) h.1, Nat.le_trans h.2 (by decide)⟩

theorem tidy_toString (i : Int) : Tidy (toString i) := by
  refine tidy_of_forall (fun hempty => ?_) fun c hc => ?_
  · have hread := Digits.int?_toString i
    rw [hempty] at hread
    cases hread
  · rcases Digits.of_mem_toString hc with hdigit | rfl
    · exact isBlank_of_isDigit hdigit
    · decide

end Text

namespace Double

/-- The plain text of a decimal: digits, and perhaps a point. -/
theorem digits_plain (d : Decimal) : ∃ cs : List Char, Layout.plain.digits d = String.ofList cs ∧ cs ≠ [] ∧
    ∀ c ∈ cs, c.isDigit = true ∨ c = '.' := by
  let ds := Nat.toDigits 10 d.significand
  have hne : ds ≠ [] := Nat.toDigits_ne_nil
  have hdigits : ∀ c ∈ ds, c.isDigit = true ∨ c = '.' := fun c hc =>
    .inl (Nat.isDigit_of_mem_toDigits (by omega) (by omega) hc)
  have hzeros : ∀ n, ∀ c ∈ List.replicate n '0', c.isDigit = true ∨ c = '.' := fun n c hc => by
    rw [List.eq_of_mem_replicate hc]
    decide
  by_cases hpower : 0 ≤ d.power
  · refine ⟨ds ++ List.replicate d.power.toNat '0', ?_, by simp [hne], ?_⟩
    · simp [Layout.digits, Layout.plain, hpower, ds]
    · exact List.forall_mem_append.2 ⟨hdigits, hzeros _⟩
  · by_cases hpoint : 0 < (ds.length : Int) + d.power
    · refine ⟨ds.take (ds.length + d.power).toNat ++ '.' :: ds.drop (ds.length + d.power).toNat, ?_, by simp, ?_⟩
      · simp [Layout.digits, Layout.plain, hpower, hpoint, ds]
      · refine List.forall_mem_append.2 ⟨fun c hc => hdigits c (List.mem_of_mem_take hc), ?_⟩
        exact List.forall_mem_cons.2 ⟨.inr rfl, fun c hc => hdigits c (List.mem_of_mem_drop hc)⟩
    · refine ⟨'0' :: '.' :: List.replicate (-(ds.length + d.power)).toNat '0' ++ ds, ?_, by simp, ?_⟩
      · simp [Layout.digits, Layout.plain, hpower, hpoint, ds]
      · refine List.forall_mem_append.2 ⟨?_, hdigits⟩
        exact List.forall_mem_cons.2 ⟨.inl (by decide), List.forall_mem_cons.2 ⟨.inr rfl, hzeros _⟩⟩

theorem tidy_text (d : Double) : Text.Tidy d.text := by
  by_cases hnan : d.isNaN = true
  · rw [text, render, if_pos hnan]
    decide
  by_cases hfinite : d.isFinite = true
  · obtain ⟨cs, hcs, hne, hall⟩ := digits_plain (d.shortest Layout.plain.tie)
    have hblank : ∀ c ∈ cs, Text.isBlank c = false := fun c hc => by
      rcases hall c hc with hdigit | rfl
      · exact Text.isBlank_of_isDigit hdigit
      · decide
    have htext : d.text = (if d.negative then "-" else "") ++ String.ofList cs := by
      simp [text, render, hnan, hfinite, hcs]
    rw [htext]
    split
    · exact Text.tidy_of_forall (by simp) (by simpa using ⟨by decide, hblank⟩)
    · exact Text.tidy_of_forall (by simpa using hne) (by simpa using hblank)
  · have htext : d.text = (if d.negative then "-" else "") ++ "inf" := by
      simp [text, render, hnan, hfinite]
    rw [htext]
    split <;> decide

end Double

end Intake
