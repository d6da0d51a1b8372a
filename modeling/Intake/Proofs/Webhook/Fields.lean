import Intake.Webhook.Payload
import Mathlib.Data.List.Forall2

/-!
# Fields of records

`Json.part?` is a field of a record, whether that is written by name or by position, and `Json.itemsAt` are the items of
such a field. `Record.ReadsFrom` is a reader on its way through a record: it has left the first `n` fields behind, and
what it reads next is the field that is declared there.
-/

namespace Intake.Json

/-- The field that is declared with that name at that position. -/
def part? (index : Nat) (name : String) : Json → Option Json
  | object ms => ms.lookup name
  | array xs => xs[index]?
  | _ => none

/-- The items of a field that is an array. -/
def itemsAt (index : Nat) (name : String) (j : Json) : List Json :=
  match j.part? index name with
  | some (.array xs) => xs
  | _ => []

/-- What is left of a record after its first `n` fields. -/
def source? (n : Nat) : Json → Option Source
  | object ms => some (.named ms)
  | array xs => some (.positional (xs.drop n))
  | _ => none

theorem forall₂_of_list? {α : Type} {decode : Json → Option α} {j : Json} {as : List α}
    (h : list? decode j = some as) :
    ∃ xs, j = .array xs ∧ List.Forall₂ (fun x a => decode x = some a) xs as := by
  cases j with
  | array xs =>
    refine ⟨xs, rfl, ?_⟩
    rw [list?] at h
    induction xs generalizing as with
    | nil =>
      obtain rfl := Option.some.inj h
      exact .nil
    | cons x xs ih =>
      rw [List.mapM_cons] at h
      obtain ⟨a, ha, h⟩ := Option.bind_eq_some_iff.1 h
      obtain ⟨as', has, h⟩ := Option.bind_eq_some_iff.1 h
      obtain rfl := Option.some.inj h
      exact .cons ha (ih has)
  | _ => cases h

theorem forall_of_list? {α : Type} {decode : Json → Option α} {P : α → Prop} {j : Json} {as : List α}
    (h : list? decode j = some as) (hP : ∀ x a, decode x = some a → P a) : ∀ a ∈ as, P a := by
  obtain ⟨xs, -, hxs⟩ := forall₂_of_list? h
  clear h
  induction hxs with
  | nil => exact List.forall_mem_nil _
  | cons hx _ ih => exact List.forall_mem_cons.2 ⟨hP _ _ hx, ih⟩

/-- A field that is read as a list and may be missing: its items are read one by one. -/
theorem forall₂_of_itemsAt {α : Type} {decode : Json → Option α} {index : Nat} {name : String} {j : Json} {as : List α}
    (h : (j.part? index name).elim (some []) (list? decode) = some as) :
    List.Forall₂ (fun x a => decode x = some a) (j.itemsAt index name) as := by
  rw [itemsAt]
  cases hp : j.part? index name with
  | none =>
    rw [hp] at h
    obtain rfl := Option.some.inj h
    exact .nil
  | some v =>
    rw [hp] at h
    obtain ⟨xs, rfl, hxs⟩ := forall₂_of_list? h
    exact hxs

theorem list?_some (xs : List Json) : list? some (.array xs) = some xs := by
  have hpure : xs.mapM (fun x => (pure x : Option Json)) = pure (xs.map fun x => x) := List.mapM_pure
  rw [List.map_id'] at hpure
  exact hpure

theorem itemsAt_of_list? {index : Nat} {name : String} {j : Json} {xs : List Json}
    (h : (j.part? index name).elim (some []) (list? some) = some xs) : j.itemsAt index name = xs := by
  have hall := forall₂_of_itemsAt h
  simp only [Option.some.injEq, List.forall₂_eq_eq_eq] at hall
  exact hall

namespace Record

variable {α β : Type} {name : String} {decode : Json → Option α} {n : Nat} {j : Json} {a : α} {b : β}

theorem nullable_of_ne_null (hj : j ≠ .null) : nullable decode j = (decode j).map some := by
  cases j with
  | null => exact absurd rfl hj
  | _ => rfl

/-- A nullable field that may be missing is there and was read, or is null or missing. -/
theorem nullable_cases {field : Option Json} {a : Option α}
    (h : field.elim (some none) (nullable decode) = some a) :
    (∃ j b, field = some j ∧ decode j = some b ∧ a = some b) ∨ a = none ∧ (field = none ∨ field = some .null) := by
  cases field with
  | none => exact .inr ⟨(Option.some.inj h).symm, .inl rfl⟩
  | some j =>
    by_cases hj : j = .null
    · subst hj
      exact .inr ⟨(Option.some.inj h).symm, .inr rfl⟩
    · obtain ⟨b, hb, rfl⟩ := Option.map_eq_some_iff.1 ((nullable_of_ne_null hj).symm.trans h)
      exact .inl ⟨j, b, rfl, hb, rfl⟩

theorem eq_bind_of_nullable {field : Option Json} {a : Option α}
    (hnull : decode .null = none) (h : field.elim (some none) (nullable decode) = some a) :
    a = field.bind decode := by
  rcases nullable_cases h with ⟨j, b, rfl, hb, rfl⟩ | ⟨rfl, rfl | rfl⟩
  · exact hb.symm
  · rfl
  · exact hnull.symm

/-- The reader reads `a` from what is left of `j` after the first `n` fields. -/
def ReadsFrom (record : Record α) (n : Nat) (j : Json) (a : α) : Prop :=
  ∃ s s', j.source? n = some s ∧ record.run s = some (a, s')

theorem readsFrom_of_decode {record : Record α} (h : record.decode j = some a) : record.ReadsFrom 0 j a := by
  cases j with
  | object ms =>
    obtain ⟨⟨a, s'⟩, hrun, rfl⟩ := Option.map_eq_some_iff.1 h
    exact ⟨_, s', rfl, hrun⟩
  | array xs =>
    rw [Record.decode] at h
    split at h
    · next hrun =>
      obtain rfl := Option.some.inj h
      exact ⟨_, _, rfl, hrun⟩
    · cases h
  | _ => cases h

/-- Reading a field leaves it behind. What is read is the field itself, unless the reader takes something else for a
field that an array is too short for. -/
theorem run_field {absent short : Option α} {s s' : Source} (hs : j.source? n = some s)
    (h : (Record.field name decode absent short).run s = some (a, s')) :
    (short = none ∨ short = absent → (j.part? n name).elim absent decode = some a) ∧ j.source? (n + 1) = some s' := by
  cases j with
  | object ms =>
    obtain rfl := Option.some.inj hs
    simp only [StateT.run, Record.field] at h
    cases hl : ms.lookup name with
    | none =>
      rw [hl] at h
      obtain ⟨a', ha, heq⟩ := Option.map_eq_some_iff.1 h
      obtain ⟨rfl, rfl⟩ := Prod.mk.inj heq
      simp [part?, source?, hl, ha]
    | some v =>
      rw [hl] at h
      obtain ⟨a', ha, heq⟩ := Option.map_eq_some_iff.1 h
      obtain ⟨rfl, rfl⟩ := Prod.mk.inj heq
      simp [part?, source?, hl, ha]
  | array xs =>
    obtain rfl := Option.some.inj hs
    have hpart : (Json.array xs).part? n name = (xs.drop n).head? := by simp [part?]
    have hrest : (Json.array xs).source? (n + 1) = some (.positional (xs.drop n).tail) := by simp [source?]
    rw [hpart, hrest]
    cases hd : xs.drop n with
    | nil =>
      simp only [StateT.run, Record.field, hd] at h
      obtain ⟨a', ha, heq⟩ := Option.map_eq_some_iff.1 h
      obtain ⟨rfl, rfl⟩ := Prod.mk.inj heq
      refine ⟨?_, rfl⟩
      rintro (rfl | rfl)
      · cases ha
      · exact ha
    | cons x rest =>
      simp only [StateT.run, Record.field, hd] at h
      obtain ⟨a', ha, heq⟩ := Option.map_eq_some_iff.1 h
      obtain ⟨rfl, rfl⟩ := Prod.mk.inj heq
      exact ⟨fun _ => ha, rfl⟩
  | _ => cases hs

namespace ReadsFrom

theorem of_pure {a' : α} (h : (pure a' : Record α).ReadsFrom n j a) : a = a' := by
  obtain ⟨s, s', -, hrun⟩ := h
  exact (Prod.mk.inj (Option.some.inj hrun)).1.symm

variable {absent short : Option α} {f : α → Record β}

theorem next (h : (Record.field name decode absent short >>= f).ReadsFrom n j b) :
    ∃ a, (short = none ∨ short = absent → (j.part? n name).elim absent decode = some a) ∧
      (f a).ReadsFrom (n + 1) j b := by
  obtain ⟨s, s', hs, hrun⟩ := h
  rw [StateT.run_bind] at hrun
  obtain ⟨⟨a, s₁⟩, ha, hb⟩ := Option.bind_eq_some_iff.1 hrun
  obtain ⟨hread, hs₁⟩ := run_field hs ha
  exact ⟨a, hread, s₁, s', hs₁, hb⟩

theorem of_field (hshort : short = none ∨ short = absent)
    (h : (Record.field name decode absent short >>= f).ReadsFrom n j b) :
    ∃ a, (j.part? n name).elim absent decode = some a ∧ (f a).ReadsFrom (n + 1) j b := by
  obtain ⟨a, hread, hf⟩ := next h
  exact ⟨a, hread hshort, hf⟩

theorem of_required (h : (Record.required name decode >>= f).ReadsFrom n j b) :
    ∃ v a, j.part? n name = some v ∧ decode v = some a ∧ (f a).ReadsFrom (n + 1) j b := by
  obtain ⟨a, ha, hf⟩ := of_field (.inl rfl) h
  cases hp : j.part? n name with
  | none =>
    rw [hp] at ha
    cases ha
  | some v =>
    rw [hp] at ha
    exact ⟨v, a, rfl, ha, hf⟩

theorem of_defaulted {default : α} (h : (Record.defaulted name default decode >>= f).ReadsFrom n j b) :
    ∃ a, (j.part? n name).elim (some default) decode = some a ∧ (f a).ReadsFrom (n + 1) j b :=
  of_field (.inr rfl) h

theorem of_optional {f : Option α → Record β} (h : (Record.optional name decode >>= f).ReadsFrom n j b) :
    ∃ a, (j.part? n name).elim (some none) (Record.nullable decode) = some a ∧ (f a).ReadsFrom (n + 1) j b :=
  of_field (.inl rfl) h

end ReadsFrom

end Record

end Intake.Json
