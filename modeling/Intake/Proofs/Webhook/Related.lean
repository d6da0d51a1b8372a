import Intake.Proofs.Webhook.Fields

/-!
# Related payloads

Two payloads may be written alike but for some places. `Fields` relates records and `Items` arrays, with a relation for
what is in them; a `Layout` says which relation belongs to which field. Readers carry such a relation over to what they
read (`Record.Respects`): this is proved once for a field, and a record's reader is a sequence of fields.
-/

namespace Intake

section

variable {α α' β β' : Type} {R : α → α' → Prop} {S : β → β' → Prop} {o : Option α} {o' : Option α'}

theorem Option.Rel.map {f : α → β} {f' : α' → β'} (h : Option.Rel R o o') (hf : ∀ a a', R a a' → S (f a) (f' a')) :
    Option.Rel S (o.map f) (o'.map f') := by
  cases h with
  | some h => exact .some (hf _ _ h)
  | none => exact .none

theorem Option.Rel.bind {f : α → Option β} {f' : α' → Option β'} (h : Option.Rel R o o')
    (hf : ∀ a a', R a a' → Option.Rel S (f a) (f' a')) : Option.Rel S (o.bind f) (o'.bind f') := by
  cases h with
  | some h => exact hf _ _ h
  | none => exact .none

theorem Option.Rel.map_elim_eq {γ δ : Type} {g : γ → δ} {f : α → List γ} {f' : α' → List γ} (h : Option.Rel R o o')
    (hf : ∀ a a', R a a' → (f a).map g = (f' a').map g) : (o.elim [] f).map g = (o'.elim [] f').map g := by
  cases h with
  | some h => exact hf _ _ h
  | none => rfl

/-- What is related stands on the left. -/
theorem Option.Rel.mem (h : Option.Rel R o o') : Option.Rel (fun a a' => a ∈ o ∧ R a a') o o' := by
  cases h with
  | some h => exact .some ⟨rfl, h⟩
  | none => exact .none

theorem Option.rel_eq_iff {x y : Option α} : Option.Rel Eq x y ↔ x = y := by
  constructor
  · intro h
    cases h with
    | some h => rw [h]
    | none => rfl
  · rintro rfl
    cases x with
    | some a => exact .some rfl
    | none => exact .none

end

namespace Json

/-- How each field of a record may differ, in the order of their declaration. -/
abbrev Layout := List (String × (Json → Json → Prop))

namespace Layout

/-- How the field of that name may differ; what is no field is the same. -/
def rel (l : Layout) (name : String) : Json → Json → Prop := (l.lookup name).getD Eq

/-- The members of two objects. -/
def Members (l : Layout) : List (String × Json) → List (String × Json) → Prop :=
  List.Forall₂ fun m m' => m.1 = m'.1 ∧ l.rel m.1 m.2 m'.2

/-- The items of two arrays that give the fields by position. -/
inductive Positions : Layout → List Json → List Json → Prop
  | ended {l : Layout} : Positions l [] []
  | beyond {xs : List Json} : Positions [] xs xs
  | cons {l : Layout} {name : String} {R : Json → Json → Prop} {x x' : Json} {xs xs' : List Json} :
    R x x' → Positions l xs xs' → Positions ((name, R) :: l) (x :: xs) (x' :: xs')

theorem Members.lookup {l : Layout} {ms ms' : List (String × Json)} (h : l.Members ms ms') (name : String) :
    Option.Rel (l.rel name) (ms.lookup name) (ms'.lookup name) := by
  induction h with
  | nil => exact .none
  | @cons m m' ms ms' hm _ ih =>
    obtain ⟨k, v⟩ := m
    obtain ⟨k', v'⟩ := m'
    obtain ⟨rfl, hv⟩ : k = k' ∧ l.rel k v v' := hm
    rw [List.lookup_cons, List.lookup_cons]
    by_cases hk : name = k
    · subst hk
      simpa using Option.Rel.some hv
    · simpa [beq_eq_false_iff_ne.2 hk] using ih

end Layout

/-- Both are written by name or both by position, with fields that may differ as the layout says. -/
inductive Fields (l : Layout) : Json → Json → Prop
  | object {ms ms' : List (String × Json)} : l.Members ms ms' → Fields l (.object ms) (.object ms')
  | array {xs xs' : List Json} : l.Positions xs xs' → Fields l (.array xs) (.array xs')
  /-- What is no record is the same. -/
  | other {j : Json} : j.source? 0 = none → Fields l j j

/-- Both are arrays, with related items. -/
inductive Items (R : Json → Json → Prop) : Json → Json → Prop
  | array {xs xs' : List Json} : List.Forall₂ R xs xs' → Items R (.array xs) (.array xs')
  /-- What is no array is the same. -/
  | other {j : Json} : (∀ xs, j ≠ .array xs) → Items R j j

variable {α : Type} {j j' : Json} {R : Json → Json → Prop} {P : α → α → Prop} {decode : Json → Option α}

theorem Fields.eq_null_iff {l : Layout} (h : Fields l j j') : j = .null ↔ j' = .null := by
  cases h <;> simp

theorem Items.eq_null_iff (h : Items R j j') : j = .null ↔ j' = .null := by
  cases h <;> simp

theorem Items.list? (h : Items R j j') (hread : ∀ x x', R x x' → Option.Rel P (decode x) (decode x')) :
    Option.Rel (List.Forall₂ P) (Json.list? decode j) (Json.list? decode j') := by
  cases h with
  | array h =>
    rw [Json.list?, Json.list?]
    induction h with
    | nil => exact .some .nil
    | cons hx _ ih =>
      rw [List.mapM_cons, List.mapM_cons]
      exact Option.Rel.bind (hread _ _ hx) fun a a' ha => Option.Rel.bind ih fun as as' has => .some (.cons ha has)
  | @other j h =>
    cases j with
    | array xs => exact absurd rfl (h xs)
    | _ => exact .none

theorem Items.list?_eq (h : Items R j j') (hread : ∀ x x', R x x' → decode x = decode x') :
    Json.list? decode j = Json.list? decode j' := by
  have hlists := h.list? (P := Eq) fun x x' hx => Option.rel_eq_iff.2 (hread x x' hx)
  rw [List.forall₂_eq_eq_eq] at hlists
  exact Option.rel_eq_iff.1 hlists

theorem Record.nullable_eq (hnull : j = .null ↔ j' = .null) (h : decode j = decode j') :
    Record.nullable decode j = Record.nullable decode j' := by
  by_cases hj : j = .null
  · rw [hj, hnull.1 hj]
  · have hj' : j' ≠ .null := fun hj' => hj (hnull.2 hj')
    rw [nullable_of_ne_null hj, nullable_of_ne_null hj', h]

/-! ## Readers -/

/-- What is left of two related records; of an array, the fields of `rest`. -/
inductive Sources (l rest : Layout) : Source → Source → Prop
  | named {ms ms' : List (String × Json)} : l.Members ms ms' → Sources l rest (.named ms) (.named ms')
  | positional {xs xs' : List Json} : rest.Positions xs xs' → Sources l rest (.positional xs) (.positional xs')

/-- All items of an array have been read. -/
def Source.isEnd : Source → Bool
  | positional [] => true
  | _ => false

theorem Sources.isEnd_eq {l rest : Layout} {s s' : Source} (h : Sources l rest s s') : s.isEnd = s'.isEnd := by
  cases h with
  | named => rfl
  | positional h => cases h <;> rfl

namespace Record

variable {β : Type} {l rest : Layout} {name : String} {Q : β → β → Prop} {absent short : Option α}

/-- From related sources, of which `rest` is left, the two readers read what `Q` relates. -/
def Respects (l rest : Layout) (Q : β → β → Prop) (r r' : Record β) : Prop :=
  ∀ s s', Sources l rest s s' →
    Option.Rel (fun p p' => Q p.1 p'.1 ∧ p.2.isEnd = p'.2.isEnd) (r.run s) (r'.run s')

theorem decode_array (record : Record β) (xs : List Json) :
    record.decode (.array xs) = ((record.run (.positional xs)).filter (·.2.isEnd)).map (·.1) := by
  rw [Record.decode]
  cases record.run (.positional xs) with
  | none => rfl
  | some p =>
    obtain ⟨b, s⟩ := p
    cases s with
    | named => rfl
    | positional xs => cases xs <;> rfl

theorem Respects.decodes {r r' : Record β} (h : Respects l l Q r r') (hj : Fields l j j') :
    Option.Rel Q (r.decode j) (r'.decode j') := by
  cases hj with
  | object hm => exact Option.Rel.map (h _ _ (.named hm)) fun _ _ hp => hp.1
  | @array xs xs' hp =>
    rw [decode_array, decode_array]
    have hrun := h _ _ (.positional hp)
    cases hr : r.run (.positional xs) <;> cases hr' : r'.run (.positional xs') <;> rw [hr, hr'] at hrun
    · exact .none
    · cases hrun
    · cases hrun
    · next p p' =>
      obtain ⟨hq, hend⟩ : Q p.1 p'.1 ∧ p.2.isEnd = p'.2.isEnd := by
        cases hrun with
        | some h => exact h
      rw [Option.filter_some, Option.filter_some, ← hend]
      split
      · exact .some hq
      · exact .none
  | @other j h =>
    cases j with
    | object | array => cases h
    | _ => exact .none

theorem Respects.decode_eq {r r' : Record β} (h : Respects l l Eq r r') (hj : Fields l j j') :
    r.decode j = r'.decode j' :=
  Option.rel_eq_iff.1 (h.decodes hj)

/-- One field is read alike, and is left behind. -/
theorem field_sources (hrel : l.rel name = R) (hread : ∀ j j', R j j' → Option.Rel P (decode j) (decode j'))
    (habsent : Option.Rel P absent absent) (hshort : Option.Rel P short short) {s s' : Source}
    (hs : Sources l ((name, R) :: rest) s s') :
    Option.Rel (fun p p' => P p.1 p'.1 ∧ Sources l rest p.2 p'.2)
      ((field name decode absent short).run s) ((field name decode absent short).run s') := by
  cases hs with
  | @named ms ms' hm =>
    have hl := hm.lookup name
    rw [hrel] at hl
    simp only [StateT.run, field]
    cases hv : ms.lookup name <;> cases hv' : ms'.lookup name <;> rw [hv, hv'] at hl
    · exact Option.Rel.map habsent fun _ _ h => ⟨h, .named hm⟩
    · cases hl
    · cases hl
    · next v v' =>
      have hvv : R v v' := by
        cases hl with
        | some h => exact h
      exact Option.Rel.map (hread v v' hvv) fun _ _ h => ⟨h, .named hm⟩
  | positional hp =>
    cases hp with
    | ended => exact Option.Rel.map hshort fun _ _ h => ⟨h, .positional .ended⟩
    | cons hx hrest => exact Option.Rel.map (hread _ _ hx) fun _ _ h => ⟨h, .positional hrest⟩

namespace Respects

theorem pure {b b' : β} (h : Q b b') : Respects l rest Q (pure b) (pure b') := by
  intro s s' hs
  exact .some ⟨h, hs.isEnd_eq⟩

theorem field {f f' : α → Record β} (hrel : l.rel name = R)
    (hread : ∀ j j', R j j' → Option.Rel P (decode j) (decode j')) (habsent : Option.Rel P absent absent)
    (hshort : Option.Rel P short short) (hf : ∀ a a', P a a' → Respects l rest Q (f a) (f' a')) :
    Respects l ((name, R) :: rest) Q (Record.field name decode absent short >>= f)
      (Record.field name decode absent short >>= f') := by
  intro s s' hs
  rw [StateT.run_bind, StateT.run_bind]
  refine Option.Rel.bind (field_sources hrel hread habsent hshort hs) ?_
  intro p p' hp
  exact hf p.1 p'.1 hp.1 p.2 p'.2 hp.2

/-- A field that is read alike, whatever it is that may differ. -/
theorem read {f f' : α → Record β} (hrel : l.rel name = R) (hread : ∀ j j', R j j' → decode j = decode j')
    (hf : ∀ a, Respects l rest Q (f a) (f' a)) :
    Respects l ((name, R) :: rest) Q (Record.field name decode absent short >>= f)
      (Record.field name decode absent short >>= f') := by
  refine field (P := Eq) hrel (fun j j' h => Option.rel_eq_iff.2 (hread j j' h)) (Option.rel_eq_iff.2 rfl)
    (Option.rel_eq_iff.2 rfl) ?_
  rintro a _ rfl
  exact hf a

theorem same {f f' : α → Record β} (hrel : l.rel name = Eq) (hf : ∀ a, Respects l rest Q (f a) (f' a)) :
    Respects l ((name, Eq) :: rest) Q (Record.field name decode absent short >>= f)
      (Record.field name decode absent short >>= f') :=
  read hrel (by rintro j _ rfl; rfl) hf

theorem single {R : Json → Json → Prop} {P : α → α → Prop} (hrel : l.rel name = R)
    (hread : ∀ j j', R j j' → Option.Rel P (decode j) (decode j')) (habsent : Option.Rel P absent absent)
    (hshort : Option.Rel P short short) :
    Respects l [(name, R)] P (Record.field name decode absent short) (Record.field name decode absent short) := by
  rw [← bind_pure (Record.field name decode absent short)]
  exact field hrel hread habsent hshort fun _ _ h => pure h

end Respects

end Record

end Json

end Intake
