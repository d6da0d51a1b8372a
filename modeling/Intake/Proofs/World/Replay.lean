import Intake.Proofs.World.Basic

/-!
# Replays

Deliveries that can be computed: the clock stands still, and faults strike. A `Replay` says which faults may strike,
what downloads bring, who comes by before them, and where to stop. What is replayed can happen, under any rules that
allow for all that (`Replay.Within`).
-/

namespace Intake

/-- What is set for a delivery that is replayed. -/
structure Replay where
  /-- Whether a request may be refused with that error. A fault that may not strike ends the replay. -/
  refuses : Request → DomainError → Bool := fun _ _ => false
  fetch : Channel → MediaDescriptor → Option FetchedMedia := fun _ _ => none
  /-- What others exchange before a download. -/
  visit : World → Option (List Exchange × World) := fun w => some ([], w)
  /-- Whether the delivery is left before that request. -/
  stops : Request → Bool := fun _ => false

namespace Replay

variable {α : Type} {S : Replay} {R : Rules} {w w' : World} {t u : List Exchange} {r : Request} {b : r.Reply}

/-- What a download would bring. -/
def file (S : Replay) : Request → Option FetchedMedia
  | .fetch channel media => S.fetch channel media
  | _ => none

/-- Replies to a request, which an error refuses. -/
def reply? (S : Replay) (error : Option DomainError) (r : Request) (w : World) : Option (r.Reply × World) :=
  match error with
  | some e => if S.refuses r e then (r.refusal? e).map (·, w) else none
  | none => w.answer? 0 (S.file r) r

/-- The exchanges of a delivery, all that was exchanged meanwhile, what is left of the delivery, and the world. -/
def leave? (S : Replay) :
    List Fault → Program α → World → Option (List Exchange × List Exchange × Program α × World)
  | _, .done a, w => some ([], [], .done a, w)
  | faults, .ask r next, w =>
    if S.stops r then some ([], [], .ask r next, w)
    else
      (if r.isFetch then S.visit w else some ([], w)).bind fun (visited, w) =>
        (S.reply? (Fault.take r.name faults).1 r w).bind fun (b, w) =>
          (S.leave? (Fault.take r.name faults).2 (next b) w).map fun (t, u, p, w) =>
            (⟨r, b⟩ :: t, visited ++ ⟨r, b⟩ :: u, p, w)

/-- A delivery from start to end, beside all that was exchanged meanwhile. -/
def host? (S : Replay) (faults : List Fault) (p : Program α) (w : World) :
    Option (List Exchange × List Exchange × α × World) :=
  (S.leave? faults p w).bind fun (t, u, p, w) => p.result?.map (t, u, ·, w)

/-- A delivery from start to end. -/
def run? (S : Replay) (faults : List Fault) (p : Program α) (w : World) : Option (List Exchange × α × World) :=
  (S.host? faults p w).map fun (t, _, a, w) => (t, a, w)

theorem unvisited {w w₁ : World} {visited : List Exchange} (h : some (([] : List Exchange), w) = some (visited, w₁))
    (x : Exchange) (t u : List Exchange) (w' : World) (_ : x.request.isFetch = true) (hw : w₁.Goes R (x :: t) u w') :
    w.Goes R (x :: t) (visited ++ u) w' := by
  cases h
  exact hw

/-- A delivery that is left before any download hosts nobody. -/
theorem leave?_alone (hS : ∀ r, r.isFetch = true → S.stops r = true) {faults : List Fault} {p q : Program α}
    (h : S.leave? faults p w = some (t, u, q, w')) : u = t := by
  induction p generalizing w faults t u with
  | done =>
    cases h
    rfl
  | ask r next ih =>
    rw [leave?] at h
    split at h
    · cases h
      rfl
    · next hstop =>
      rw [if_neg fun hfetch => hstop (hS r hfetch), Option.bind_some] at h
      obtain ⟨⟨b, w₁⟩, -, h⟩ := Option.bind_eq_some_iff.1 h
      obtain ⟨⟨t', u', q', w₂⟩, hrest, heq⟩ := Option.map_eq_some_iff.1 h
      cases heq
      rw [ih b hrest]
      rfl

/-- All that the replay allows may happen under the rules. -/
structure Within (S : Replay) (R : Rules) : Prop where
  clocks : R.clocks 0
  refuses : ∀ r e, S.refuses r e = true → R.refuses r e
  serves : ∀ channel media, R.serves channel media (S.fetch channel media)
  visits : ∀ w visited w₁, S.visit w = some (visited, w₁) → ∀ x t u w', x.request.isFetch = true →
    w₁.Goes R (x :: t) u w' → w.Goes R (x :: t) (visited ++ u) w'

namespace Within

variable {error : Option DomainError} {faults : List Fault} {p q : Program α}

theorem replies (hS : S.Within R) (h : S.reply? error r w = some (b, w')) :
    w.Replies R.clocks R.toConditions r b w' := by
  cases error with
  | some e =>
    rw [reply?] at h
    split at h
    · next he =>
      obtain ⟨b', hb, heq⟩ := Option.map_eq_some_iff.1 h
      cases heq
      exact .inr ⟨e, hS.refuses r e he, hb, rfl⟩
    · cases h
  | none =>
    refine .of_answer? h hS.clocks ?_
    rintro channel media rfl
    exact hS.serves channel media

theorem leave (hS : S.Within R) (h : S.leave? faults p w = some (t, u, q, w')) :
    p.Reaches t q ∧ w.Goes R t u w' ∧ ((∃ a, q = .done a) ∨ ∃ r next, q = .ask r next ∧ S.stops r = true) := by
  induction p generalizing w faults t u with
  | done a =>
    cases h
    exact ⟨.refl, .nil, .inl ⟨a, rfl⟩⟩
  | ask r next ih =>
    rw [leave?] at h
    split at h
    · next hstop =>
      cases h
      exact ⟨.refl, .nil, .inr ⟨r, next, rfl, hstop⟩⟩
    · obtain ⟨⟨visited, w₁⟩, hvisit, h⟩ := Option.bind_eq_some_iff.1 h
      obtain ⟨⟨b, w₂⟩, hb, h⟩ := Option.bind_eq_some_iff.1 h
      obtain ⟨⟨t', u', q', w₃⟩, hrest, heq⟩ := Option.map_eq_some_iff.1 h
      cases heq
      obtain ⟨hreach, hgo, hend⟩ := ih b hrest
      have hown : w₁.Goes R (⟨r, b⟩ :: t') (⟨r, b⟩ :: u') w' := .exchange (hS.replies hb) hgo
      refine ⟨hreach.cons, ?_, hend⟩
      split at hvisit
      · next hfetch => exact hS.visits _ _ _ hvisit _ _ _ _ hfetch hown
      · cases hvisit
        exact hown

theorem host {a : α} (hS : S.Within R) (h : S.host? faults p w = some (t, u, a, w')) :
    p.Yields t a ∧ w.Goes R t u w' := by
  obtain ⟨⟨t', u', q, w₁⟩, hleave, h⟩ := Option.bind_eq_some_iff.1 h
  obtain ⟨a', hq, heq⟩ := Option.map_eq_some_iff.1 h
  cases heq
  obtain ⟨hreach, hgo, -⟩ := hS.leave hleave
  obtain rfl := Program.result?_eq_some.1 hq
  exact ⟨t.append_nil ▸ hreach.yields ⟨rfl, rfl⟩, hgo⟩

theorem run {a : α} (hS : S.Within R) (h : S.run? faults p w = some (t, a, w')) :
    p.Yields t a ∧ w.Takes R t w' := by
  obtain ⟨⟨t', u, a', w₁⟩, hhost, heq⟩ := Option.map_eq_some_iff.1 h
  cases heq
  obtain ⟨hy, hgo⟩ := hS.host hhost
  exact ⟨hy, u, hgo⟩

end Within

end Replay

end Intake
