import Intake.Proofs.Delivery.Perform

/-!
# Which event an exchange is for

A delivery looks up its tenants and then handles one event after the other, so each of its exchanges is a look-up or is
made for one event (`perform_serving`).
-/

namespace Intake

theorem List.append_cons_eq_append {α : Type} {l r t₁ t₂ : List α} {x : α} (h : l ++ x :: r = t₁ ++ t₂) :
    (∃ r₁, t₁ = l ++ x :: r₁ ∧ r = r₁ ++ t₂) ∨ ∃ l₂, l = t₁ ++ l₂ ∧ t₂ = l₂ ++ x :: r := by
  rcases List.append_eq_append_iff.1 h with ⟨mid, rfl, hmid⟩ | ⟨mid, rfl, hmid⟩
  · cases mid with
    | nil => exact .inr ⟨[], by simp, hmid.symm⟩
    | cons y mid =>
      obtain ⟨rfl, rfl⟩ := List.cons.inj hmid
      exact .inl ⟨mid, rfl, rfl⟩
  · exact .inr ⟨mid, rfl, hmid⟩

/-- A delivery of the job that has exchanged `log` is at the event, for which it has exchanged `own`. -/
def WebhookJob.Serving (job : WebhookJob) (target : ResolvedChannel) (e : IncomingEvent) (log own : List Exchange) :
    Prop :=
  ∃ q earlier es es' outcomes, log = q ++ (earlier ++ own) ∧
    (Routing.resolve job).run.Yields q (.ok (.active target)) ∧ target.events job = es ++ e :: es' ∧
    (Ingest.handleEvents target es).run.Yields earlier (.ok outcomes)

namespace Ingest

variable {target : ResolvedChannel} {log rest : List Exchange} {x : Exchange}

theorem handleEvents_yields_cons {e : IncomingEvent} {es : List IncomingEvent} {t₁ t₂ : List Exchange}
    {outcome : EventOutcome} {outcomes : List EventOutcome} (h₁ : (handleEvent target e).run.Yields t₁ (.ok outcome))
    (h₂ : (handleEvents target es).run.Yields t₂ (.ok outcomes)) :
    (handleEvents target (e :: es)).run.Yields (t₁ ++ t₂) (.ok (outcome :: outcomes)) := by
  refine Attempt.yields_bind.2 (.inr ⟨t₁, outcome, t₂, rfl, h₁, Attempt.yields_bind.2 (.inr ?_)⟩)
  exact ⟨t₂, outcomes, [], (List.append_nil _).symm, h₂, rfl, rfl⟩

theorem handleEvents_serving {es : List IncomingEvent} {r : Except DomainError (List EventOutcome)}
    (h : (handleEvents target es).run.Yields (log ++ x :: rest) r) :
    ∃ before e after earlier own own' outcomes result, es = before ++ e :: after ∧ log = earlier ++ own ∧
      (handleEvents target before).run.Yields earlier (.ok outcomes) ∧
      (handleEvent target e).run.Yields (own ++ x :: own') result := by
  induction es generalizing log r with
  | nil =>
    obtain ⟨heq, -⟩ := h
    cases log <;> cases heq
  | cons e es ih =>
    rcases handleEvents_cons h with ⟨error, h₁, -⟩ | ⟨t₁, outcome, t₂, result, heq, h₁, h₂, -⟩
    · exact ⟨[], e, es, [], log, rest, [], _, rfl, rfl, ⟨rfl, rfl⟩, h₁⟩
    rcases List.append_cons_eq_append heq with ⟨own', rfl, -⟩ | ⟨log, rfl, rfl⟩
    · exact ⟨[], e, es, [], log, own', [], _, rfl, rfl, ⟨rfl, rfl⟩, h₁⟩
    · obtain ⟨before, e', after, earlier, own, own', outcomes, result, rfl, rfl, hbefore, hown⟩ := ih h₂
      exact ⟨e :: before, e', after, t₁ ++ earlier, own, own', outcome :: outcomes, result, rfl, by simp,
        handleEvents_yields_cons h₁ hbefore, hown⟩

end Ingest

theorem perform_serving {job : WebhookJob} {log rest : List Exchange} {x : Exchange}
    {r : Except DomainError IngestReport} (h : (perform job).run.Yields (log ++ x :: rest) r) :
    x.request.isLookup = true ∨ ∃ target e own own' result, job.Serving target e log own ∧
      (Ingest.handleEvent target e).run.Yields (own ++ x :: own') result := by
  obtain ⟨q, t, res, heq, hq, hres⟩ := perform_resolves h
  rcases List.append_cons_eq_append heq with ⟨q', rfl, -⟩ | ⟨log, rfl, rfl⟩
  · exact .inl ((Routing.resolve_lookups job).mem hq x (by simp))
  rcases hres with ⟨e, -, hnil, -⟩ | ⟨resolution, rfl, h'⟩
  · simp at hnil
  cases resolution with
  | active target =>
    obtain ⟨_, hevents, -⟩ := performOn_active h'
    obtain ⟨before, e, after, earlier, own, own', outcomes, result, hes, rfl, hbefore, hown⟩ :=
      Ingest.handleEvents_serving hevents
    exact .inr ⟨target, e, own, own', result, ⟨q, earlier, before, after, outcomes, rfl, hq, hes, hbefore⟩, hown⟩
  | _ =>
    obtain ⟨hnil, -⟩ := h'
    simp at hnil

end Intake
