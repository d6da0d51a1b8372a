import Intake.Proofs.Delivery.Perform

/-!
# Claims as brackets

A delivery holds one claim at a time: between a grant and the next request about a claim, which gives that one back, it
only looks up and writes (`Bracketed`). It asks only for the claims of accepted events.
-/

namespace Intake

/-- The exchanges lead from holding one claim, or none, to holding another, or none. -/
inductive Bracketed : Option (Snowflake × String) → List Exchange → Option (Snowflake × String) → Prop
  | nil {h : Option (Snowflake × String)} : Bracketed h [] h
  | claim {channel : Snowflake} {source : String} {b : Except DomainError Bool} {t : List Exchange}
    {h : Option (Snowflake × String)} :
    Bracketed (Exchange.granted ⟨.tryClaim channel source, b⟩) t h →
      Bracketed none (⟨.tryClaim channel source, b⟩ :: t) h
  | release {channel : Snowflake} {source : String} {b : Except DomainError Unit} {t : List Exchange}
    {h : Option (Snowflake × String)} :
    Bracketed none t h → Bracketed (some (channel, source)) (⟨.release channel source, b⟩ :: t) h
  | other {x : Exchange} {t : List Exchange} {h h' : Option (Snowflake × String)} :
    x.request.isGuard = false → Bracketed h t h' → Bracketed h (x :: t) h'

namespace Bracketed

variable {t t' : List Exchange} {h h' h'' : Option (Snowflake × String)} {c : Snowflake × String}

theorem append (ht : Bracketed h t h') (ht' : Bracketed h' t' h'') : Bracketed h (t ++ t') h'' := by
  induction ht with
  | nil => exact ht'
  | claim _ ih => exact .claim (ih ht')
  | release _ ih => exact .release (ih ht')
  | other hx _ ih => exact .other hx (ih ht')

theorem split (ht : Bracketed h (t ++ t') h'') : ∃ h', Bracketed h t h' ∧ Bracketed h' t' h'' := by
  induction t generalizing h with
  | nil => exact ⟨h, .nil, ht⟩
  | cons x t ih =>
    cases ht with
    | claim ht =>
      obtain ⟨h', h₁, h₂⟩ := ih ht
      exact ⟨h', .claim h₁, h₂⟩
    | release ht =>
      obtain ⟨h', h₁, h₂⟩ := ih ht
      exact ⟨h', .release h₁, h₂⟩
    | other hx ht =>
      obtain ⟨h', h₁, h₂⟩ := ih ht
      exact ⟨h', .other hx h₁, h₂⟩

theorem of_isGuard (ht : ∀ x ∈ t, x.request.isGuard = false) : Bracketed h t h := by
  induction t with
  | nil => exact .nil
  | cons x t ih =>
    rw [List.forall_mem_cons] at ht
    exact .other ht.1 (ih ht.2)

theorem unique (ht : Bracketed h t h') (ht' : Bracketed h t h'') : h' = h'' := by
  induction ht with
  | nil =>
    cases ht'
    rfl
  | claim _ ih =>
    cases ht' with
    | claim ht' => exact ih ht'
    | other hx _ => cases hx
  | release _ ih =>
    cases ht' with
    | release ht' => exact ih ht'
    | other hx _ => cases hx
  | other hx _ ih =>
    cases ht' with
    | claim | release => cases hx
    | other _ ht' => exact ih ht'

/-- A claim that is held was held all the time, or it was granted last of all. -/
theorem held_or_granted (ht : Bracketed h t h') (hc : h' = some c) :
    (h = some c ∧ ∀ y ∈ t, y.request.isGuard = false) ∨
      ∃ u x v, t = u ++ x :: v ∧ x.granted = some c ∧ ∀ y ∈ v, y.request.isGuard = false := by
  induction ht with
  | nil => exact .inl ⟨hc, by simp⟩
  | claim _ ih =>
    rcases ih hc with ⟨hg, hv⟩ | ⟨u, x, v, rfl, hx, hv⟩
    · exact .inr ⟨[], _, _, rfl, hg, hv⟩
    · exact .inr ⟨_ :: u, x, v, rfl, hx, hv⟩
  | release _ ih =>
    rcases ih hc with ⟨hg, -⟩ | ⟨u, x, v, rfl, hx, hv⟩
    · cases hg
    · exact .inr ⟨_ :: u, x, v, rfl, hx, hv⟩
  | other hx _ ih =>
    rcases ih hc with ⟨hg, hv⟩ | ⟨u, x, v, rfl, hx, hv⟩
    · exact .inl ⟨hg, List.forall_mem_cons.2 ⟨hx, hv⟩⟩
    · exact .inr ⟨_ :: u, x, v, rfl, hx, hv⟩

end Bracketed

/-- The job goes to that channel and has an accepted event of that source id. -/
def Tables.Contains (tb : Tables) (job : WebhookJob) (c : Snowflake × String) : Prop :=
  ∃ target e m, tb.route job = .active target ∧ e ∈ target.events job ∧ e.Accepted m ∧
    c = (target.channel.id, e.sourceId)

variable {tb : Tables} {job : WebhookJob} {target : ResolvedChannel} {e : IncomingEvent} {es : List IncomingEvent}
  {t : List Exchange}

namespace Ingest

theorem Handled.bracketed {r : Except DomainError EventOutcome} (h : Handled target e t r) : Bracketed none t none := by
  cases h with
  | quiet _ hq => exact .of_isGuard fun x hx => hq.isGuard hx
  | unclaimed | denied => exact .claim .nil
  | granted _ hp => exact .claim ((Bracketed.of_isGuard hp.isGuard).append (.release .nil))

theorem HandledAll.bracketed {r : Except DomainError (List EventOutcome)} (h : HandledAll target es t r) :
    Bracketed none t none := by
  induction h with
  | nil => exact .nil
  | stopped h => exact h.bracketed
  | stoppedLater h _ ih | cons h _ ih => exact h.bracketed.append ih

theorem Handled.sought {r : Except DomainError EventOutcome} (h : Handled target e t r) {x : Exchange} (hx : x ∈ t)
    {c : Snowflake × String} (hc : x.sought = some c) : c = (target.channel.id, e.sourceId) ∧ ∃ m, e.Accepted m := by
  cases h with
  | quiet _ hq =>
    rw [Exchange.sought_eq_none (hq.isGuard hx)] at hc
    cases hc
  | unclaimed ha | denied ha =>
    rw [List.mem_singleton.1 hx] at hc
    exact ⟨(Option.some.inj hc).symm, _, ha⟩
  | granted ha hp =>
    rcases List.mem_cons.1 hx with rfl | hx
    · exact ⟨(Option.some.inj hc).symm, _, ha⟩
    · rcases List.mem_append.1 hx with hx | hx
      · rw [Exchange.sought_eq_none (hp.isGuard x hx)] at hc
        cases hc
      · rw [List.mem_singleton.1 hx] at hc
        cases hc

theorem HandledAll.sought {r : Except DomainError (List EventOutcome)} (h : HandledAll target es t r) {x : Exchange}
    (hx : x ∈ t) {c : Snowflake × String} (hc : x.sought = some c) :
    ∃ e ∈ es, ∃ m, e.Accepted m ∧ c = (target.channel.id, e.sourceId) := by
  induction h with
  | nil => cases hx
  | stopped h =>
    obtain ⟨he, m, ha⟩ := h.sought hx hc
    exact ⟨_, List.mem_cons_self, m, ha, he⟩
  | stoppedLater h _ ih | cons h _ ih =>
    rcases List.mem_append.1 hx with hx | hx
    · obtain ⟨he, m, ha⟩ := h.sought hx hc
      exact ⟨_, List.mem_cons_self, m, ha, he⟩
    · obtain ⟨e, hmem, m, ha, he⟩ := ih hx
      exact ⟨e, List.mem_cons_of_mem _ hmem, m, ha, he⟩

end Ingest

theorem Performed.bracketed {r : Except DomainError IngestReport} (h : Performed tb job t r) :
    Bracketed none t none := by
  cases h with
  | unresolved hq | skipped hq => exact .of_isGuard fun x hx => hq.isGuard hx
  | stopped hq _ hall | handled hq _ hall =>
    exact (Bracketed.of_isGuard fun x hx => hq.isGuard hx).append hall.bracketed

theorem Performed.sought {r : Except DomainError IngestReport} (h : Performed tb job t r) {x : Exchange} (hx : x ∈ t)
    {c : Snowflake × String} (hc : x.sought = some c) : tb.Contains job c := by
  have hquiet {q : List Exchange} (hq : QuietTrace q) (hx : x ∈ q) : False := by
    rw [Exchange.sought_eq_none (hq.isGuard hx)] at hc
    cases hc
  cases h with
  | unresolved hq | skipped hq => exact (hquiet hq hx).elim
  | stopped hq hr hall | handled hq hr hall =>
    rcases List.mem_append.1 hx with hx | hx
    · exact (hquiet hq hx).elim
    · obtain ⟨e, hmem, m, ha, he⟩ := hall.sought hx hc
      exact ⟨_, e, m, hr, hmem, ha, he⟩

namespace Retried

theorem bracketed {r : Except DomainError IngestReport} (h : Retried tb job t r) : Bracketed none t none := by
  induction h with
  | last h => exact h.bracketed
  | again h _ ih => exact h.bracketed.append (.other rfl ih)

theorem sought {r : Except DomainError IngestReport} (h : Retried tb job t r) {x : Exchange} (hx : x ∈ t)
    {c : Snowflake × String} (hc : x.sought = some c) : tb.Contains job c := by
  induction h with
  | last h => exact h.sought hx hc
  | again h _ ih =>
    rcases List.mem_append.1 hx with hx | hx
    · exact h.sought hx hc
    · rcases List.mem_cons.1 hx with rfl | hx
      · cases hc
      · exact ih hx

end Retried

end Intake
