import Intake.Proofs.Delivery.Perform
import Intake.Proofs.Routing.Named
import Intake.Proofs.World.Lookups
import Intake.Proofs.World.Play

/-!
# Deliveries reach only the channel that they name

Until a job is resolved to an active channel its delivery only looks up tenants. So whoever changes a table, asks the
guard or downloads serves a channel that is fit for it (`perform_routing_safe`), and a job whose look-up finds such a
channel is not skipped.
-/

namespace Intake

variable {job : WebhookJob} {t : List Exchange} {r : Except DomainError IngestReport} {target : ResolvedChannel}

/-- The job was resolved to the channel, and then its events handled there. -/
def WebhookJob.ResolvedTo (job : WebhookJob) (target : ResolvedChannel) (t : List Exchange)
    (r : Except DomainError IngestReport) : Prop :=
  ∃ q t', t = q ++ t' ∧ (Routing.resolve job).run.Yields q (.ok (.active target)) ∧
    (performOn job (.active target)).run.Yields t' r

/-- A delivery that is resolved to no active channel only looks up tenants. -/
theorem perform_resolved_or_lookups (h : (perform job).run.Yields t r) :
    (∃ target, job.ResolvedTo target t r) ∨ ∀ x ∈ t, x.request.isLookup = true := by
  obtain ⟨q, t', res, rfl, hq, ⟨e, -, rfl, -⟩ | ⟨resolution, rfl, ht'⟩⟩ := perform_resolves h
  · rw [List.append_nil]
    exact .inr (Program.Asks.mem (Routing.resolve_lookups job) hq)
  · cases resolution with
    | active target => exact .inl ⟨target, q, t', rfl, hq, ht'⟩
    | _ =>
      obtain ⟨rfl, -⟩ := ht'
      rw [List.append_nil]
      exact .inr (Program.Asks.mem (Routing.resolve_lookups job) hq)

namespace WebhookJob.ResolvedTo

variable {tb : Tables}

theorem yields (h : job.ResolvedTo target t r) : (perform job).run.Yields t r := by
  obtain ⟨q, t', rfl, hq, hy⟩ := h
  exact Attempt.yields_bind.2 (.inr ⟨q, _, t', rfl, hq, hy⟩)

theorem route (h : job.ResolvedTo target t r) (ht : ∀ x ∈ t, x.Fits tb) : tb.route job = .active target := by
  obtain ⟨q, t', rfl, hq, -⟩ := h
  exact (Routing.resolve_yields hq (List.forall_mem_append.1 ht).1).symm

theorem report {report : IngestReport} (h : job.ResolvedTo target t (.ok report)) :
    report.skipped = none ∧ report.channel = some target.channel.id := by
  obtain ⟨q, t', -, -, h⟩ := h
  rcases Attempt.yields_bind.1 h with ⟨e, -, h'⟩ | ⟨t₁, outcomes, t₂, -, -, h₂⟩
  · cases h'
  · cases h₂.2
    exact ⟨rfl, rfl⟩

end WebhookJob.ResolvedTo

theorem perform_routes {tb : Tables} (h : (perform job).run.Yields t r) (ht : ∀ x ∈ t, x.Fits tb)
    (hread : ∀ x ∈ t, x.Read) :
    ∃ q t', t = q ++ t' ∧ (Routing.resolve job).run.Yields q (.ok (tb.route job)) ∧
      (performOn job (tb.route job)).run.Yields t' r := by
  obtain ⟨q, t', res, rfl, hq, ⟨e, rfl, -, -⟩ | ⟨resolution, rfl, ht'⟩⟩ := perform_resolves h
  · obtain ⟨x, hx, hfailed⟩ := Routing.resolve_not_read hq
    exact absurd (hread x (List.mem_append_left _ hx)) hfailed
  · obtain rfl := Routing.resolve_yields hq (List.forall_mem_append.1 ht).1
    exact ⟨q, t', rfl, hq, ht'⟩

/-- Safety: what a delivery does, it does for a stored channel that is authorized, of an active account, with an inbox,
and named by the job. Progress: with such a channel, which its look-up finds, a job is not skipped. -/
theorem perform_routing_safe {o : Outage} {w w' : World} (h : (perform job).run.Yields t r) (hp : w.Passes o t w') :
    ((w'.tables ≠ w.tables ∨ ∃ x ∈ t, x.request.isGuard = true ∨ x.request.isFetch = true) →
      ∃ target, job.ResolvedTo target t r ∧ w.tables.Serves job target) ∧
    ∀ target : ResolvedChannel, w.tables.Serves job target → w.tables.FirstNamed job target.channel →
      w.store.failingLookups = 0 →
        (∃ inbox, job.ResolvedTo ⟨target.channel, inbox⟩ t r) ∧
          ∀ report, r = .ok report → report.skipped = none ∧ report.channel = some target.channel.id := by
  constructor
  · intro hacts
    rcases perform_resolved_or_lookups h with ⟨target, hres⟩ | ht
    · exact ⟨target, hres, Tables.serves_of_route (hres.route hp.fits)⟩
    · exfalso
      rcases hacts with htables | ⟨x, hx, hguard | hfetch⟩
      · exact htables (hp.tables_of_lookups ht)
      · rw [Request.isGuard_of_isQuiet (Request.isQuiet_of_isLookup (ht x hx))] at hguard
        cases hguard
      · rw [Request.isFetch_of_isLookup (ht x hx)] at hfetch
        cases hfetch
  · intro target hserves hfirst hlookups
    obtain ⟨inbox, hroute⟩ := hserves.exists_route hfirst
    have hres : job.ResolvedTo ⟨target.channel, inbox⟩ t r := by
      have hroutes := perform_routes h hp.fits (hp.read hlookups)
      rwa [hroute] at hroutes
    refine ⟨⟨inbox, hres⟩, fun report hr => ?_⟩
    subst hr
    exact hres.report

/-- A greeting is stored, and for the one channel that there is. -/
theorem greeting_served :
    ∃ t r w' target, (perform Sample.greeting).run.Yields t r ∧ Sample.world.Passes {} t w' ∧
      w'.tables.messages.length = 1 ∧ Sample.world.tables.Serves Sample.greeting target ∧
      Sample.world.tables.FirstNamed Sample.greeting target.channel ∧
      ∀ report, r = .ok report → report.skipped = none ∧ report.channel = some target.channel.id := by
  have hplay : ((Outage.replay {}).run? [] (perform Sample.greeting).run Sample.world).any
      (fun played => decide (played.2.2.tables.messages.length = 1)) = true := by
    decide +kernel
  obtain ⟨t, r, w', hy, hp, hc⟩ := World.exists_play hplay
  have hmessage : w'.tables.messages.length = 1 := of_decide_eq_true hc
  have hchanged : w'.tables ≠ Sample.world.tables := fun heq => by
    rw [heq] at hmessage
    exact absurd hmessage (by decide +kernel)
  obtain ⟨target, hres, hserves⟩ := (perform_routing_safe hy hp).1 (.inl hchanged)
  have hfirst := (Tables.route_eq_active_iff.1 (hres.route hp.fits)).1
  have hlookups : Sample.world.store.failingLookups = 0 := by decide +kernel
  exact ⟨t, r, w', target, hy, hp, hmessage, hserves, hfirst,
    ((perform_routing_safe hy hp).2 target hserves hfirst hlookups).2⟩

end Intake
