import Intake.Proofs.Retry.Known
import Intake.Proofs.Routing.Safe

/-!
# Redelivery

A job that was delivered can be delivered again, any number of times: every run comes to a report like the first one,
only that what was created then is a duplicate now, and the tables hold what they held. After the first run all events
are known (`HasHandled`), and a further run keeps it so.
-/

namespace Intake

open Ingest

/-- Deliveries of the job one after the other, with their results; time may pass at any moment. -/
inductive Redelivered (job : WebhookJob) : World → List (Except DomainError IngestReport) → World → Prop
  | nil {w : World} : Redelivered job w [] w
  | cons {w w₁ w' : World} {t : List Exchange} {r : Except DomainError IngestReport}
    {rs : List (Except DomainError IngestReport)} :
    (perform job).run.Yields t r → w.Passes {} t w₁ → Redelivered job w₁ rs w' → Redelivered job w (r :: rs) w'

/-- The report goes through the same events, and drops as duplicates the messages that the other one created. -/
structure IngestReport.Repeats (again first : IngestReport) : Prop where
  channel : again.channel = first.channel
  skipped : again.skipped = first.skipped
  outcomes : List.Forall₂ (fun before now => ∀ source messages count,
    before = .messageCreated source messages count → now = .dropped source .duplicate) first.outcomes again.outcomes

/-- What a report on the job says, where `P` ties an event to its outcome. -/
def Tables.Reports (tb : Tables) (job : WebhookJob) (P : IncomingEvent → EventOutcome → Prop)
    (report : IngestReport) : Prop :=
  match tb.route job with
  | .active target =>
    ∃ outcomes, report = .ofChannel target.channel.id outcomes ∧ List.Forall₂ P (target.events job) outcomes
  | .notFound => report = .skip .channelNotFound
  | .inactive _ => report = .skip .channelInactive

/-- The job has been handled, and nothing stands in the way of handling it again. -/
structure World.HasHandled (w : World) (tb : Tables) (job : WebhookJob) : Prop where
  tenants : w.tables.tenants = tb.tenants
  lookups : w.store.failingLookups = 0
  unclaimed : ∀ c, ¬ w.Claimed c
  known : ∀ target, tb.route job = .active target → ∀ e ∈ target.events job, w.tables.Knows target e

variable {w w₁ w' : World} {tb : Tables} {job : WebhookJob} {t : List Exchange}

theorem IngestReport.repeats_of_reports {first again : IngestReport}
    (h : tb.Reports job EventOutcome.CreatesAccepted first) (h' : tb.Reports job EventOutcome.DropsAccepted again) :
    again.Repeats first := by
  unfold Tables.Reports at h h'
  split at h
  · next target hr =>
    rw [hr] at h'
    obtain ⟨outcomes, rfl, hfirst⟩ := h
    obtain ⟨outcomes', rfl, hagain⟩ := h'
    refine ⟨rfl, rfl, ?_⟩
    show List.Forall₂ _ outcomes outcomes'
    generalize target.events job = es at hfirst hagain
    induction hfirst generalizing outcomes' with
    | nil =>
      cases hagain
      exact .nil
    | cons hc _ ih =>
      cases hagain with
      | cons hd htail =>
        refine .cons (fun source messages count hcreated => ?_) (ih _ htail)
        obtain ⟨rfl, m, hm⟩ := hc source messages count hcreated
        exact hd m hm
  · next hr =>
    rw [hr] at h'
    subst h h'
    exact ⟨rfl, rfl, .nil⟩
  · next hr =>
    rw [hr] at h'
    subst h h'
    exact ⟨rfl, rfl, .nil⟩

/-- Where a run gets to: the events are handled in a world that differs by the passing of time and of claims. -/
theorem perform_reaches {r : Except DomainError IngestReport} (h : (perform job).run.Yields t r)
    (hp : w.Passes {} t w') (htenants : w.tables.tenants = tb.tenants) (hlookups : w.store.failingLookups = 0)
    (hclaims : ∀ c, ¬ w.Claimed c) :
    ∃ t' : List Exchange, ∃ w₀ : World, w₀.tables = w.tables ∧ (∀ c, ¬ w₀.Claimed c) ∧ w₀.Passes {} t' w' ∧
      (performOn job (tb.route job)).run.Yields t' r := by
  have hfits : ∀ x ∈ t, x.Fits tb := fun x hx => (hp.fits x hx).congr htenants.symm
  obtain ⟨q, t', rfl, hq, ht'⟩ := perform_routes h hfits (hp.read hlookups)
  obtain ⟨w₀, hp₀, hp'⟩ := hp.split
  have hlook := Program.Asks.mem (Routing.resolve_lookups job) hq
  refine ⟨t', w₀, hp₀.tables_of_lookups hlook, hp₀.unclaimed (fun x hx => ?_) hclaims, hp', ht'⟩
  exact Request.isGuard_of_isQuiet (Request.isQuiet_of_isLookup (hlook x hx))

theorem perform_handles {report : IngestReport} (h : (perform job).run.Yields t (.ok report))
    (hp : w.Passes {} t w') (hlookups : w.store.failingLookups = 0) (hclaims : ∀ c, ¬ w.Claimed c) :
    w'.HasHandled w.tables job ∧ w.tables.Reports job EventOutcome.CreatesAccepted report := by
  obtain ⟨t', w₀, -, hclaims₀, hp', h'⟩ := perform_reaches h hp rfl hlookups hclaims
  unfold Tables.Reports
  cases hr : w.tables.route job with
  | active target =>
    rw [hr] at h'
    rcases Attempt.yields_bind.1 h' with ⟨e, -, heq⟩ | ⟨t₁, outcomes, t₂, rfl, h₁, rfl, heq⟩
    · cases heq
    cases heq
    rw [List.append_nil] at hp'
    obtain ⟨hknown, hunclaimed, hall⟩ := handleEvents_knows rfl h₁ hp' hclaims₀
    refine ⟨⟨hp.tenants, hp.failingLookups hlookups, hunclaimed, fun target' htarget' => ?_⟩, outcomes, rfl, hall⟩
    cases hr.symm.trans htarget'
    exact hknown
  | _ =>
    rw [hr] at h'
    obtain ⟨rfl, heq⟩ := h'
    cases heq
    refine ⟨⟨hp.tenants, hp.failingLookups hlookups, hp'.unclaimed (by simp) hclaims₀, fun target' htarget' => ?_⟩, rfl⟩
    cases hr.symm.trans htarget'

theorem World.HasHandled.again {r : Except DomainError IngestReport} (hw : w.HasHandled tb job)
    (h : (perform job).run.Yields t r) (hp : w.Passes {} t w') :
    w'.HasHandled tb job ∧ w'.tables.holdings = w.tables.holdings ∧
      ∃ again, r = .ok again ∧ tb.Reports job EventOutcome.DropsAccepted again := by
  obtain ⟨htenants, hlookups, hclaims, hknown⟩ := hw
  obtain ⟨t', w₀, htables, hclaims₀, hp', h'⟩ := perform_reaches h hp htenants hlookups hclaims
  have hafter (hu : ∀ c, ¬ w'.Claimed c) : w'.HasHandled tb job :=
    ⟨hp.tenants.trans htenants, hp.failingLookups hlookups, hu, fun target hr e he => (hknown target hr e he).later hp⟩
  unfold Tables.Reports
  cases hr : tb.route job with
  | active target =>
    rw [hr] at h'
    have hknown₀ : ∀ e ∈ target.events job, w₀.tables.Knows target e := by
      rw [htables]
      exact hknown target hr
    rcases Attempt.yields_bind.1 h' with ⟨e, h₁, -⟩ | ⟨t₁, outcomes, t₂, rfl, h₁, rfl, rfl⟩
    · obtain ⟨-, -, outcomes, hok, -⟩ := handleEvents_again (o := {}) rfl h₁ hp' hclaims₀ hknown₀
      cases hok
    · rw [List.append_nil] at hp'
      obtain ⟨hheld, hunclaimed, outcomes', hok, hall⟩ := handleEvents_again rfl h₁ hp' hclaims₀ hknown₀
      cases hok
      exact ⟨hafter hunclaimed, hheld.trans (congrArg Tables.holdings htables), _, rfl, outcomes, rfl, hall⟩
  | _ =>
    rw [hr] at h'
    obtain ⟨rfl, rfl⟩ := h'
    refine ⟨hafter (hp'.unclaimed (by simp) hclaims₀), ?_, _, rfl, rfl⟩
    exact (hp'.holdings (by simp)).trans (congrArg Tables.holdings htables)

theorem World.HasHandled.redelivered {rs : List (Except DomainError IngestReport)} (hw : w.HasHandled tb job)
    (h : Redelivered job w rs w') :
    w'.HasHandled tb job ∧ w'.tables.holdings = w.tables.holdings ∧
      ∀ r ∈ rs, ∃ again, r = .ok again ∧ tb.Reports job EventOutcome.DropsAccepted again := by
  induction h with
  | nil => exact ⟨hw, rfl, by simp⟩
  | cons hy hp _ ih =>
    obtain ⟨hw₁, hheld, hr⟩ := hw.again hy hp
    obtain ⟨hw', hheld', hrs⟩ := ih hw₁
    exact ⟨hw', hheld'.trans hheld, List.forall_mem_cons.2 ⟨hr, hrs⟩⟩

/-- Once a run has come to a report, every further run comes to one that repeats it; the holdings stay as they are, and
no claim is left. There is always a further run, if the guard's clock can still express a deadline. -/
theorem redelivery_idempotent {report : IngestReport} {rs : List (Except DomainError IngestReport)}
    (hclaims : ∀ c, ¬ w.Claimed c) (hlookups : w.store.failingLookups = 0)
    (h : (perform job).run.Yields t (.ok report)) (hp : w.Passes {} t w₁) (hr : Redelivered job w₁ rs w') :
    (∀ r ∈ rs, ∃ again, r = .ok again ∧ again.Repeats report) ∧ w'.tables.holdings = w₁.tables.holdings ∧
      (∀ c, ¬ w'.Claimed c) ∧
      ((w'.instant.deadline? w'.guard.ttl).isSome = true →
        ∃ t r w'', (perform job).run.Yields t r ∧ w'.Passes {} t w'') := by
  obtain ⟨hw₁, hfirst⟩ := perform_handles h hp hlookups hclaims
  obtain ⟨hw', hheld, hrs⟩ := hw₁.redelivered hr
  refine ⟨fun r hmem => ?_, hheld, hw'.unclaimed, fun hdeadline => World.exists_passes _ hdeadline⟩
  obtain ⟨again, rfl, hagain⟩ := hrs r hmem
  exact ⟨again, rfl, IngestReport.repeats_of_reports hfirst hagain⟩

/-- A greeting is created once; a second delivery drops it. -/
theorem greeting_redelivered :
    ∃ t report w₁ again w', (perform Sample.greeting).run.Yields t (.ok report) ∧ Sample.world.Passes {} t w₁ ∧
      report.createdMessages.length = 1 ∧ Redelivered Sample.greeting w₁ [.ok again] w' ∧ again.Repeats report ∧
      w'.tables.holdings = w₁.tables.holdings ∧ ∀ c, ¬ w'.Claimed c := by
  have hplay : ((Outage.replay {}).run? [] (perform Sample.greeting).run Sample.world).any (fun played =>
      played.2.1.toOption.any (fun report => decide (report.createdMessages.length = 1)) &&
        decide ((played.2.2.instant.deadline? played.2.2.guard.ttl).isSome = true)) = true := by
    decide +kernel
  obtain ⟨t, r, w₁, hy, hp, hc⟩ := World.exists_play hplay
  obtain ⟨hreport, hdeadline⟩ := Bool.and_eq_true_iff.1 hc
  cases r with
  | error => cases hreport
  | ok report =>
    have hlookups : Sample.world.store.failingLookups = 0 := by decide +kernel
    have hnext := (redelivery_idempotent Sample.not_claimed hlookups hy hp .nil).2.2.2
    obtain ⟨t₂, r₂, w', hy₂, hp₂⟩ := hnext (of_decide_eq_true hdeadline)
    obtain ⟨hrs, hheld, hunclaimed, -⟩ := redelivery_idempotent Sample.not_claimed hlookups hy hp (.cons hy₂ hp₂ .nil)
    obtain ⟨again, rfl, hrepeats⟩ := hrs r₂ List.mem_cons_self
    exact ⟨t, report, w₁, again, w', hy, hp, of_decide_eq_true hreport, .cons hy₂ hp₂ .nil, hrepeats, hheld, hunclaimed⟩

end Intake
