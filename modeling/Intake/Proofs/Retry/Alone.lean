import Intake.Proofs.Delivery.Brackets
import Intake.Proofs.World.Play

/-!
# Deliveries that are alone

What the handling of one event does to the world if nothing comes in between but the passing of time. What quiet
exchanges and the handling of each event keep is kept up to the last attempt of a run (`Kept.last_attempt`).
-/

namespace Intake

variable {o : Outage} {w w' : World} {target : ResolvedChannel} {e : IncomingEvent} {t : List Exchange}
  {c : Snowflake × String} {source : String} {m : InboundMessage}

theorem QuietTrace.not_granted (h : QuietTrace t) : ∀ z ∈ t, z.granted ≠ some c := by
  intro z hz
  rw [Exchange.granted_eq_none (h.isGuard hz)]
  exact nofun

namespace World.Passes

variable {k : Snowflake × String}

theorem not_mem_of_missed {x : Exchange} (h : w.Passes o (x :: t) w') (hx : x.missed = some k) :
    k ∉ w.tables.keys := by
  obtain ⟨w₁, w₂, h₀, ha, -⟩ := h.uncons
  exact fun hk => ha.missed hx (h₀.mem_keys_iff.2 (.inl hk))

theorem not_claimed_of_reliable {channel : Snowflake} {released : Except DomainError Unit}
    (ho : o.releases = false) (h : w.Passes o (t ++ [⟨.release channel source, released⟩]) w') :
    ¬ w'.Claimed (channel, source) := by
  obtain ⟨w₁, -, h₁⟩ := h.split
  obtain ⟨w₂, w₃, -, ha, -⟩ := h₁.uncons
  rcases ha.release with ⟨rfl, -⟩ | ⟨hr, -⟩
  · exact h.not_claimed_of_release
  · rw [ho] at hr
    cases hr

end World.Passes

namespace Ingest

theorem Persisted.stored {outcome : EventOutcome} {x : Exchange} {t' : List Exchange}
    (h : Persisted target source m t (.ok outcome)) (hp : w.Passes o (x :: (t ++ t')) w') :
    (target.inbox.id, source) ∈ w'.tables.keys := by
  obtain ⟨y, hy, hs⟩ := h.shown
  exact hp.shown (List.mem_cons_of_mem _ (List.mem_append_left _ hy)) hs

namespace Handled

variable {r : Except DomainError EventOutcome}

theorem not_granted (h : Handled target e t r) (hne : source ≠ e.sourceId) :
    ∀ z ∈ t, z.granted ≠ some (target.channel.id, source) := by
  intro z hz hg
  obtain ⟨hc, -⟩ := h.sought hz (Exchange.sought_of_granted hg)
  exact hne (Prod.mk.inj hc).2

theorem attempted_mem (h : Handled target e t r) {x : Exchange} (hx : x ∈ t) {k : Snowflake × String}
    (hk : x.attempted = some k) :
    ∃ m, e.Accepted m ∧ k ∈ messageKeys target e.sourceId m := by
  cases h with
  | quiet _ hq => exact absurd hk (hq.not_attempted hx)
  | unclaimed | denied =>
    rw [List.mem_singleton.1 hx] at hk
    cases hk
  | granted ha hp =>
    rcases List.mem_cons.1 hx with rfl | hx
    · cases hk
    · rcases List.mem_append.1 hx with hx | hx
      · exact ⟨_, ha, hp.attempted_mem hx hk⟩
      · rw [List.mem_singleton.1 hx] at hk
        cases hk

theorem not_claimed (h : Handled target e t r) (ho : o.releases = false) (hp : w.Passes o t w')
    (hc : ¬ w.Claimed (target.channel.id, source)) : ¬ w'.Claimed (target.channel.id, source) := by
  have hkeep (hg : ∀ z ∈ t, z.granted ≠ some (target.channel.id, source)) :
      ¬ w'.Claimed (target.channel.id, source) := by
    intro hc'
    rcases hp.claimed hc' with hc' | ⟨z, hz, hzg⟩
    · exact hc hc'
    · exact hg z hz hzg
  by_cases hne : source = e.sourceId
  · subst hne
    cases h with
    | quiet _ hq => exact hkeep hq.not_granted
    | unclaimed | denied => exact hkeep (List.forall_mem_singleton.2 nofun)
    | granted =>
      rw [← List.cons_append] at hp
      exact hp.not_claimed_of_reliable ho
  · exact hkeep (h.not_granted hne)

theorem stored {outcome : EventOutcome} (h : Handled target e t (.ok outcome)) (hm : e.Accepted m)
    (hp : w.Passes o t w') (hc : ¬ w.Claimed (target.channel.id, e.sourceId)) :
    (target.inbox.id, e.sourceId) ∈ w'.tables.keys := by
  cases h with
  | quiet hn => exact absurd hm (hn m)
  | denied => exact absurd hp.claimed_of_denied hc
  | granted _ hpers => exact hpers.stored hp

end Handled

end Ingest

open Ingest

/-- A property of the past exchanges and of the world that quiet exchanges and the handling of the events keep. -/
structure Kept (o : Outage) (target : ResolvedChannel) (es : List IncomingEvent)
    (I : List Exchange → World → Prop) : Prop where
  quiet : ∀ {s t w w'}, I s w → w.Passes o t w' → QuietTrace t → I (s ++ t) w'
  handled : ∀ {s t w w' e r}, e ∈ es → I s w → w.Passes o t w' → Handled target e t r → I (s ++ t) w'

namespace Kept

variable {I : List Exchange → World → Prop} {es : List IncomingEvent} {s : List Exchange} {tb : Tables}
  {job : WebhookJob}

theorem of_cons (hI : Kept o target (e :: es) I) : Kept o target es I :=
  ⟨hI.quiet, fun he => hI.handled (List.mem_cons_of_mem _ he)⟩

theorem handledAll {r : Except DomainError (List EventOutcome)} (hI : Kept o target es I) (hs : I s w)
    (hp : w.Passes o t w') (h : HandledAll target es t r) : I (s ++ t) w' := by
  induction h generalizing s w with
  | nil => exact hI.quiet hs hp (by simp [QuietTrace])
  | stopped h => exact hI.handled List.mem_cons_self hs hp h
  | stoppedLater h _ ih | cons h _ ih =>
    obtain ⟨w₁, hp₁, hp₂⟩ := hp.split
    rw [← List.append_assoc]
    exact ih hI.of_cons (hI.handled List.mem_cons_self hs hp₁ h) hp₂

theorem performed {r : Except DomainError IngestReport} (hI : Kept o target (target.events job) I) (hs : I s w)
    (hp : w.Passes o t w') (hroute : tb.route job = .active target) (h : Performed tb job t r) : I (s ++ t) w' := by
  cases h with
  | unresolved hq | skipped hq => exact hI.quiet hs hp hq
  | stopped hq hr hall | handled hq hr hall =>
    cases hr.symm.trans hroute
    obtain ⟨w₁, hp₁, hp₂⟩ := hp.split
    rw [← List.append_assoc]
    exact hI.handledAll (hI.quiet hs hp₁ hq) hp₂ hall

/-- A run that is not skipped comes to an attempt that handles all events, and what is kept holds right before. -/
theorem last_attempt {report : IngestReport} (hI : Kept o target (target.events job) I) (hs : I s w)
    (hp : w.Passes o t w') (hroute : tb.route job = .active target) (h : Retried tb job t (.ok report))
    (hskip : report.skipped = none) :
    ∃ t₁ t₂ w₁ outcomes, t = t₁ ++ t₂ ∧ I (s ++ t₁) w₁ ∧ w₁.Passes o t₂ w' ∧
      HandledAll target (target.events job) t₂ (.ok outcomes) := by
  generalize hr : (Except.ok report : Except DomainError _) = r at h
  induction h generalizing s w with
  | last h =>
    cases hr
    cases h with
    | skipped => cases hskip
    | handled hq hr hall =>
      cases hr.symm.trans hroute
      obtain ⟨w₁, hp₁, hp₂⟩ := hp.split
      exact ⟨_, _, w₁, _, rfl, hI.quiet hs hp₁ hq, hp₂, hall⟩
  | @again t t' error millis _ h _ ih =>
    obtain ⟨w₁, hp₁, hp₂⟩ := hp.split
    rw [← List.singleton_append] at hp₂
    obtain ⟨w₂, hp₂, hp₃⟩ := hp₂.split
    have hpause := hI.quiet (hI.performed hs hp₁ hroute h) hp₂ (List.forall_mem_singleton.2 rfl)
    obtain ⟨t₁, t₂, w₃, outcomes, rfl, hs, hp, hall⟩ := ih hpause hp₃ hr
    refine ⟨t ++ ⟨.pause millis, ()⟩ :: t₁, t₂, w₃, outcomes, by simp, ?_, hp, hall⟩
    simpa using hs

end Kept

namespace Sample

variable {faults : List Fault} {job : WebhookJob} {check : ResolvedChannel → IncomingEvent → World → Bool}

/-- Whether a job that is run alone is delivered and then checks out for one of its accepted events. -/
def checks (o : Outage) (faults : List Fault) (job : WebhookJob)
    (check : ResolvedChannel → IncomingEvent → World → Bool) : Bool :=
  (o.replay.run? faults (JobRunner.run 3 1 job) world).any fun (_, out, w') =>
    decide out.Delivered && (world.tables.accepted job).any fun (target, e, _) => check target e w'

theorem exists_run (h : checks o faults job check = true) :
    ∃ t out w' target e m, (JobRunner.run 3 1 job).Yields t out ∧ world.Passes o t w' ∧ out.Delivered ∧
      (target, e, m) ∈ world.tables.accepted job ∧ check target e w' = true := by
  obtain ⟨t, out, w', hy, hp, hc⟩ := World.exists_play h
  obtain ⟨hout, hany⟩ := Bool.and_eq_true_iff.1 hc
  obtain ⟨⟨target, e, m⟩, hmem, hcheck⟩ := List.any_eq_true.1 hany
  exact ⟨t, out, w', target, e, m, hy, hp, of_decide_eq_true hout, hmem, hcheck⟩

end Sample

end Intake
