import Intake.Proofs.Retry.Alone

/-!
# Claims that outlive their attempt

A claim whose release fails stays live until it expires. A retry within that time finds it, takes the message for one in
flight and completes without it. So a completed run that is alone has stored exactly the messages that it has not
`Abandoned`: looked up without finding them, while their claim was stuck, and never again.
-/

namespace Intake

/-- The message was not there, its claim could not be given back, and then nobody was granted it or wrote the message.
-/
def Abandoned (inbox : Snowflake) (c : Snowflake × String) (t : List Exchange) : Prop :=
  ∃ t₁ x t₂ y t₃, t = t₁ ++ x :: (t₂ ++ y :: t₃) ∧ x.missed = some (inbox, c.2) ∧ y.stranded = some c ∧
    ∀ z ∈ t₂ ++ t₃, z.granted ≠ some c ∧ z.written ≠ some (inbox, c.2)

def Settled (inbox : Snowflake) (c : Snowflake × String) (s : List Exchange) (w : World) : Prop :=
  (inbox, c.2) ∈ w.tables.keys ∨ Abandoned inbox c s

/-- The message is settled unless its claim can be had; this holds between any two events. -/
def Accounted (inbox : Snowflake) (c : Snowflake × String) (s : List Exchange) (w : World) : Prop :=
  ¬ w.Claimed c ∨ Settled inbox c s w

variable {o : Outage} {w w' : World} {tb : Tables} {job : WebhookJob} {target : ResolvedChannel} {e : IncomingEvent}
  {es : List IncomingEvent} {s t : List Exchange} {inbox : Snowflake} {c : Snowflake × String}

theorem Abandoned.append (h : Abandoned inbox c s)
    (ht : ∀ z ∈ t, z.granted ≠ some c ∧ z.written ≠ some (inbox, c.2)) : Abandoned inbox c (s ++ t) := by
  obtain ⟨t₁, x, t₂, y, t₃, rfl, hx, hy, hz⟩ := h
  refine ⟨t₁, x, t₂, y, t₃ ++ t, by simp, hx, hy, ?_⟩
  rw [← List.append_assoc]
  exact List.forall_mem_append.2 ⟨hz, ht⟩

theorem World.Passes.not_mem_of_abandoned (h : w.Passes o t w') (ha : Abandoned inbox c t) :
    (inbox, c.2) ∉ w'.tables.keys := by
  obtain ⟨t₁, x, t₂, y, t₃, rfl, hx, hy, hz⟩ := ha
  obtain ⟨w₁, -, h⟩ := h.split
  rw [h.mem_keys_iff]
  rintro (hmem | ⟨z, hmem, hw⟩)
  · exact h.not_mem_of_missed hx hmem
  · rcases List.mem_cons.1 hmem with rfl | hmem
    · rw [Exchange.written_eq_none_of_missed hx] at hw
      cases hw
    · rcases List.mem_append.1 hmem with hmem | hmem
      · exact (hz z (List.mem_append_left _ hmem)).2 hw
      · rcases List.mem_cons.1 hmem with rfl | hmem
        · rw [Exchange.written_eq_none_of_stranded hy] at hw
          cases hw
        · exact (hz z (List.mem_append_right _ hmem)).2 hw

theorem Settled.append (h : Settled inbox c s w) (hp : w.Passes o t w') (hg : ∀ z ∈ t, z.granted ≠ some c) :
    Settled inbox c (s ++ t) w' := by
  by_cases hw : ∃ z ∈ t, z.written = some (inbox, c.2)
  · exact .inl (hp.mem_keys_iff.2 (.inr hw))
  · rcases h with hk | ha
    · exact .inl (hp.mem_keys_iff.2 (.inl hk))
    · exact .inr (ha.append fun z hz => ⟨hg z hz, fun hzw => hw ⟨z, hz, hzw⟩⟩)

theorem Accounted.append (h : Accounted inbox c s w) (hp : w.Passes o t w') (hg : ∀ z ∈ t, z.granted ≠ some c) :
    Accounted inbox c (s ++ t) w' := by
  rcases h with hc | hs
  · refine .inl fun hc' => ?_
    rcases hp.claimed hc' with hc' | ⟨z, hz, hzg⟩
    · exact hc hc'
    · exact hg z hz hzg
  · exact .inr (hs.append hp hg)

namespace Ingest

variable {source : String} {m : InboundMessage}

/-- Without an outcome the claim is given back, or else the message was missed and is abandoned unless it is stored. -/
theorem Persisted.accounted {error : DomainError} {x : Exchange} {released : Except DomainError Unit}
    (h : Persisted target source m t (.error error))
    (hp : w.Passes o (x :: (t ++ [⟨.release target.channel.id source, released⟩])) w') :
    Accounted target.inbox.id (target.channel.id, source)
      (s ++ x :: (t ++ [⟨.release target.channel.id source, released⟩])) w' := by
  by_cases hk : (target.inbox.id, source) ∈ w'.tables.keys
  · exact .inr (.inl hk)
  cases released with
  | ok =>
    rw [← List.cons_append] at hp
    exact .inl hp.not_claimed_of_release
  | error e =>
    obtain ⟨b, t', rfl, hb⟩ := h.of_error
    -- The look-up is always answered, so it found nothing.
    have hmissed : Exchange.missed ⟨.findMessage target.inbox.id source, b⟩ = some (target.inbox.id, source) := by
      rw [← List.singleton_append] at hp
      obtain ⟨w₁, -, hp'⟩ := hp.split
      obtain ⟨w₂, w₃, -, hf, -⟩ := hp'.uncons
      rw [hf.findMessage]
      cases hfound : w₂.tables.findMessage target.inbox.id source with
      | none => rfl
      | some stored => exact absurd (hf.findMessage.trans (congrArg Except.ok hfound)) (hb stored)
    have hnot : ∀ z ∈ t', z.granted ≠ some (target.channel.id, source) ∧
        z.written ≠ some (target.inbox.id, source) := by
      intro z hz
      refine ⟨?_, fun hw => hk (hp.mem_keys_iff.2 (.inr ⟨z, ?_, hw⟩))⟩
      · rw [Exchange.granted_eq_none (h.isGuard z (List.mem_cons_of_mem _ hz))]
        exact nofun
      · exact List.mem_cons_of_mem _ (List.mem_append_left _ (List.mem_cons_of_mem _ hz))
    refine .inr (.inr ⟨s ++ [x], _, t', ⟨.release target.channel.id source, .error e⟩, [], ?_, hmissed, rfl, ?_⟩)
    · simp
    · rw [List.append_nil]
      exact hnot

namespace Handled

variable {r : Except DomainError EventOutcome} {outcome : EventOutcome}

theorem accounted (h : Handled target e t r) (hp : w.Passes o t w')
    (ha : Accounted target.inbox.id (target.channel.id, source) s w) :
    Accounted target.inbox.id (target.channel.id, source) (s ++ t) w' := by
  by_cases hne : source = e.sourceId
  · subst hne
    cases h with
    | quiet _ hq => exact ha.append hp hq.not_granted
    | unclaimed | denied => exact ha.append hp (List.forall_mem_singleton.2 nofun)
    | granted _ hpers =>
      cases r with
      | ok outcome => exact .inr (.inl (hpers.stored hp))
      | error error => exact hpers.accounted hp
  · exact ha.append hp (h.not_granted hne)

theorem settled (h : Handled target e t (.ok outcome)) (hp : w.Passes o t w')
    (hs : Settled target.inbox.id (target.channel.id, source) s w) :
    Settled target.inbox.id (target.channel.id, source) (s ++ t) w' := by
  by_cases hne : source = e.sourceId
  · subst hne
    cases h with
    | quiet _ hq => exact hs.append hp hq.not_granted
    | denied => exact hs.append hp (List.forall_mem_singleton.2 nofun)
    | granted _ hpers => exact .inl (hpers.stored hp)
  · exact hs.append hp (h.not_granted hne)

/-- An accepted event is settled by its outcome: its claim is refused only if the message has been settled before. -/
theorem settled_of_accepted (h : Handled target e t (.ok outcome)) (hm : e.Accepted m) (hp : w.Passes o t w')
    (ha : Accounted target.inbox.id (target.channel.id, e.sourceId) s w) :
    Settled target.inbox.id (target.channel.id, e.sourceId) (s ++ t) w' := by
  cases h with
  | quiet hn => exact absurd hm (hn m)
  | denied =>
    have hs := ha.resolve_left fun hc => hc hp.claimed_of_denied
    exact hs.append hp (List.forall_mem_singleton.2 nofun)
  | granted _ hpers => exact .inl (hpers.stored hp)

end Handled

namespace HandledAll

theorem settled {outcomes : List EventOutcome} (h : HandledAll target es t (.ok outcomes)) (hp : w.Passes o t w')
    (hs : Settled target.inbox.id (target.channel.id, source) s w) :
    Settled target.inbox.id (target.channel.id, source) (s ++ t) w' := by
  generalize hr : (Except.ok outcomes : Except DomainError _) = r at h
  induction h generalizing s w outcomes with
  | nil => exact hs.append hp (by simp)
  | stopped | stoppedLater => cases hr
  | cons h _ ih =>
    cases hr
    obtain ⟨w₁, hp₁, hp₂⟩ := hp.split
    rw [← List.append_assoc]
    exact ih hp₂ (h.settled hp₁ hs) rfl

theorem settled_of_mem {outcomes : List EventOutcome} (h : HandledAll target es t (.ok outcomes)) (he : e ∈ es)
    (hm : e.Accepted m) (hp : w.Passes o t w')
    (ha : Accounted target.inbox.id (target.channel.id, e.sourceId) s w) :
    Settled target.inbox.id (target.channel.id, e.sourceId) (s ++ t) w' := by
  generalize hr : (Except.ok outcomes : Except DomainError _) = r at h
  induction h generalizing s w outcomes with
  | nil => cases he
  | stopped | stoppedLater => cases hr
  | cons h hall ih =>
    cases hr
    obtain ⟨w₁, hp₁, hp₂⟩ := hp.split
    rw [← List.append_assoc]
    rcases List.mem_cons.1 he with rfl | he
    · exact hall.settled hp₂ (h.settled_of_accepted hm hp₁ ha)
    · exact ih he hp₂ (h.accounted hp₁ ha) rfl

end HandledAll

end Ingest

theorem Accounted.kept (source : String) :
    Kept o target es (Accounted target.inbox.id (target.channel.id, source)) where
  quiet h hp hq := h.append hp hq.not_granted
  handled _ h hp hh := hh.accounted hp h

/-- A run that is alone and was delivered has stored the message of an accepted event unless it abandoned it. -/
theorem run_stores_unless_abandoned {maxAttempts line : Nat} {out : JobRunner.JobOutput} {m : InboundMessage}
    (h : (JobRunner.run maxAttempts line job).Yields t out)
    (hp : w.Passes { writes := true, releases := true } t w') (hclaims : ∀ c, ¬ w.Claimed c) (hout : out.Delivered)
    (hroute : w.tables.route job = .active target) (he : e ∈ target.events job) (hm : e.Accepted m) :
    (target.inbox.id, e.sourceId) ∈ w'.tables.keys ↔
      ¬ Abandoned target.inbox.id (target.channel.id, e.sourceId) t := by
  constructor
  · exact fun hk ha => hp.not_mem_of_abandoned ha hk
  · intro hn
    obtain ⟨report, hout, hskip⟩ := hout
    obtain ⟨r, hret, hr⟩ := JobRunner.run_yields h hp.fits
    cases hr report hout
    have hstart : Accounted target.inbox.id (target.channel.id, e.sourceId) [] w := .inl (hclaims _)
    obtain ⟨t₁, t₂, w₁, outcomes, rfl, ha, hp₂, hall⟩ :=
      (Accounted.kept e.sourceId).last_attempt hstart hp hroute hret hskip
    exact (hall.settled_of_mem he hm hp₂ ha).resolve_right hn

/-- The first write fails, but the release after it does not, and so the retry is granted the claim. -/
theorem retried_greeting_not_abandoned :
    ∃ t out w' target e m, (JobRunner.run 3 1 Sample.greeting).Yields t out ∧
      Sample.world.Passes { writes := true, releases := true } t w' ∧ out.Delivered ∧
      (target, e, m) ∈ Sample.world.tables.accepted Sample.greeting ∧
      (target.inbox.id, e.sourceId) ∈ w'.tables.keys ∧
      ¬ Abandoned target.inbox.id (target.channel.id, e.sourceId) t := by
  have hplay : Sample.checks { writes := true, releases := true }
      [{ request := "message.create", error := MemoryStore.writeFailure }] Sample.greeting
      (fun target e w' => decide ((target.inbox.id, e.sourceId) ∈ w'.tables.keys)) = true := by
    decide +kernel
  obtain ⟨t, out, w', target, e, m, hy, hp, hout, hmem, hc⟩ := Sample.exists_run hplay
  have hk := of_decide_eq_true hc
  obtain ⟨hroute, he, hm⟩ := Tables.mem_accepted_iff.1 hmem
  refine ⟨t, out, w', target, e, m, hy, hp, hout, hmem, hk, ?_⟩
  exact (run_stores_unless_abandoned hy hp Sample.not_claimed hout hroute he hm).1 hk

/-- The first write and the release after it fail: the retry takes its own claim for that of another delivery. -/
theorem stuck_claim_loses_greeting :
    (∀ c, ¬ Sample.world.Claimed c) ∧
      ∃ t out w' target e m, (JobRunner.run 3 1 Sample.greeting).Yields t out ∧
        Sample.world.Passes { writes := true, releases := true } t w' ∧ out.Delivered ∧
        Sample.world.tables.route Sample.greeting = .active target ∧ e ∈ target.events Sample.greeting ∧
        e.Accepted m ∧ (target.inbox.id, e.sourceId) ∉ w'.tables.keys := by
  have hplay : Sample.checks { writes := true, releases := true }
      [{ request := "message.create", error := MemoryStore.writeFailure },
        { request := "guard.release", error := .cache "connection lost" }] Sample.greeting
      (fun target e w' => decide ((target.inbox.id, e.sourceId) ∉ w'.tables.keys)) = true := by
    decide +kernel
  obtain ⟨t, out, w', target, e, m, hy, hp, hout, hmem, hk⟩ := Sample.exists_run hplay
  obtain ⟨hroute, he, hm⟩ := Tables.mem_accepted_iff.1 hmem
  exact ⟨Sample.not_claimed, t, out, w', target, e, m, hy, hp, hout, hroute, he, hm, of_decide_eq_true hk⟩

end Intake
