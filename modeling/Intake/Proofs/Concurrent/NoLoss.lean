import Intake.Proofs.Delivery.Brackets
import Intake.Proofs.World.Play

/-!
# No event is lost

A delivery that finds a claim taken relies on the one that holds it. That one stores the message, or else fails and asks
for the claim once more before it can complete (`Renewed`). So at any time the message is stored or one of its
deliveries still owes it, and behind every live claim stands a delivery that is between the grant and the release
(`Pool.Covered`).
-/

namespace Intake

/-- The message is shown to be stored, or its claim is asked for. -/
def Attended (inbox : Snowflake) (c : Snowflake × String) (t : List Exchange) : Prop :=
  ∃ x ∈ t, x.shown = some (inbox, c.2) ∨ x.sought = some c

/-- After each grant of the claim the message is attended to. -/
def Renewed (inbox : Snowflake) (c : Snowflake × String) : List Exchange → Prop
  | [] => True
  | x :: t => (x.granted = some c → Attended inbox c t) ∧ Renewed inbox c t

variable {tb : Tables} {job : WebhookJob} {target : ResolvedChannel} {e : IncomingEvent} {es : List IncomingEvent}
  {t t' : List Exchange} {inbox : Snowflake} {c : Snowflake × String}

theorem Attended.append_left (h : Attended inbox c t') : Attended inbox c (t ++ t') := by
  obtain ⟨x, hx, hs⟩ := h
  exact ⟨x, List.mem_append_right _ hx, hs⟩

theorem Attended.append_right (h : Attended inbox c t) : Attended inbox c (t ++ t') := by
  obtain ⟨x, hx, hs⟩ := h
  exact ⟨x, List.mem_append_left _ hx, hs⟩

namespace Renewed

theorem append (h : Renewed inbox c t) (h' : Renewed inbox c t') : Renewed inbox c (t ++ t') := by
  induction t with
  | nil => exact h'
  | cons x t ih => exact ⟨fun hx => (h.1 hx).append_right, ih h.2⟩

theorem of_attended (h : Renewed inbox c t') (ha : Attended inbox c t') : Renewed inbox c (t ++ t') := by
  induction t with
  | nil => exact h
  | cons x t ih => exact ⟨fun _ => ha.append_left, ih⟩

theorem of_isGuard (h : ∀ x ∈ t, x.request.isGuard = false) : Renewed inbox c t := by
  induction t with
  | nil => trivial
  | cons x t ih =>
    rw [List.forall_mem_cons] at h
    refine ⟨fun hx => ?_, ih h.2⟩
    rw [Exchange.granted_eq_none h.1] at hx
    cases hx

theorem after {u v : List Exchange} {x : Exchange} (h : Renewed inbox c (u ++ x :: v)) (hx : x.granted = some c) :
    Attended inbox c v := by
  induction u with
  | nil => exact h.1 hx
  | cons y u ih => exact ih h.2

end Renewed

namespace Ingest

theorem Handled.renewed {outcome : EventOutcome} (h : Handled target e t (.ok outcome)) (source : String) :
    Renewed target.inbox.id (target.channel.id, source) t := by
  cases h with
  | quiet _ hq => exact .of_isGuard fun x hx => hq.isGuard hx
  | denied => exact ⟨nofun, trivial⟩
  | granted ha hp =>
    refine ⟨fun hg => ?_, (Renewed.of_isGuard hp.isGuard).append ⟨nofun, trivial⟩⟩
    obtain ⟨x, hx, hs⟩ := hp.shown
    cases hg
    exact ⟨x, List.mem_append_left _ hx, .inl hs⟩

theorem Handled.attended {outcome : EventOutcome} {m : InboundMessage} (h : Handled target e t (.ok outcome))
    (ha : e.Accepted m) : Attended target.inbox.id (target.channel.id, e.sourceId) t := by
  cases h with
  | quiet hn => exact absurd ha (hn m)
  | denied | granted => exact ⟨_, List.mem_cons_self, .inr rfl⟩

theorem HandledAll.renewed {outcomes : List EventOutcome} (h : HandledAll target es t (.ok outcomes))
    (source : String) : Renewed target.inbox.id (target.channel.id, source) t := by
  generalize hr : (Except.ok outcomes : Except DomainError _) = r at h
  induction h generalizing outcomes with
  | nil => trivial
  | stopped | stoppedLater => cases hr
  | cons h _ ih =>
    cases hr
    exact (h.renewed source).append (ih rfl)

theorem HandledAll.attended {outcomes : List EventOutcome} {m : InboundMessage}
    (h : HandledAll target es t (.ok outcomes)) (he : e ∈ es) (ha : e.Accepted m) :
    Attended target.inbox.id (target.channel.id, e.sourceId) t := by
  generalize hr : (Except.ok outcomes : Except DomainError _) = r at h
  induction h generalizing outcomes with
  | nil => cases he
  | stopped | stoppedLater => cases hr
  | cons h _ ih =>
    cases hr
    rcases List.mem_cons.1 he with rfl | he
    · exact (h.attended ha).append_right
    · exact (ih he rfl).append_left

end Ingest

/-- A delivery that is not skipped attends to all its accepted events, and again after each grant. -/
theorem Performed.attended {report : IngestReport} (h : Performed tb job t (.ok report)) (hs : report.skipped = none)
    (hc : tb.Contains job c) (hi : (tb.findInbox c.1).map Inbox.id = some inbox) :
    Attended inbox c t ∧ Renewed inbox c t := by
  cases h with
  | skipped => cases hs
  | handled hq hr hall =>
    obtain ⟨target, e, m, hr', he, ha, rfl⟩ := hc
    cases hr.symm.trans hr'
    rw [Tables.findInbox_of_route hr] at hi
    cases hi
    have hatt := hall.attended he ha
    exact ⟨hatt.append_left, (hall.renewed _).of_attended hatt⟩

theorem Retried.attended {report : IngestReport} (h : Retried tb job t (.ok report)) (hs : report.skipped = none)
    (hc : tb.Contains job c) (hi : (tb.findInbox c.1).map Inbox.id = some inbox) :
    Attended inbox c t ∧ Renewed inbox c t := by
  generalize hr : (Except.ok report : Except DomainError _) = r at h
  induction h with
  | last h =>
    cases hr
    exact h.attended hs hc hi
  | again _ _ ih =>
    -- A failed attempt may leave the message out, but the next one attends to it.
    obtain ⟨hatt, hren⟩ := ih hr
    rw [List.append_cons]
    exact ⟨hatt.append_left, hren.of_attended hatt⟩

/-- A job as it is given to a runner. -/
structure QueuedJob where
  maxAttempts : Nat
  line : Nat
  job : WebhookJob

def QueuedJob.program (q : QueuedJob) : Program JobRunner.JobOutput := JobRunner.run q.maxAttempts q.line q.job

abbrev JobDelivery := Delivery QueuedJob JobRunner.JobOutput

namespace Delivery

/-- The delivery is between the grant of the claim and its release. -/
def Holds (d : JobDelivery) (c : Snowflake × String) : Prop := Bracketed none d.log (some c)

/-- The delivery cannot be completed without attending to the message. -/
def Owes (tb : Tables) (inbox : Snowflake) (c : Snowflake × String) (d : JobDelivery) : Prop :=
  ∀ t out, d.rest.Yields t out → (∀ x ∈ t, x.Fits tb) → out.Delivered → Attended inbox c t

end Delivery

namespace Pool

/-- The message is stored or owed, and someone stands behind its claim. -/
structure Covered (tb : Tables) (inbox : Snowflake) (c : Snowflake × String)
    (P : Pool QueuedJob JobRunner.JobOutput) : Prop where
  holder : P.world.Claimed c → (inbox, c.2) ∈ P.world.tables.keys ∨
    ∃ d ∈ P.deliveries, tb.Contains d.job.job c ∧ d.Holds c
  owes : (inbox, c.2) ∈ P.world.tables.keys ∨ ∃ d ∈ P.deliveries, tb.Contains d.job.job c ∧ d.Owes tb inbox c

variable {o : Outage} {P P' : Pool QueuedJob JobRunner.JobOutput}

/-- The holder of the claim owes the message: it has shown nothing since the grant, or else the message is stored. -/
theorem Traced.owes (hP : P.Traced QueuedJob.program tb) (hi : (tb.findInbox c.1).map Inbox.id = some inbox)
    {d : JobDelivery} (hd : d ∈ P.deliveries) (hc : tb.Contains d.job.job c) (hh : d.Holds c)
    (hk : (inbox, c.2) ∉ P.world.tables.keys) : d.Owes tb inbox c := by
  rintro t out hy ht ⟨report, hout, hs⟩
  have hfits : ∀ x ∈ d.log ++ t, x.Fits tb := List.forall_mem_append.2 ⟨hP.fits d hd, ht⟩
  obtain ⟨r, hret, hr⟩ := JobRunner.run_yields ((hP.reaches d hd).yields hy) hfits
  cases hr report hout
  obtain ⟨-, hren⟩ := hret.attended hs hc hi
  rcases Bracketed.held_or_granted hh rfl with ⟨hn, -⟩ | ⟨u, x, v, hlog, hx, hv⟩
  · cases hn
  rw [hlog, List.append_assoc, List.cons_append] at hren
  obtain ⟨y, hy, hs⟩ := hren.after hx
  rcases List.mem_append.1 hy with hyv | hyt
  · rcases hs with hs | hs
    · exact absurd (hP.shown d hd y (by rw [hlog]; simp [hyv]) _ hs) hk
    · rw [Exchange.sought_eq_none (hv y hyv)] at hs
      cases hs
  · exact ⟨y, hyt, hs⟩

/-- The next exchange of a delivery, with the claims that it holds before and after. -/
theorem Traced.bracketed (hP : P.Traced QueuedJob.program tb) {job : QueuedJob} {log : List Exchange} {r : Request}
    {b : r.Reply} {next : r.Reply → Program JobRunner.JobOutput}
    (hd : ⟨job, log, .ask r next⟩ ∈ P.deliveries) (hb : Exchange.Fits tb ⟨r, b⟩) :
    ∃ h h', Bracketed none log h ∧ Bracketed h [⟨r, b⟩] h' ∧
      ∀ c, Exchange.sought ⟨r, b⟩ = some c → tb.Contains job.job c := by
  obtain ⟨t, a, hy, hfits⟩ := hP.complete hd hb
  obtain ⟨r', hret, -⟩ := JobRunner.run_yields hy hfits
  obtain ⟨h, h₁, h₂⟩ := hret.bracketed.split
  rw [← List.singleton_append] at h₂
  obtain ⟨h', h₂, -⟩ := h₂.split
  exact ⟨h, h', h₁, h₂, fun c hc => hret.sought (List.mem_append_right _ List.mem_cons_self) hc⟩

variable {w w' : World} {before after : List JobDelivery} {job : QueuedJob} {log : List Exchange} {r : Request}
  {b : r.Reply} {next : r.Reply → Program JobRunner.JobOutput}

theorem Traced.holds_of_granted (hP : P.Traced QueuedJob.program tb) (hd : ⟨job, log, .ask r next⟩ ∈ P.deliveries)
    (hb : Exchange.Fits tb ⟨r, b⟩) (hgr : Exchange.granted ⟨r, b⟩ = some c) :
    tb.Contains job.job c ∧ Bracketed none (log ++ [⟨r, b⟩]) (some c) := by
  obtain ⟨g, g', hg, hx, hsought⟩ := hP.bracketed hd hb
  refine ⟨hsought c (Exchange.sought_of_granted hgr), ?_⟩
  cases hx with
  | claim => exact hg.append (.claim (hgr ▸ .nil))
  | release => cases hgr
  | other hr =>
    rw [Exchange.granted_eq_none hr] at hgr
    cases hgr

theorem Traced.holds_turn (hP : P.Traced QueuedJob.program tb) (hd : ⟨job, log, .ask r next⟩ ∈ P.deliveries)
    (hb : Exchange.Fits tb ⟨r, b⟩) (hh : Bracketed none log (some c)) :
    Exchange.sought ⟨r, b⟩ = none ∧ (r = .release c.1 c.2 ∨ Bracketed none (log ++ [⟨r, b⟩]) (some c)) := by
  obtain ⟨g, g', hg, hx, -⟩ := hP.bracketed hd hb
  obtain rfl := hg.unique hh
  cases hx with
  | release => exact ⟨rfl, .inl rfl⟩
  | other hr => exact ⟨Exchange.sought_eq_none hr, .inr (hh.append (.other hr .nil))⟩

/-- After a turn someone stands behind a live claim: the holder from before, or who was granted it. -/
theorem Covered.exists_holder (hP : Traced QueuedJob.program tb ⟨w, before ++ ⟨job, log, .ask r next⟩ :: after⟩)
    (h : Covered tb inbox c ⟨w, before ++ ⟨job, log, .ask r next⟩ :: after⟩)
    (ha : w.Answers { writes := true } r b w') (hk : (inbox, c.2) ∉ w.tables.keys) (hc : w'.Claimed c) :
    ∃ d ∈ before ++ ⟨job, log ++ [⟨r, b⟩], next b⟩ :: after, tb.Contains d.job.job c ∧ d.Holds c := by
  have hfits : Exchange.Fits tb ⟨r, b⟩ := ha.fits.congr hP.tenants.symm
  rcases ha.claimed hc with hc₀ | hgr
  · obtain ⟨d, hd, hcon, hh⟩ := (h.holder hc₀).resolve_left hk
    rcases mem_turn ⟨job, log ++ [⟨r, b⟩], next b⟩ hd with rfl | hd
    · rcases (hP.holds_turn mem_middle hfits hh).2 with rfl | hh
      · -- A release that does not fail leaves no claim.
        rcases ha.release with ⟨rfl, -⟩ | ⟨hno, -⟩
        · exact absurd hc ha.not_claimed_of_release
        · cases hno
      · exact ⟨_, mem_middle, hcon, hh⟩
    · exact ⟨d, hd, hcon, hh⟩
  · obtain ⟨hcon, hh⟩ := hP.holds_of_granted mem_middle hfits hgr
    exact ⟨_, mem_middle, hcon, hh⟩

/-- After a turn someone owes a message that is not stored: whoever asked for the claim and was refused relies on the
holder. -/
theorem Covered.exists_debtor (hP : Traced QueuedJob.program tb ⟨w, before ++ ⟨job, log, .ask r next⟩ :: after⟩)
    (hi : (tb.findInbox c.1).map Inbox.id = some inbox)
    (h : Covered tb inbox c ⟨w, before ++ ⟨job, log, .ask r next⟩ :: after⟩)
    (ha : w.Answers { writes := true } r b w') (hk : (inbox, c.2) ∉ w'.tables.keys) :
    ∃ d ∈ before ++ ⟨job, log ++ [⟨r, b⟩], next b⟩ :: after, tb.Contains d.job.job c ∧ d.Owes tb inbox c := by
  have hfits : Exchange.Fits tb ⟨r, b⟩ := ha.fits.congr hP.tenants.symm
  have hk₀ : (inbox, c.2) ∉ w.tables.keys := fun hk₀ => hk (ha.mem_keys hk₀)
  obtain ⟨d, hd, hcon, ho⟩ := h.owes.resolve_left hk₀
  rcases mem_turn ⟨job, log ++ [⟨r, b⟩], next b⟩ hd with rfl | hd
  · by_cases hs : Exchange.sought ⟨r, b⟩ = some c
    · obtain ⟨b', hx⟩ := Exchange.eq_tryClaim_of_sought hs
      cases hx
      obtain ⟨granted, rfl, -⟩ := ha.tryClaim
      cases granted with
      | true =>
        have hh := (hP.holds_of_granted (c := c) mem_middle hfits rfl).2
        exact ⟨_, mem_middle, hcon, (hP.step (.advance ha)).owes hi mem_middle hcon hh hk⟩
      | false =>
        obtain ⟨d', hd', hcon', hh'⟩ := (h.holder ha.claimed_of_denied).resolve_left hk₀
        have ho' := hP.owes hi hd' hcon' hh' hk₀
        rcases mem_turn ⟨job, log ++ [⟨.tryClaim c.1 c.2, .ok false⟩], next (.ok false)⟩ hd' with rfl | hd'
        · cases (hP.holds_turn mem_middle hfits hh').1
        · exact ⟨d', hd', hcon', ho'⟩
    · refine ⟨_, mem_middle, hcon, fun t out hy ht hdel => ?_⟩
      obtain ⟨y, hmem, hys⟩ := ho (⟨r, b⟩ :: t) out ⟨b, t, rfl, hy⟩ (List.forall_mem_cons.2 ⟨hfits, ht⟩) hdel
      rcases List.mem_cons.1 hmem with rfl | hmem
      · exact (hys.elim (fun hsh => hk (ha.shown hsh)) hs).elim
      · exact ⟨y, hmem, hys⟩
  · exact ⟨d, hd, hcon, ho⟩

theorem Covered.step (hP : P.Traced QueuedJob.program tb) (hi : (tb.findInbox c.1).map Inbox.id = some inbox)
    (h : P.Covered tb inbox c) (hs : Step { writes := true } P P') : P'.Covered tb inbox c := by
  cases hs with
  | lapse hle => exact ⟨fun hc => h.holder (hc.of_lapse hle), h.owes⟩
  | @advance w w' before after job log r b next ha =>
    by_cases hk : (inbox, c.2) ∈ w'.tables.keys
    · exact ⟨fun _ => .inl hk, .inl hk⟩
    · have hk₀ : (inbox, c.2) ∉ w.tables.keys := fun hk₀ => hk (ha.mem_keys hk₀)
      exact ⟨fun hc => .inr (h.exists_holder hP ha hk₀ hc), .inr (h.exists_debtor hP hi ha hk)⟩

theorem Covered.start {w : World} {jobs : List QueuedJob} {q : QueuedJob} (hclaims : ¬ w.Claimed c) (hq : q ∈ jobs)
    (hc : w.tables.Contains q.job c) (hi : (w.tables.findInbox c.1).map Inbox.id = some inbox) :
    (Pool.start w QueuedJob.program jobs).Covered w.tables inbox c := by
  refine ⟨fun h => absurd h hclaims, .inr ⟨_, List.mem_map.2 ⟨q, hq, rfl⟩, hc, ?_⟩⟩
  rintro t out hy ht ⟨report, hout, hs⟩
  obtain ⟨r, hret, hr⟩ := JobRunner.run_yields hy ht
  cases hr report hout
  exact (hret.attended hs hc hi).1

theorem Covered.reached {w : World} {jobs : List QueuedJob} (hi : (w.tables.findInbox c.1).map Inbox.id = some inbox)
    (h : (Pool.start w QueuedJob.program jobs).Covered w.tables inbox c)
    (hr : Reaches { writes := true } (Pool.start w QueuedJob.program jobs) P) : P.Covered w.tables inbox c := by
  induction hr with
  | refl => exact h
  | tail hr hs ih => exact ih.step ((Traced.start w _ jobs).reached hr) hi hs

end Pool

/-- If all runs of an accepted event were delivered then its message is stored. -/
theorem run_loses_no_event {w : World} {jobs : List QueuedJob} {P : Pool QueuedJob JobRunner.JobOutput}
    {q : QueuedJob} {m : InboundMessage}
    (h : Pool.Reaches { writes := true } (.start w QueuedJob.program jobs) P) (hq : q ∈ jobs)
    (hroute : w.tables.route q.job = .active target) (he : e ∈ target.events q.job) (ha : e.Accepted m)
    (hclaim : ¬ w.Claimed (target.channel.id, e.sourceId))
    (hdone : ∀ d ∈ P.deliveries, w.tables.Contains d.job.job (target.channel.id, e.sourceId) →
      ∃ out, d.result? = some out ∧ out.Delivered) :
    (target.inbox.id, e.sourceId) ∈ P.world.tables.keys := by
  have hi : (w.tables.findInbox target.channel.id).map Inbox.id = some target.inbox.id := by
    rw [Tables.findInbox_of_route hroute]
    rfl
  have hcov := (Pool.Covered.start hclaim hq
    ⟨target, e, m, hroute, he, ha, rfl⟩ hi).reached hi h
  rcases hcov.owes with hk | ⟨d, hd, hcon, ho⟩
  · exact hk
  · -- A delivery that is done owes nothing.
    obtain ⟨out, hres, hdel⟩ := hdone d hd hcon
    obtain ⟨x, hx, -⟩ := ho [] out (Delivery.result?_eq_some.1 hres ▸ ⟨rfl, rfl⟩) (by simp) hdel
    cases hx

/-- The first delivery fails and is retried after the second one has found its claim taken. -/
theorem interleaved_greetings_lose_nothing :
    ∃ P target e m, Pool.Reaches { writes := true }
        (.start Sample.world QueuedJob.program [⟨3, 1, Sample.greeting⟩, ⟨3, 2, Sample.greeting⟩]) P ∧
      (target, e, m) ∈ Sample.world.tables.accepted Sample.greeting ∧
      (∀ d ∈ P.deliveries, ∃ out, d.result? = some out ∧ out.Delivered) ∧
      (target.inbox.id, e.sourceId) ∈ P.world.tables.keys := by
  have hplay : (Pool.play { writes := true } [{ request := "message.create", error := MemoryStore.writeFailure }]
      (List.replicate 4 0 ++ List.replicate 4 1 ++ List.replicate 22 0)
      (.start Sample.world QueuedJob.program [⟨3, 1, Sample.greeting⟩, ⟨3, 2, Sample.greeting⟩])).any
      (·.deliveries.all fun d => d.result?.any fun out => out.Delivered) = true := by
    decide +kernel
  obtain ⟨P, h, hc⟩ := Pool.exists_play hplay
  have hdone : ∀ d ∈ P.deliveries, ∃ out, d.result? = some out ∧ out.Delivered := by
    intro d hd
    obtain ⟨out, hres, hdel⟩ := (Option.any_eq_true ..).1 (List.all_eq_true.1 hc d hd)
    exact ⟨out, hres, of_decide_eq_true hdel⟩
  have hsome : Sample.world.tables.accepted Sample.greeting ≠ [] := by
    have hlen : (Sample.world.tables.accepted Sample.greeting).length = 1 := by decide +kernel
    exact List.ne_nil_of_length_eq_add_one hlen
  obtain ⟨⟨target, e, m⟩, hmem⟩ := List.exists_mem_of_ne_nil _ hsome
  obtain ⟨hroute, he, ha⟩ := Tables.mem_accepted_iff.1 hmem
  refine ⟨P, target, e, m, h, hmem, hdone, ?_⟩
  exact run_loses_no_event h List.mem_cons_self hroute he ha (Sample.not_claimed _) fun d hd _ => hdone d hd

end Intake
