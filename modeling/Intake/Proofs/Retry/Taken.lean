import Intake.Proofs.Delivery.Attempts
import Intake.Proofs.Delivery.Perform
import Intake.Proofs.Retry.Carried
import Intake.Proofs.Retry.Known

/-!
# What a delivery does while failures come and go

A delivery takes its events in order, to the end or up to one whose message is refused (`Runs.performs`). What an
interrupted delivery leaves is made good by the next one, so attempts that failed make no difference to what the last
one leaves (`Runs.tried`, `Runs.completes`).
-/

namespace Intake

open Ingest

/-- Wherever the job goes, each of its events is made into one message at most. -/
def Tables.Singles (tb : Tables) (job : WebhookJob) : Prop :=
  ∀ target, tb.route job = .active target → ∀ e ∈ target.events job, e.Single

instance (tb : Tables) (job : WebhookJob) : Decidable (tb.Singles job) :=
  match h : tb.route job with
  | .active target =>
    decidable_of_iff (∀ e ∈ target.events job, e.Single)
      ⟨fun he _ hroute => Resolution.active.inj (h.symm.trans hroute) ▸ he, fun hs => hs target h⟩
  | .notFound | .inactive _ => isTrue fun _ hroute => nomatch h.symm.trans hroute

/-- A look-up of tenants failed, or a message was refused. -/
def Exchange.Failed (x : Exchange) : Prop := ¬ x.Read ∨ x.refused.isSome = true

namespace Ingest

/-- An event has an outcome if its plan is carried out, and otherwise something has failed. -/
inductive Ends (inbox : Inbox) (source : String) (plan : Plan) (tb tb' : Tables) (t : List Exchange) :
    Except DomainError EventOutcome → Prop
  | done {outcome : EventOutcome} : tb.Takes inbox source plan tb' → Ends inbox source plan tb tb' t (.ok outcome)
  | broken {e : DomainError} :
    tb.Halts inbox source plan tb' → (∃ x ∈ t, x.Failed) → Ends inbox source plan tb tb' t (.error e)

variable {inbox : Inbox} {source : String} {plan : Plan} {tb tb' : Tables} {t t' : List Exchange}
  {r : Except DomainError EventOutcome}

theorem Ends.mono (h : Ends inbox source plan tb tb' t r) (ht : t ⊆ t') : Ends inbox source plan tb tb' t' r := by
  cases h with
  | done h => exact .done h
  | broken h hx =>
    obtain ⟨x, hx, hf⟩ := hx
    exact .broken h ⟨x, ht hx, hf⟩

end Ingest

namespace World.Runs

variable {fetch : Channel → MediaDescriptor → Option FetchedMedia} {w w' : World} {t : List Exchange}
  {target : ResolvedChannel} {source : String} {m : InboundMessage} {new : NewContact} {e : IncomingEvent}

/-! ## Events -/

theorem writes {d : Draft} {r : Except DomainError EventOutcome} (hr : w.Runs (.flaky fetch) t w')
    (h : (write source [d]).run.Yields t r) (hd : d.message.record = d.message)
    (hk : d.key ∉ w.tables.recorded.keys) :
    (∃ outcome, r = .ok outcome ∧ w'.tables.recorded = w.tables.recorded.addDraft d) ∨
      ∃ e, r = .error e ∧ w'.tables.recorded = w.tables.recorded ∧ ∃ x ∈ t, x.Failed := by
  cases write_cases h with
  | beaten =>
    rcases hr.createMessage with ⟨-, ⟨e, -, hrefused⟩ | hmem⟩ | ⟨heq, -⟩
    · cases hrefused
    · exact absurd hmem hk
    · cases heq
  | refused hrefused =>
    rcases hr.createMessage with ⟨hsame, -⟩ | ⟨heq, -⟩
    · exact .inr ⟨_, rfl, hsame, _, List.mem_cons_self, .inr (by rw [hrefused]; rfl)⟩
    · cases heq
  | written ha hrest =>
    obtain ⟨rfl, rfl⟩ := hrest
    rw [List.append_nil] at hr
    obtain ⟨w₁, hr₁, hr₂⟩ := hr.head
    rcases hr₁.createMessage with ⟨-, ⟨e, heq, -⟩ | hmem⟩ | ⟨-, hwritten⟩
    · cases heq
    · exact absurd hmem hk
    · refine .inl ⟨_, rfl, ?_⟩
      rw [hr₂.attaches ha, hwritten, hd]
      rfl

theorem persists {r : Except DomainError EventOutcome} (hr : w.Runs (.flaky fetch) t w')
    (h : (persist target source m new).run.Yields t r) (hm : m.Single) (hroot : w.tables.recorded.Rooted) :
    Ends target.inbox source (.message new (letter (fetch target.channel) m)) w.tables.recorded w'.tables.recorded t
      r := by
  cases persist_cases h with
  | unread =>
    obtain ⟨_, heq, -⟩ := hr.findMessage
    cases heq
  | found =>
    obtain ⟨_, heq, hfound, hsame⟩ := hr.findMessage
    cases heq
    rw [hsame]
    exact .done (.stored (hfound.1 rfl))
  | unlinked =>
    obtain ⟨w₁, hr₁, hr₂⟩ := hr.head
    obtain ⟨_, -, -, hsame₁⟩ := hr₁.findMessage
    obtain ⟨_, heq, -⟩ := hr₂.links (hsame₁ ▸ hroot)
    cases heq
  | unjoined hj =>
    obtain ⟨w₁, -, hr₂⟩ := hr.head
    obtain ⟨w₂, -, hr₃⟩ := hr₂.head
    obtain ⟨_, heq, -⟩ := hr₃.joins hj
    cases heq
  | @drafted c v ds t₁ t₂ t₃ _ hj hd hw =>
    obtain ⟨hk, w₁, w₂, hr₁, hready, hr₂⟩ :=
      hr.readies hroot hj ((drafts_supplies (drafter_supplies _ _ _ _) ..).mem hd)
    obtain ⟨d, rfl, hconveys⟩ := drafts_conveys hm hd hr₁.fetched
    obtain ⟨id, time, hmessage⟩ := hconveys.message
    have hkey : d.key = (target.inbox.id, source) := by
      rw [Draft.key, hmessage]
      rfl
    rcases hr₂.writes hw (by rw [hmessage]; rfl) (by rw [hkey, hready.keys]; exact hk) with
      ⟨outcome, rfl, hwritten⟩ | ⟨e, rfl, hsame, x, hx, hf⟩
    · rw [hwritten]
      exact .done (.written hk hready hconveys)
    · rw [hsame]
      exact .broken ⟨hk, hready⟩ ⟨x, by simp [hx], hf⟩

theorem handles {r : Except DomainError EventOutcome} (hr : w.Runs (.flaky fetch) t w')
    (h : (handleEvent target e).run.Yields t r) (he : e.Single) (hx : ∀ x ∈ t, x.Heeds fun _ => False)
    (hroot : w.tables.recorded.Rooted) :
    Ends target.inbox e.sourceId (plan target fetch e) w.tables.recorded w'.tables.recorded t r := by
  have hidle {outcome : EventOutcome} (hp : plan target fetch e = .nothing)
      (hsame : w'.tables.recorded = w.tables.recorded) :
      Ends target.inbox e.sourceId (plan target fetch e) w.tables.recorded w'.tables.recorded t (.ok outcome) := by
    rw [hp, hsame]
    exact .done .nothing
  cases handleEvent_cases h with
  | unfit hb ha => exact hidle (by rw [plan, hb]; dsimp only; rw [ha]) (hr.recorded_eq (by simp))
  | @claimed m new _ _ hb ha hc =>
    have hplan : plan target fetch e = .message new (letter (fetch target.channel) m) := by
      rw [plan, hb]
      dsimp only
      rw [ha]
    cases hc with
    -- No claim is live, so the one that is asked for is granted.
    | failed =>
      obtain ⟨_, heq, -⟩ := hx _ List.mem_cons_self
      cases heq
    | denied =>
      obtain ⟨_, heq, hgranted⟩ := hx _ List.mem_cons_self
      cases heq
      cases hgranted.2 not_false
    | granted hp =>
      obtain ⟨w₁, hr₁, hr₂⟩ := hr.head
      obtain ⟨w₂, hr₂, hr₃⟩ := hr₂.split
      have hsame₁ := hr₁.recorded_eq (by simp [Request.addsRows])
      have hsame₃ := hr₃.recorded_eq (by simp [Request.addsRows])
      rw [hplan, ← hsame₁, hsame₃]
      refine (hr₂.persists hp (he m hb) (hsame₁ ▸ hroot)).mono fun x hx => ?_
      exact List.mem_cons_of_mem _ (List.mem_append_left _ hx)
  | reported hb h' =>
    refine hidle (by rw [plan, hb]) (hr.recorded_eq fun x hx => ?_)
    exact Request.addsRows_of_isFollowUp ((reconcile_asks ..).mem h' x hx)
  | announced hb h' =>
    cases resolveCard_yields h' with
    | missing hs => exact hidle (by rw [plan, hb, hs]; rfl) (hr.recorded_eq (by simp))
    | refused hs =>
      obtain ⟨_, heq, -⟩ := hr.links hroot
      cases heq
    | @resolved new _ hs =>
      obtain ⟨_, heq, hlinks⟩ := hr.links hroot
      have hplan : plan target fetch e = .contact new := by
        rw [plan, hb, hs]
        rfl
      rw [hplan]
      exact .done (.contact hlinks)

theorem handlesAll {es : List IncomingEvent} {r : Except DomainError (List EventOutcome)}
    (hr : w.Runs (.flaky fetch) t w') (h : (handleEvents target es).run.Yields t r) (hes : ∀ e ∈ es, e.Single)
    (hx : ∀ x ∈ t, x.Heeds fun _ => False) (hroot : w.tables.recorded.Rooted) :
    (∃ outcomes, r = .ok outcomes ∧ Tables.TakesAll target fetch es w.tables.recorded w'.tables.recorded) ∨
      ∃ e, r = .error e ∧ Tables.HaltsIn target fetch es w.tables.recorded w'.tables.recorded ∧ ∃ x ∈ t, x.Failed := by
  induction es generalizing w t r with
  | nil =>
    obtain ⟨rfl, rfl⟩ := h
    rw [hr.recorded_eq (by simp)]
    exact .inl ⟨[], rfl, .nil⟩
  | cons e es ih =>
    obtain ⟨he, hes⟩ := List.forall_mem_cons.1 hes
    rcases handleEvents_cons h with ⟨error, h₁, rfl⟩ | ⟨t₁, outcome, t₂, rest, rfl, h₁, h₂, rfl⟩
    · cases hr.handles h₁ he hx hroot with
      | broken hhalts hf => exact .inr ⟨error, rfl, .here hhalts, hf⟩
    obtain ⟨hx₁, hx₂⟩ := List.forall_mem_append.1 hx
    obtain ⟨w₁, hr₁, hr₂⟩ := hr.split
    cases hr₁.handles h₁ he hx₁ hroot with
    | done htakes =>
      rcases ih hr₂ h₂ hes hx₂ (htakes.rooted hroot) with ⟨outcomes, rfl, hrest⟩ | ⟨error, rfl, hrest, x, hmem, hf⟩
      · exact .inl ⟨_, rfl, .cons htakes hrest⟩
      · exact .inr ⟨error, rfl, .later htakes hrest, x, List.mem_append_right _ hmem, hf⟩

/-! ## Deliveries -/

variable {tb : Tables} {job : WebhookJob}

theorem performs {r : Except DomainError IngestReport} (hr : w.Runs (.flaky fetch) t w')
    (h : (perform job).run.Yields t r) (hfits : ∀ x ∈ t, x.Fits tb) (hjob : tb.Singles job)
    (hx : ∀ x ∈ t, x.Heeds fun _ => False) (hroot : w.tables.recorded.Rooted) :
    (∃ report, r = .ok report ∧ (tb.route job).Does fetch job w.tables.recorded w'.tables.recorded) ∨
      ∃ e, r = .error e ∧ (tb.route job).Breaks fetch job w.tables.recorded w'.tables.recorded ∧
        ∃ x ∈ t, x.Failed := by
  obtain ⟨q, t', res, rfl, hq, hres⟩ := perform_resolves h
  obtain ⟨w₁, hr₁, hr₂⟩ := hr.split
  have hsame : w₁.tables = w.tables := hr₁.tables_of_lookups ((Routing.resolve_lookups job).mem hq)
  rcases hres with ⟨e, rfl, rfl, rfl⟩ | ⟨resolution, rfl, h'⟩
  · obtain ⟨x, hx, hf⟩ := Routing.resolve_not_read hq
    obtain ⟨now, rfl⟩ := hr₂.nil_eq
    refine .inr ⟨e, rfl, ?_, x, List.mem_append_left _ hx, .inl hf⟩
    change Resolution.Breaks _ _ _ w₁.tables.recorded _
    rw [hsame]
    exact .refl ..
  obtain ⟨hfits, -⟩ := List.forall_mem_append.1 hfits
  obtain rfl := Routing.resolve_yields hq hfits
  obtain ⟨-, hx⟩ := List.forall_mem_append.1 hx
  rw [← hsame] at hroot ⊢
  unfold Tables.Singles at hjob
  generalize hroute : tb.route job = resolution at h' hjob
  cases resolution with
  | active target =>
    rcases Attempt.yields_bind.1 h' with ⟨e, h₁, rfl⟩ | ⟨t₁, outcomes, t₂, rfl, h₁, rfl, rfl⟩
    · rcases hr₂.handlesAll h₁ (hjob target rfl) hx hroot with ⟨_, heq, -⟩ | ⟨_, heq, hhalts, x, hmem, hf⟩
      · cases heq
      · exact .inr ⟨e, rfl, .inr hhalts, x, List.mem_append_right _ hmem, hf⟩
    · rw [List.append_nil] at hr₂ hx
      rcases hr₂.handlesAll h₁ (hjob target rfl) hx hroot with ⟨_, -, htakes⟩ | ⟨_, heq, -⟩
      · exact .inl ⟨_, rfl, htakes⟩
      · cases heq
  | notFound | inactive =>
    obtain ⟨rfl, rfl⟩ := h'
    exact .inl ⟨_, rfl, hr₂.recorded_eq (by simp)⟩

/-- Attempts that failed make no difference to what the last one leaves. -/
theorem tried {u : Tables} (ht : JobRunner.Tried (perform job) t) (hr : w.Runs (.flaky fetch) t w')
    (hfits : ∀ x ∈ t, x.Fits tb) (hjob : tb.Singles job) (hx : ∀ x ∈ t, x.Heeds fun _ => False)
    (hroot : w.tables.recorded.Rooted) :
    w'.tables.recorded.Rooted ∧
      ((tb.route job).Does fetch job w'.tables.recorded u → u.Spread →
        (tb.route job).Does fetch job w.tables.recorded u) := by
  induction ht generalizing w with
  | nil =>
    rw [hr.recorded_eq (by simp)]
    exact ⟨hroot, fun h _ => h⟩
  | cons h _ _ ih =>
    obtain ⟨w₁, hr₁, hr₂⟩ := hr.split
    obtain ⟨now, w₂, hd, hr₃⟩ := hr₂.cons
    obtain ⟨hfits₁, hfits₂⟩ := List.forall_mem_append.1 hfits
    obtain ⟨hx₁, hx₂⟩ := List.forall_mem_append.1 hx
    have hsame : w₂.tables.recorded = w₁.tables.recorded := hd.recorded_eq rfl
    rcases hr₁.performs h hfits₁ hjob hx₁ hroot with ⟨_, heq, -⟩ | ⟨_, -, hbreaks, -⟩
    · cases heq
    obtain ⟨hroot', hlater⟩ :=
      ih hr₃ (List.forall_mem_cons.1 hfits₂).2 (List.forall_mem_cons.1 hx₂).2 (hsame ▸ hbreaks.rooted hroot)
    exact ⟨hroot', fun hu hs => hbreaks.does (hsame ▸ hlater hu hs) hs⟩

/-- A run that is completed has done what one delivery does. -/
theorem completes {maxAttempts line : Nat} {out : JobRunner.JobOutput} {report : IngestReport}
    (hr : w.Runs (.flaky fetch) t w') (h : (JobRunner.run maxAttempts line job).Yields t out)
    (hout : out.result = .completed report) (hfits : ∀ x ∈ t, x.Fits tb) (hjob : tb.Singles job)
    (hx : ∀ x ∈ t, x.Heeds fun _ => False) (hroot : w.tables.recorded.Rooted) (hs : w'.tables.recorded.Spread) :
    (tb.route job).Does fetch job w.tables.recorded w'.tables.recorded := by
  obtain ⟨before, last, rfl, hbefore, hlast⟩ := JobRunner.run_tried h hout
  obtain ⟨w₁, hr₁, hr₂⟩ := hr.split
  obtain ⟨hfits₁, hfits₂⟩ := List.forall_mem_append.1 hfits
  obtain ⟨hx₁, hx₂⟩ := List.forall_mem_append.1 hx
  obtain ⟨hroot₁, htried⟩ := hr₁.tried hbefore hfits₁ hjob hx₁ hroot
  rcases hr₂.performs hlast hfits₂ hjob hx₂ hroot₁ with ⟨_, -, hdoes⟩ | ⟨_, heq, -⟩
  · exact htried hdoes hs
  · cases heq

end World.Runs

end Intake
