import Intake.Proofs.Report.Attempts
import Intake.Proofs.Retry.Matching
import Intake.Proofs.Retry.Taken
import Intake.Proofs.Tenants.Commute

/-!
# Retrying comes to the same as not failing

A run that is completed in the end, however often look-ups and writes failed on the way, leaves the tables as one
delivery does that nothing fails for, up to ids, moments and the status of messages (`run_like_perform`). Both have
taken all events, the one in several goes; and what taking them does is determined up to ids.
-/

namespace Intake

open Ingest

/-- The same world when nothing is about to fail. -/
def World.calmed (w : World) : World :=
  { w with store := { w.store with failingLookups := 0, failingWrites := 0 } }

theorem World.calmed_calm (w : World) : w.calmed.Calm := ⟨rfl, rfl⟩

namespace Tables

theorem recorded_made (t : Tables) : t.recorded.made = t.made := by
  simp only [made, recorded, records, List.map_map]
  rfl

theorem Integrity.rooted {t : Tables} (h : t.Integrity) : t.recorded.Rooted := by
  intro l hl
  obtain ⟨i, -, c, hc, -, hid, -⟩ := h.contactInboxes l hl
  exact ⟨c, hc, hid⟩

theorem Coherent.recorded {t : Tables} (h : t.Coherent) : t.recorded.Coherent := by
  have hadds : t.Adds {} t.recorded := by
    refine .of_core_eq ?_
    simp only [core, Tables.recorded, records, List.map_map]
    rfl
  exact h.adds_unlinked hadds (empty_fits _) rfl rfl

end Tables

theorem World.Bears.spread {w : World} {held : Multiset Snowflake} (h : w.Bears held) : w.tables.recorded.Spread := by
  refine ⟨?_, h.kept.nodup⟩
  rw [Tables.recorded_made]
  exact Multiset.nodup_of_le (Multiset.le_add_left _ _) h.made.nodup

namespace World

variable {fetch : Channel → MediaDescriptor → Option FetchedMedia} {w w' : World} {job : WebhookJob}
  {t : List Exchange}

theorem Runs.heeds_none {o : Conditions} (hr : w.Runs o t w') (ho : o.SparesGuard) (httl : 0 < w.guard.ttl)
    (ht : Bracketed none t none) (hclaims : ∀ c, ¬ w.Claimed c) : ∀ x ∈ t, x.Heeds fun _ => False := by
  have hnone : w.Claimed = fun _ => False := funext fun c => propext ⟨hclaims c, False.elim⟩
  exact hnone ▸ hr.heeds ho httl ht fun c hc => absurd hc (hclaims c)

theorem Performs.does {r : Except DomainError IngestReport} (h : w.Performs fetch job t r w') (hw : w.Calm)
    (httl : 0 < w.guard.ttl) (hclaims : ∀ c, ¬ w.Claimed c) (hjob : w.tables.Singles job)
    (hroot : w.tables.recorded.Rooted) :
    (∃ report, r = .ok report) ∧ (w.tables.route job).Does fetch job w.tables.recorded w'.tables.recorded := by
  have hx := h.runs.heeds_none (Conditions.calm_sparesGuard fetch) httl h.bracketed hclaims
  rcases h.runs.flaky.performs h.yields h.runs.fits hjob hx hroot with ⟨report, rfl, hdoes⟩ | ⟨_, -, -, x, hx, hf⟩
  · exact ⟨⟨report, rfl⟩, hdoes⟩
  · rcases hf with hf | hf
    · exact absurd (h.runs.read hw x hx) hf
    · rw [h.runs.accepted hw x hx] at hf
      cases hf

end World

/-- A job without events of several messages is run by itself in a store that came about from nothing and where no claim
is live, while look-ups of tenants and writes of messages fail now and then. If the run is completed, its contacts,
links, conversations, messages and attachments are those of a single delivery of the job from the same state that
nothing fails for, in the same order, up to a renaming of the ids that were made (`Renaming.rows` says that it keeps
those that were there), the moments of creation and the status of messages (`Tables.recorded`). The bounds leave the ids
room, as for `Pool.reached_integrity`; that there is such a delivery is `World.exists_runs`. -/
theorem run_like_perform {n : Nat} {P : Pool WebhookJob (Except DomainError IngestReport)}
    {fetch : Channel → MediaDescriptor → Option FetchedMedia} {maxAttempts line : Nat} {job : WebhookJob}
    {t tc : List Exchange} {out : JobRunner.JobOutput} {report : IngestReport} {rc : Except DomainError IngestReport}
    {w' wc : World} (h : Pool.Reached n P) (hclaims : ∀ c, ¬ P.world.Claimed c)
    (hjob : P.world.tables.Singles job) (hy : (JobRunner.run maxAttempts line job).Yields t out)
    (hr : P.world.Runs (.flaky fetch) t w') (hout : out.result = .completed report)
    (hc : P.world.calmed.Performs fetch job tc rc wc) (hn : n + t.length ≤ 2 ^ 51) (hnc : n + tc.length ≤ 2 ^ 51) :
    (∃ report', rc = .ok report') ∧
      ∃ ρ : Renaming, ρ.OneToOne ∧ .rows P.world.tables ≤ ρ ∧ w'.tables.recorded.Like ρ wc.tables.recorded := by
  have hrange : w'.InRange := (hr.ahead h.ahead).inRange (by omega)
  have hrangec : wc.InRange := (hc.runs.ahead (w := P.world.calmed) h.ahead).inRange (by omega)
  have hb := (h.inOrder (hr.inRange hrange)).bears
  have hroot := hb.integrity.rooted
  have hspread : w'.tables.recorded.Spread :=
    (hr.bears hy (JobRunner.run_guided hb.distinctIds) hb hrange).spread
  have hspreadc : wc.tables.recorded.Spread :=
    (hc.runs.bears hc.yields (perform_guided hb.distinctIds) (hb.congr rfl rfl rfl) hrangec).spread
  -- Both take all events, the one delivery since nothing fails and the run with its last attempt.
  obtain ⟨hreport, hdoesc⟩ := hc.does P.world.calmed_calm h.ttl_pos hclaims hjob hroot
  obtain ⟨_, hretried, -⟩ := JobRunner.run_yields hy hr.fits
  have hx := hr.heeds_none (Conditions.flaky_sparesGuard fetch) h.ttl_pos hretried.bracketed hclaims
  have hdoes := hr.completes hy hout hr.fits hjob hx hroot hspread
  obtain ⟨ρ, hone, hle, hlike⟩ := hdoes.like hdoesc hb.coherent.recorded hspread hspreadc
  refine ⟨hreport, ρ, hone, ⟨fun i j hij => hle.1 i j hij, fun i j hij => hle.2 i j ⟨hij.1, ?_⟩⟩, hlike⟩
  rw [Tables.recorded_made]
  exact hij.2

namespace Sample

/-- A greeting and a picture in one delivery. -/
def snapshot : WebhookJob :=
  (WebhookJob.ofPayload (.object
    [("messages", .array
        [entry "wamid.3" "text" (.object [("body", .string "hello")]),
          entry "wamid.4" "image" (.object [("id", .string "media.2")])])])).withPhoneNumber "15550001"

def album (_ : Channel) (_ : MediaDescriptor) : Option FetchedMedia := some ⟨"picture.png", "image/png", [2]⟩

/-- First the tenant cannot be looked up, then the picture's message is refused. -/
def snapshotFaults : List Fault :=
  [{ request := "channel.find_by_phone_number", error := MemoryStore.lookupFailure },
    { request := "message.create", skip := 1, error := MemoryStore.writeFailure }]

end Sample

/-- The third attempt finds the greeting stored by the second one, and its sender, and adds the picture. -/
theorem interrupted_snapshot_alike : ∃ n P t out report w' tc rc wc, Pool.Reached n P ∧ (∀ c, ¬ P.world.Claimed c) ∧
    P.world.tables.Singles Sample.snapshot ∧ (JobRunner.run 3 1 Sample.snapshot).Yields t out ∧
    P.world.Runs (.flaky Sample.album) t w' ∧ out.result = .completed report ∧
    P.world.calmed.Performs Sample.album Sample.snapshot tc rc wc ∧
    (n + t.length ≤ 2 ^ 51 ∧ n + tc.length ≤ 2 ^ 51) ∧
    (out.attempts = 3 ∧ w'.tables.messages.length = P.world.tables.messages.length + 2 ∧
      w'.tables.attachments.length = P.world.tables.attachments.length + 1 ∧
      w'.tables.messages.map (·.id) ≠ wc.tables.messages.map (·.id)) ∧
    (∃ report', rc = .ok report') ∧
      ∃ ρ : Renaming, ρ.OneToOne ∧ .rows P.world.tables ≤ ρ ∧ w'.tables.recorded.Like ρ wc.tables.recorded := by
  have hplay : (Pool.play? Sample.pictureMoves Sample.pool).any (fun P =>
      ((Replay.flaky Sample.album).run? Sample.snapshotFaults (JobRunner.run 3 1 Sample.snapshot)
          P.world).any fun run =>
        (Sample.carry? Sample.album Sample.snapshot P.world.calmed).any fun clean => decide
          ((P.world.guard.claims = [] ∧ P.world.tables.Singles Sample.snapshot) ∧
            run.2.1.Delivered ∧
            (run.1.length ≤ 2 ^ 50 ∧ clean.2.1.length ≤ 2 ^ 50) ∧
            run.2.1.attempts = 3 ∧ run.2.2.tables.messages.length = P.world.tables.messages.length + 2 ∧
            run.2.2.tables.attachments.length = P.world.tables.attachments.length + 1 ∧
            run.2.2.tables.messages.map (·.id) ≠ clean.2.2.2.tables.messages.map (·.id))) = true := by
    decide +kernel
  obtain ⟨P, hp, hruns⟩ := (Option.any_eq_true ..).1 hplay
  obtain ⟨⟨t, out, w'⟩, hrun, hcleans⟩ := (Option.any_eq_true ..).1 hruns
  obtain ⟨⟨_, tc, rc, wc⟩, hclean, hcheck⟩ := (Option.any_eq_true ..).1 hcleans
  obtain ⟨⟨hnil, hjob⟩, ⟨report, hout, -⟩, ⟨hlength, hlengthc⟩, hshown⟩ := of_decide_eq_true hcheck
  obtain ⟨hy, hr⟩ := World.runs_of_flaky hrun
  obtain ⟨-, hc⟩ := Sample.performs_of_carry? hclean
  have hclaims := World.not_claimed_of_nil hnil
  obtain ⟨n, hn, h⟩ := Sample.pool_reached.play hp
  have hmoves : Sample.pictureMoves.length = 35 := by decide
  have hbound : n + t.length ≤ 2 ^ 51 := by
    have ht : t.length ≤ 2 ^ 50 := hlength
    omega
  have hboundc : n + tc.length ≤ 2 ^ 51 := by
    have ht : tc.length ≤ 2 ^ 50 := hlengthc
    omega
  exact ⟨n, P, t, out, report, w', tc, rc, wc, h, hclaims, hjob, hy, hr, hout, hc, ⟨hbound, hboundc⟩, hshown,
    run_like_perform h hclaims hjob hy hr hout hc hbound hboundc⟩

end Intake
