import Intake.Proofs.Delivery.Attempts
import Intake.Proofs.Report.Truth
import Intake.Proofs.World.Flaky

/-!
# Reports of repeated deliveries

The report of a run is that of its last attempt, which knows nothing of the attempts before. What these have written
before they failed is stored, and found there by the last one, so it is not in the report (`run_reports_all_iff`).
-/

namespace Intake

/-- The messages that a run has added are those that its failed attempts have written, and then those that the report
lists. So the report lists them all exactly if no failed attempt has written any. -/
theorem run_reports_all_iff {maxAttempts line : Nat} {job : WebhookJob} {o : Conditions} {w w' : World}
    {t : List Exchange} {out : JobRunner.JobOutput} {report : IngestReport}
    (h : (JobRunner.run maxAttempts line job).Yields t out) (hr : w.Runs o t w')
    (hout : out.result = .completed report) :
    ∃ before last, t = before ++ last ∧ JobRunner.Tried (perform job) before ∧
      (perform job).run.Yields last (.ok report) ∧
      w'.tables.messages.map (·.id) =
        w.tables.messages.map (·.id) ++ (writtenMessages before).map (·.id) ++ report.createdMessages ∧
      (w'.tables.messages.map (·.id) = w.tables.messages.map (·.id) ++ report.createdMessages ↔
        writtenMessages before = []) := by
  obtain ⟨before, last, rfl, hbefore, hlast⟩ := JobRunner.run_tried h hout
  have hids : w'.tables.messages.map (·.id) =
      w.tables.messages.map (·.id) ++ (writtenMessages before).map (·.id) ++ report.createdMessages := by
    rw [hr.messageIds, writtenMessages_append, List.map_append, perform_counts hlast, List.append_assoc]
  refine ⟨before, last, rfl, hbefore, hlast, hids, ?_⟩
  rw [hids, List.append_left_inj, List.append_right_eq_self, List.map_eq_nil_iff]

namespace Sample

/-- Two greetings in one delivery. -/
def greetings : WebhookJob :=
  (WebhookJob.ofPayload (.object
    [("messages", .array
        [entry "wamid.1" "text" (.object [("body", .string "hello")]),
          entry "wamid.2" "text" (.object [("body", .string "hello again")])])])).withPhoneNumber "15550001"

/-- Whether a job whose writes fail as the faults say is completed, with attempts and a report that check out. -/
def reports (faults : List Fault) (job : WebhookJob) (check : Nat → IngestReport → World → Bool) : Bool :=
  ((Replay.flaky fun _ _ => none).run? faults (JobRunner.run 3 1 job) world).any fun (_, out, w') =>
    match out.result with
    | .completed report => check out.attempts report w'
    | .failed _ => false

theorem exists_report {faults : List Fault} {job : WebhookJob} {check : Nat → IngestReport → World → Bool}
    (h : reports faults job check = true) :
    ∃ t out report w', (JobRunner.run 3 1 job).Yields t out ∧ world.Runs (.flaky fun _ _ => none) t w' ∧
      out.result = .completed report ∧ check out.attempts report w' = true := by
  obtain ⟨⟨t, out, w'⟩, hrun, hc⟩ := (Option.any_eq_true ..).1 h
  obtain ⟨hy, hr⟩ := World.runs_of_flaky hrun
  dsimp only at hc
  split at hc
  · next report hout => exact ⟨t, out, report, w', hy, hr, hout, hc⟩
  · cases hc

end Sample

/-- The first greeting is refused once. The failed attempt has written nothing, and the report lists both. -/
theorem refused_greetings_reported : ∃ t out report w', (JobRunner.run 3 1 Sample.greetings).Yields t out ∧
    Sample.world.Runs (.flaky fun _ _ => none) t w' ∧ out.result = .completed report ∧
    (out.attempts = 2 ∧ report.createdMessages.length = 2) ∧
    ∃ before last, t = before ++ last ∧ JobRunner.Tried (perform Sample.greetings) before ∧
      (perform Sample.greetings).run.Yields last (.ok report) ∧ writtenMessages before = [] := by
  have hplay : Sample.reports [{ request := "message.create", error := MemoryStore.writeFailure }] Sample.greetings
      (fun attempts report w' => decide ((attempts = 2 ∧ report.createdMessages.length = 2) ∧
        w'.tables.messages.map (·.id) = Sample.world.tables.messages.map (·.id) ++ report.createdMessages)) = true := by
    decide +kernel
  obtain ⟨t, out, report, w', hy, hr, hout, hcheck⟩ := Sample.exists_report hplay
  obtain ⟨hcounts, hids⟩ := of_decide_eq_true hcheck
  obtain ⟨before, last, rfl, hbefore, hlast, -, hiff⟩ := run_reports_all_iff hy hr hout
  exact ⟨_, out, report, w', hy, hr, hout, hcounts, before, last, rfl, hbefore, hlast, hiff.1 hids⟩

/-- The second greeting is refused once: the retry finds the first one stored, and does not report it. -/
theorem interrupted_greetings_underreported : ∃ t out report w', (JobRunner.run 3 1 Sample.greetings).Yields t out ∧
    Sample.world.Runs (.flaky fun _ _ => none) t w' ∧ out.result = .completed report ∧
    Sample.world.tables.messages = [] ∧ w'.tables.messages.length = 2 ∧
    ∃ m ∈ w'.tables.messages, m.id ∉ report.createdMessages := by
  have hplay : Sample.reports [{ request := "message.create", skip := 1, error := MemoryStore.writeFailure }]
      Sample.greetings (fun _ report w' => decide (Sample.world.tables.messages = [] ∧
        w'.tables.messages.length = 2 ∧ ∃ m ∈ w'.tables.messages, m.id ∉ report.createdMessages)) = true := by
    decide +kernel
  obtain ⟨t, out, report, w', hy, hr, hout, hcheck⟩ := Sample.exists_report hplay
  exact ⟨t, out, report, w', hy, hr, hout, of_decide_eq_true hcheck⟩

end Intake
