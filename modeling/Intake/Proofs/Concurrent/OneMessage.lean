import Intake.Proofs.Delivery.Perform
import Intake.Proofs.World.Play
import Mathlib.Data.List.Nodup

/-!
# One message for each source id

Deliveries may take turns in any order, claims may expire at any moment and writes may fail: no inbox ever holds two
messages of one source id, no message goes, and at most one report says that the message was created. A report says so
only of what its delivery wrote (`Performed.created_le`), and a key is written at most once.
-/

namespace Intake

variable {tb : Tables} {job : WebhookJob} {target : ResolvedChannel} {t : List Exchange}

/-- The source ids of the messages that a report says were created in an inbox. -/
def Tables.createdIn (tb : Tables) (inbox : Snowflake) (report : IngestReport) : List String :=
  if (report.channel.bind tb.findInbox).map Inbox.id = some inbox then
    report.outcomes.filterMap EventOutcome.created?
  else []

namespace Ingest

theorem Handled.created_le {e : IncomingEvent} {outcome : EventOutcome} (h : Handled target e t (.ok outcome))
    (source : String) :
    (outcome.created?.toList).count source ≤ writeCount (target.inbox.id, source) t := by
  cases hc : outcome.created? with
  | none => exact Nat.zero_le _
  | some id =>
    by_cases hid : id = source
    · subst hid
      have hpos : 0 < writeCount (target.inbox.id, id) t := by
        cases h with
        | quiet _ _ hn =>
          rw [hn] at hc
          cases hc
        | denied => cases hc
        | granted _ hp =>
          cases outcome with
          | messageCreated id' =>
            cases hc
            obtain ⟨rfl, x, hx, hw⟩ := hp.written
            exact writeCount_pos (List.mem_cons_of_mem _ (List.mem_append_left _ hx)) hw
          | _ => cases hc
      rw [Option.toList_some, List.count_singleton_self]
      exact hpos
    · rw [Option.toList_some, List.count_singleton, if_neg (by simpa using hid)]
      exact Nat.zero_le _

theorem HandledAll.created_le {es : List IncomingEvent} {outcomes : List EventOutcome}
    (h : HandledAll target es t (.ok outcomes)) (source : String) :
    (outcomes.filterMap EventOutcome.created?).count source ≤ writeCount (target.inbox.id, source) t := by
  generalize hr : (Except.ok outcomes : Except DomainError _) = r at h
  -- The events have exchanges of their own, one after another, so their writes add up.
  induction h generalizing outcomes with
  | nil =>
    cases hr
    exact Nat.zero_le _
  | stopped | stoppedLater => cases hr
  | @cons e es t t' outcome outcomes he _ ih =>
    cases hr
    have hsplit : (outcome :: outcomes).filterMap EventOutcome.created? =
        outcome.created?.toList ++ outcomes.filterMap EventOutcome.created? := by
      rw [List.filterMap_cons]
      cases outcome.created? <;> rfl
    rw [hsplit, List.count_append, writeCount_append]
    exact Nat.add_le_add (he.created_le source) (ih rfl)

end Ingest

/-- A report claims only messages that its delivery wrote. -/
theorem Performed.created_le {report : IngestReport} (h : Performed tb job t (.ok report)) (inbox : Snowflake)
    (source : String) : (tb.createdIn inbox report).count source ≤ writeCount (inbox, source) t := by
  cases h with
  | skipped => exact Nat.zero_le _
  | @handled q t target outcomes hq hroute hall =>
    rw [Tables.createdIn, IngestReport.ofChannel, Option.bind_some, Tables.findInbox_of_route hroute, Option.map_some]
    split
    · next hi =>
      obtain rfl : target.inbox.id = inbox := Option.some.inj hi
      rw [writeCount_append]
      exact Nat.le_add_left_of_le (hall.created_le source)
    · exact Nat.zero_le _

namespace Pool

variable {o : Outage} {P : Pool WebhookJob (Except DomainError IngestReport)}

def reports {ι : Type} (P : Pool ι (Except DomainError IngestReport)) : List IngestReport :=
  P.results.filterMap Except.toOption

theorem Traced.created_le (h : P.Traced (fun job => (perform job).run) tb) (inbox : Snowflake) (source : String) :
    (P.reports.flatMap (tb.createdIn inbox)).count source ≤ P.writes (inbox, source) := by
  have hreport : ∀ d ∈ P.deliveries, ∀ report, d.result? = some (.ok report) →
      (tb.createdIn inbox report).count source ≤ writeCount (inbox, source) d.log := by
    intro d hd report hr
    have hy : (perform d.job).run.Yields d.log (.ok report) := by
      have hreach := h.reaches d hd
      rw [Delivery.result?_eq_some.1 hr] at hreach
      simpa using hreach.yields ⟨rfl, rfl⟩
    exact (perform_yields hy (h.fits d hd)).created_le inbox source
  rw [reports, results, writes]
  generalize P.deliveries = ds at hreport
  induction ds with
  | nil => exact Nat.zero_le _
  | cons d ds ih =>
    rw [List.forall_mem_cons] at hreport
    have hds := ih hreport.2
    rw [List.flatMap_cons, writeCount_append, List.filterMap_cons]
    split
    · exact Nat.le_add_left_of_le hds
    · next r hr =>
      cases r with
      | error e => exact Nat.le_add_left_of_le hds
      | ok report =>
        show (tb.createdIn inbox report ++ _).count source ≤ _
        rw [List.count_append]
        exact Nat.add_le_add (hreport.1 report hr) hds

end Pool

theorem Tables.createdIn_congr {tb' : Tables} (h : tb'.tenants = tb.tenants) : tb'.createdIn = tb.createdIn := by
  have hi : tb'.findInbox = tb.findInbox := by
    rw [Tables.tenants, Tables.tenants] at h
    obtain ⟨-, hi, -⟩ := by simpa using h
    funext channel
    rw [findInbox, findInbox, hi]
  funext inbox report
  rw [createdIn, createdIn, hi]

/-- However deliveries interleave: one message for each source id of an inbox, kept for good and reported once. -/
theorem perform_creates_once {setups : List (Time × Provider × String × Credentials)} {guard : MemoryGuard}
    {ids : Snowflake.Generator} {instant : Instant} {jobs : List WebhookJob}
    {P : Pool WebhookJob (Except DomainError IngestReport)}
    (h : Pool.Reaches { writes := true }
      (.start { store := .seeded setups, guard, ids, instant } (fun job => (perform job).run) jobs) P) :
    P.world.tables.keys.Nodup ∧
      (∀ P', Pool.Reaches { writes := true } P P' → P.world.tables.records <+: P'.world.tables.records) ∧
      ∀ inbox source, (P.reports.flatMap (P.world.tables.createdIn inbox)).count source ≤ 1 := by
  have hstart : World.tables { store := .seeded setups, guard, ids, instant } = (MemoryStore.seeded setups).tables :=
    rfl
  have hnodup : P.world.tables.keys.Nodup := by
    refine h.nodup ?_
    show (MemoryStore.seeded setups).tables.keys.Nodup
    rw [MemoryStore.seeded_keys]
    exact List.nodup_nil
  refine ⟨hnodup, fun P' h' => h'.records, fun inbox source => ?_⟩
  have ht := (Pool.Traced.start _ _ jobs).reached h
  rw [Tables.createdIn_congr ht.tenants]
  calc (P.reports.flatMap (Tables.createdIn _ inbox)).count source
    _ ≤ P.writes (inbox, source) := ht.created_le inbox source
    _ = P.world.tables.keys.count (inbox, source) := by
      rw [h.count_keys, hstart, MemoryStore.seeded_keys, List.count_nil, Nat.zero_add]
    _ ≤ 1 := List.nodup_iff_count_le_one.1 hnodup _

/-- The second delivery finds the claim of the first one taken. -/
theorem interleaved_greetings_create_once :
    ∃ P, Pool.Reaches { writes := true }
        (.start Sample.world (fun job => (perform job).run) [Sample.greeting, Sample.greeting]) P ∧
      P.reports.length = 2 ∧ P.world.tables.keys.Nodup ∧
      (∀ P', Pool.Reaches { writes := true } P P' → P.world.tables.records <+: P'.world.tables.records) ∧
      ∀ inbox source, (P.reports.flatMap (P.world.tables.createdIn inbox)).count source ≤ 1 := by
  have hplay : (Pool.play { writes := true } []
      (List.replicate 4 0 ++ List.replicate 4 1 ++ List.replicate 10 0)
      (.start Sample.world (fun job => (perform job).run) [Sample.greeting, Sample.greeting])).any
      (·.reports.length = 2) = true := by
    decide +kernel
  obtain ⟨P, h, hc⟩ := Pool.exists_play hplay
  exact ⟨P, h, of_decide_eq_true hc, perform_creates_once h⟩

end Intake
