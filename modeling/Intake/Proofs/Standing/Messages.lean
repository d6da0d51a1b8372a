import Intake.Proofs.Standing.Told

/-!
# Only reports change messages

In every reachable pool the stored messages are as they were written, but for the status and the error that the reports
since have left (`reached_standings`). A report that says nothing valid, or is about no message, changes nothing, and no
report makes a delivery fail.
-/

namespace Intake

theorem Tables.findMessage_of_mem {tb : Tables} {m : Message} (hkeys : tb.keys.Nodup) (hm : m ∈ tb.messages) :
    tb.findMessage m.inbox m.sourceId = some m := by
  obtain ⟨m', hm'⟩ := Option.isSome_iff_exists.1 (mem_keys_iff.1 (List.mem_map_of_mem hm : m.key ∈ tb.keys))
  obtain ⟨hmem, hinbox, hsource⟩ := findMessage_eq_some hm'
  obtain rfl : m' = m := List.inj_on_of_nodup_map hkeys hmem hm (Prod.ext hinbox hsource)
  exact hm'

theorem Tables.updateStatus_of_hasMessage {tb : Tables} {id inbox account : Snowflake}
    (h : tb.HasMessage id inbox account) (status : MessageStatus) (error : Option String) :
    ∃ tb', tb.updateStatus id status error = .ok tb' := by
  obtain ⟨m, hm, hid, -⟩ := h
  exact ⟨_, if_pos (List.any_eq_true.2 ⟨m, hm, decide_eq_true hid⟩)⟩

/-- A message that was stored stands by the reports since. -/
theorem mem_standings (before : List Happening) (m : Message) (after : List Happening) :
    m.standing (reportsOn m.key after) ∈ standings (before ++ .stored m :: after) := by
  induction before with
  | nil => exact List.mem_cons_self
  | cons x before ih =>
    cases x with
    | stored => exact List.mem_cons_of_mem _ ih
    | reported => exact ih

namespace World

variable {o : Conditions} {w w' : World}

theorem Deals.eq_of_findMessage {inbox : Snowflake} {source : String} {b : Except DomainError (Option Message)}
    (h : w.Deals o (.findMessage inbox source) b w') : w' = w := by
  rcases h with ⟨clock, file, -, -, ha⟩ | ⟨e, -, -, hw⟩
  · exact (Prod.mk.inj (Option.some.inj ha)).2.symm
  · exact hw

theorem Runs.findMessage_eq {inbox : Snowflake} {source : String} {b : Except DomainError (Option Message)}
    (h : w.Runs o [⟨.findMessage inbox source, b⟩] w') : ∃ now, w' = w.later now := by
  obtain ⟨now, w₁, hd, hr⟩ := h.cons
  obtain rfl := hd.eq_of_findMessage
  exact hr.nil_eq

end World

namespace Ingest

variable {target : ResolvedChannel} {t : List Exchange}

/-- A report that says nothing valid, or is about no message, changes nothing. -/
theorem Reconciled.unchanged {inbox : Inbox} {source : String} {report : StatusReport} {outcome : EventOutcome}
    {o : Conditions} {w w' : World} (h : Reconciled inbox source report t outcome) (hr : w.Runs o t w')
    (hnone : report.status? = none ∨ w.tables.findMessage inbox.id source = none) : ∃ now, w' = w.later now := by
  cases h with
  | unread | unknown | invalid => exact hr.findMessage_eq
  | updated hstatus | refused hstatus =>
    rcases hnone with hnone | hnone
    · cases hnone.symm.trans hstatus
    · obtain ⟨now, w₁, hd, -⟩ := hr.cons
      cases hnone.symm.trans hd.findMessage_ok.1

theorem handleEvents_error {es : List IncomingEvent} {error : DomainError}
    (h : (handleEvents target es).run.Yields t (.error error)) :
    ∃ e ∈ es, ∃ t', (handleEvent target e).run.Yields t' (.error error) := by
  induction es generalizing t with
  | nil => cases h.2
  | cons e es ih =>
    rcases handleEvents_cons h with ⟨_, h₁, heq⟩ | ⟨t₁, outcome, t₂, rest, -, h₁, h₂, heq⟩
    · cases heq
      exact ⟨e, List.mem_cons_self, t, h₁⟩
    · cases rest with
      | ok => cases heq
      | error =>
        cases heq
        obtain ⟨e', he', hy⟩ := ih h₂
        exact ⟨e', List.mem_cons_of_mem _ he', hy⟩

theorem handleEvent_error {e : IncomingEvent} {error : DomainError}
    (h : (handleEvent target e).run.Yields t (.error error)) : ∃ m, e.body = .message m := by
  cases hb : e.body with
  | message m => exact ⟨m, rfl⟩
  | status report =>
    obtain ⟨outcome, heq, -⟩ := handleEvent_reconciled hb h
    cases heq
  | contactCard =>
    obtain ⟨outcome, heq, -⟩ := handleEvent_unaccepted (fun m hm => by cases hb.symm.trans hm.body) h
    cases heq

end Ingest

/-- A delivery fails because its tenants could not be looked up, or because of a message. -/
theorem perform_error {job : WebhookJob} {t : List Exchange} {error : DomainError}
    (h : (perform job).run.Yields t (.error error)) :
    (Routing.resolve job).run.Yields t (.error error) ∨
      ∃ target e m t', e ∈ target.events job ∧ e.body = .message m ∧
        (Ingest.handleEvent target e).run.Yields t' (.error error) := by
  obtain ⟨q, t', res, rfl, hq, ⟨_, rfl, rfl, heq⟩ | ⟨resolution, rfl, h'⟩⟩ := perform_resolves h
  · cases heq
    rw [List.append_nil]
    exact .inl hq
  cases resolution with
  | active target =>
    rcases Attempt.yields_bind.1 h' with ⟨_, h₁, heq⟩ | ⟨t₁, outcomes, t₂, -, -, -, heq⟩
    · cases heq
      obtain ⟨e, he, t₁, hy⟩ := Ingest.handleEvents_error h₁
      obtain ⟨m, hm⟩ := Ingest.handleEvent_error hy
      exact .inr ⟨target, e, m, t₁, he, hm, hy⟩
    · cases heq
  | _ => cases h'.2

namespace Pool

variable {n : Nat} {P : Pool WebhookJob (Except DomainError IngestReport)}

theorem Reached.updates (h : Reached n P) (hn : n ≤ 2 ^ 51)
    {d : Delivery WebhookJob (Except DomainError IngestReport)} (hd : d ∈ P.deliveries) {id : Snowflake}
    {status : MessageStatus} {error : Option String}
    {next : Except DomainError Unit → Program (Except DomainError IngestReport)}
    (hrest : d.rest = .ask (.updateStatus id status error) next) :
    (P.world.store.updateStatus id status error).1 = .ok () := by
  have hguided := (h.inOrder (h.ahead.inRange (by omega))).guided d hd
  rw [hrest] at hguided
  obtain ⟨⟨target, account, hmessage⟩, -⟩ := hguided
  obtain ⟨tb, htb⟩ := Tables.updateStatus_of_hasMessage hmessage status error
  exact congrArg (fun tables => (P.world.store.commit tables).1) htb

/-- The messages of every store that comes about are those that were written, each as it was written but for its status
and its error, and these are what the reports say that were processed since. A report fails to be processed only where
the store refuses a request, as the message to be updated is there. Reports with an unknown status or about an unknown
message change nothing, and no report makes a delivery fail. -/
theorem reached_standings (h : Reached n P) (hn : n ≤ 2 ^ 51) :
    (∃ hist, Told n hist P) ∧
    (∀ hist, Told n hist P → P.world.tables.messages = standings hist ∧
      ∀ before m after, hist = before ++ .stored m :: after →
        P.world.tables.findMessage m.inbox m.sourceId = some (m.standing (reportsOn m.key after))) ∧
    (∀ d ∈ P.deliveries, ∀ id status error next, d.rest = .ask (.updateStatus id status error) next →
      (P.world.store.updateStatus id status error).1 = .ok ()) ∧
    (∀ target e report t r, e.body = .status report → (Ingest.handleEvent target e).run.Yields t r →
      (∃ outcome, r = .ok outcome) ∧
        ∀ (o : Conditions) (w w' : World), w.Runs o t w' →
          report.status? = none ∨ w.tables.findMessage target.inbox.id e.sourceId = none → ∃ now, w' = w.later now) ∧
    ∀ job t error, (perform job).run.Yields t (.error error) →
      (Routing.resolve job).run.Yields t (.error error) ∨
        ∃ target e m t', e ∈ target.events job ∧ e.body = .message m ∧
          (Ingest.handleEvent target e).run.Yields t' (.error error) := by
  refine ⟨h.told, fun hist htold => ?_, fun d hd id status error next hrest => h.updates hn hd hrest,
    fun target e report t r hb hy => ?_, fun job t error => perform_error⟩
  · have hstands := htold.stands hn
    refine ⟨hstands.messages, ?_⟩
    rintro before m after rfl
    refine Tables.findMessage_of_mem (m := m.standing (reportsOn m.key after)) hstands.keys ?_
    rw [hstands.messages]
    exact mem_standings before m after
  · obtain ⟨outcome, rfl, hrec⟩ := Ingest.handleEvent_reconciled hb hy
    exact ⟨⟨outcome, rfl⟩, fun o w w' hr hnone => hrec.unchanged hr hnone⟩

end Pool

namespace Sample

/-- An element of the statuses of a payload. -/
def status (id name : String) (errors : List Json) : Json :=
  .object [("id", .string id), ("status", .string name), ("errors", .array errors)]

/-- A failure, a word that is no status, an earlier success that comes late, and a report on an unknown message. -/
def statuses : WebhookJob :=
  let error := Json.object [("code", .string "131026"), ("title", .string "Undeliverable")]
  (WebhookJob.ofPayload (.object
    [("statuses", .array
        [status "wamid.1" "failed" [error], status "wamid.1" "seen" [], status "wamid.1" "delivered" [],
          status "wamid.9" "read" []])])).withPhoneNumber "15550001"

/-- A greeting is stored, and then reported on. -/
def statusMoves : List Pool.Move :=
  [.seed .default "+15550001" ⟨[]⟩,
    .arrive (message "15550001" "wamid.1" "15550002" "text" (.object [("body", .string "hello")])),
    .arrive statuses] ++
  List.replicate 14 (.turn 0 none none) ++ List.replicate 9 (.turn 1 none none)

end Sample

/-- The greeting is delivered, and its failure still on record. -/
theorem reported_greeting_stands : ∃ n P hist, Pool.Reached n P ∧ n ≤ 2 ^ 51 ∧ Pool.Told n hist P ∧
    P.world.tables.messages.map (fun m => (m.content, m.status, m.externalError)) =
      [("hello", .delivered, some "131026: Undeliverable")] ∧
    P.world.tables.messages = standings hist := by
  have hplay : (Pool.play? Sample.statusMoves Sample.pool).any (fun P => decide
      (P.world.tables.messages.map (fun m => (m.content, m.status, m.externalError)) =
        [("hello", .delivered, some "131026: Undeliverable")])) = true := by
    decide +kernel
  obtain ⟨P, hp, hc⟩ := (Option.any_eq_true ..).1 hplay
  obtain ⟨n, hn, h⟩ := Sample.pool_reached.play hp
  have hbound : n ≤ 2 ^ 51 := Nat.le_trans hn (by decide)
  obtain ⟨⟨hist, htold⟩, hstandings, -⟩ := Pool.reached_standings h hbound
  exact ⟨n, P, hist, h, hbound, htold, of_decide_eq_true hc, (hstandings hist htold).1⟩

end Intake
