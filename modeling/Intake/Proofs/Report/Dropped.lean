import Intake.Proofs.Delivery.Serving
import Intake.Proofs.Report.Truth

/-!
# Dropped events

A delivery that handles an event by itself and drops it leaves all tables and both sources of ids as they were
(`perform_drops_without_effect`), wherever in the handling the drop is decided. The look-up before the first write is
what makes the late duplicate impossible: between the two there are only quiet requests, so a store whose replies are
true cannot find the message at the second of them if it did not at the first.
-/

namespace Intake

/-- No write of a message is refused as a duplicate, unless the message is there. -/
def Conditions.Honest (o : Conditions) : Prop :=
  ∀ m inbox source, ¬ o.refuses (.createMessage m) (.duplicateSourceId inbox source)

theorem Conditions.calm_honest (fetch : Channel → MediaDescriptor → Option FetchedMedia) : (calm fetch).Honest :=
  fun _ _ _ h => h

/-- The exchange changes no table and no source of ids: the guard is asked, a message is looked up, or a row could not
be changed. -/
def Exchange.isIdle : Exchange → Bool
  | ⟨.tryClaim .., _⟩ | ⟨.release .., _⟩ | ⟨.findMessage .., _⟩ => true
  | ⟨.updateStatus .., .error _⟩ | ⟨.upsertContact _, .error _⟩ => true
  | _ => false

theorem Exchange.not_supply_of_isIdle {x : Exchange} (h : x.isIdle = true) : x.request.isSupply = false := by
  obtain ⟨r, b⟩ := x
  cases r <;> first | rfl | cases h

theorem Exchange.not_attempted_of_isIdle {x : Exchange} (h : x.isIdle = true) : x.attempted = none := by
  obtain ⟨r, b⟩ := x
  cases r <;> first | rfl | cases h

namespace MemoryStore

variable (s : MemoryStore) {e : DomainError}

theorem updateStatus_of_error {message : Snowflake} {status : MessageStatus} {error : Option String}
    (h : (s.updateStatus message status error).1 = .error e) : (s.updateStatus message status error).2 = s := by
  unfold updateStatus at h ⊢
  cases hu : s.tables.updateStatus message status error with
  | ok =>
    rw [hu] at h
    cases h
  | error => rfl

theorem upsertContact_of_error {clock : Time} {new : NewContact} (h : (s.upsertContact clock new).1 = .error e) :
    (s.upsertContact clock new).2 = s := by
  rcases s.upsertContact_cases clock new with ⟨_, -, hs, -⟩ | ⟨-, ⟨_, -, heq⟩ | ⟨-, heq⟩⟩
  · exact hs
  · rw [heq] at h
    cases h
  · rw [heq] at h
    cases h

end MemoryStore

/-- The worlds have the same tables and will make the same ids. -/
structure World.Untouched (w w' : World) : Prop where
  tables : w'.tables = w.tables
  ids : w'.ids = w.ids
  rowIds : w'.store.ids = w.store.ids

namespace World

variable {o : Conditions} {w w₁ w' : World} {r : Request} {b : r.Reply} {t : List Exchange}

theorem Untouched.trans (h : w.Untouched w₁) (h' : w₁.Untouched w') : w.Untouched w' :=
  ⟨h'.tables.trans h.tables, h'.ids.trans h.ids, h'.rowIds.trans h.rowIds⟩

theorem Untouched.ofStore {s : MemoryStore} (h : s = w.store) : w.Untouched { w with store := s } :=
  ⟨congrArg MemoryStore.tables h, rfl, congrArg MemoryStore.ids h⟩

theorem Deals.untouched (h : w.Deals o r b w') (hx : Exchange.isIdle ⟨r, b⟩ = true) : w.Untouched w' := by
  rcases h with ⟨clock, file, -, -, ha⟩ | ⟨e, -, -, rfl⟩
  · cases r with
    | tryClaim channel source =>
      obtain ⟨a, -, ha⟩ := Option.map_eq_some_iff.1 ha
      cases ha
      exact ⟨rfl, rfl, rfl⟩
    | release | findMessage =>
      cases ha
      exact ⟨rfl, rfl, rfl⟩
    | updateStatus message status error =>
      obtain ⟨hb, rfl⟩ := Prod.mk.inj (Option.some.inj ha)
      cases b with
      | ok => cases hx
      | error => exact .ofStore (w.store.updateStatus_of_error hb)
    | upsertContact new =>
      obtain ⟨hb, rfl⟩ := Prod.mk.inj (Option.some.inj ha)
      cases b with
      | ok => cases hx
      | error => exact .ofStore (w.store.upsertContact_of_error hb)
    | _ => cases hx
  · exact ⟨rfl, rfl, rfl⟩

theorem Runs.untouched (h : w.Runs o t w') (ht : ∀ x ∈ t, x.isIdle = true) : w.Untouched w' := by
  induction h with
  | nil => exact ⟨rfl, rfl, rfl⟩
  | exchange hd _ ih =>
    obtain ⟨hx, ht⟩ := List.forall_mem_cons.1 ht
    exact (hd.untouched hx).trans (ih ht)
  | waits _ _ ih => exact ⟨(ih ht).tables, (ih ht).ids, (ih ht).rowIds⟩

theorem Runs.keys_of_quiet (h : w.Runs o t w') (ht : QuietTrace t) : w'.tables.keys = w.tables.keys := by
  have hnone : t.filterMap Exchange.written = [] := by
    refine List.filterMap_eq_nil_iff.2 fun x hx => ?_
    cases hw : x.written with
    | none => rfl
    | some k => cases (Exchange.attempted_of_written hw).symm.trans (Exchange.attempted_eq_none (ht x hx))
  rw [h.keys, hnone, List.append_nil]

theorem Deals.mem_keys_of_beaten {m : Message} {inbox : Snowflake} {source : String} (ho : o.Honest)
    (h : w.Deals o (.createMessage m) (.error (.duplicateSourceId inbox source)) w') : m.key ∈ w.tables.keys := by
  rcases h with ⟨clock, file, -, -, ha⟩ | ⟨e, he, hb, -⟩
  · have h : w.Answers {} (.createMessage m) (.error (.duplicateSourceId inbox source)) w' := .of_answer? ha
    rcases h.createMessage with ⟨-, ⟨_, heq⟩ | ⟨hmem, -⟩⟩ | ⟨-, heq, -⟩
    · cases heq
    · exact hmem
    · cases heq
  · cases hb
    exact absurd he (ho _ _ _)

/-- A message that was not found cannot be refused as a duplicate when only quiet requests have come in between. -/
theorem Runs.not_beaten {m : Message} {inbox : Snowflake} {source : String} {q rest : List Exchange} (ho : o.Honest)
    (h : w.Runs o (⟨.findMessage m.inbox m.sourceId, .ok none⟩ ::
      (q ++ ⟨.createMessage m, .error (.duplicateSourceId inbox source)⟩ :: rest)) w') (hq : QuietTrace q) : False := by
  obtain ⟨now, w₁, hd, hr⟩ := h.cons
  obtain ⟨hnone, rfl⟩ := hd.findMessage_ok
  obtain ⟨w₂, hr₁, hr₂⟩ := hr.split
  obtain ⟨now', w₃, hd', -⟩ := hr₂.cons
  have hmem := Deals.mem_keys_of_beaten ho hd'
  change m.key ∈ w₂.tables.keys at hmem
  rw [hr₁.keys_of_quiet hq, Tables.mem_keys_iff] at hmem
  cases hmem.symm.trans (congrArg Option.isSome hnone)

end World

namespace Ingest

variable {target : ResolvedChannel} {e : IncomingEvent} {t : List Exchange} {source : String} {reason : DropReason}

/-- Where the drop of an event can be decided: without the guard, by it, or after it has granted the claim, then by a
look-up or by the first write. -/
inductive DropCase (target : ResolvedChannel) (e : IncomingEvent) : List Exchange → DropReason → Prop
  | unguarded {t : List Exchange} {reason : DropReason} :
    reason ≠ .inFlight → reason ≠ .duplicate → (∀ x ∈ t, x.isIdle = true ∧ x.request.isGuard = false) →
      DropCase target e t reason
  | denied : DropCase target e [⟨.tryClaim target.channel.id e.sourceId, .ok false⟩] .inFlight
  | found {stored : Message} {released : Except DomainError Unit} :
    DropCase target e
      [⟨.tryClaim target.channel.id e.sourceId, .ok true⟩,
        ⟨.findMessage target.inbox.id e.sourceId, .ok (some stored)⟩,
        ⟨.release target.channel.id e.sourceId, released⟩]
      .duplicate
  | beaten {q : List Exchange} {m : Message} {inbox : Snowflake} {id : String} {released : Except DomainError Unit} :
    QuietTrace q → m.key = (target.inbox.id, e.sourceId) →
      DropCase target e
        (⟨.tryClaim target.channel.id e.sourceId, .ok true⟩ ::
          ⟨.findMessage target.inbox.id e.sourceId, .ok none⟩ ::
            (q ++ [⟨.createMessage m, .error (.duplicateSourceId inbox id)⟩,
              ⟨.release target.channel.id e.sourceId, released⟩]))
        .duplicate

theorem accept_error {inbox : Inbox} {sender : Option Sender} {m : InboundMessage}
    (h : accept inbox sender m = .error reason) : reason ≠ .inFlight ∧ reason ≠ .duplicate := by
  unfold accept at h
  split at h
  · cases h
    exact ⟨nofun, nofun⟩
  · split at h
    · cases h
      exact ⟨nofun, nofun⟩
    · split at h
      · cases h
        exact ⟨nofun, nofun⟩
      · cases h

theorem reconcile_dropped {inbox : Inbox} {report : StatusReport} {outcome : EventOutcome}
    (h : Reconciled inbox source report t outcome) {s : String} (ho : outcome = .dropped s reason) :
    reason ≠ .inFlight ∧ reason ≠ .duplicate ∧ ∀ x ∈ t, x.isIdle = true ∧ x.request.isGuard = false := by
  cases h with
  | updated => cases ho
  | unread | unknown | invalid | refused =>
    cases ho
    exact ⟨nofun, nofun, by simp [Exchange.isIdle, Request.isGuard]⟩

theorem resolveCard_dropped {inbox : Inbox} {sender : Option Sender} {outcome : EventOutcome}
    (h : CardResolved inbox source sender t outcome) {s : String} (ho : outcome = .dropped s reason) :
    reason ≠ .inFlight ∧ reason ≠ .duplicate ∧ ∀ x ∈ t, x.isIdle = true ∧ x.request.isGuard = false := by
  cases h with
  | resolved => cases ho
  | missing | refused =>
    cases ho
    exact ⟨nofun, nofun, by simp [Exchange.isIdle, Request.isGuard]⟩

theorem handleEvent_dropped (h : (handleEvent target e).run.Yields t (.ok (.dropped source reason))) :
    DropCase target e t reason := by
  cases handleEvent_cases h with
  | unfit _ hreason =>
    obtain ⟨hne, hne'⟩ := accept_error hreason
    exact .unguarded hne hne' (by simp)
  | claimed _ _ hc =>
    cases hc with
    | denied => exact .denied
    | granted hp =>
      cases persist_yields hp with
      | found => exact .found
      | beaten hq hds =>
        rw [List.cons_append, List.append_assoc]
        exact .beaten hq hds.head
  | reported _ hr =>
    obtain ⟨hne, hne', hidle⟩ := reconcile_dropped (reconcile_yields hr) rfl
    exact .unguarded hne hne' hidle
  | announced _ hr =>
    obtain ⟨hne, hne', hidle⟩ := resolveCard_dropped (resolveCard_yields hr) rfl
    exact .unguarded hne hne' hidle

/-- An event that a delivery drops by itself leaves its exchanges idle, and asks the guard only if the reason is the
guard's or a duplicate. -/
theorem DropCase.idle {o : Conditions} {w w' : World} (h : DropCase target e t reason) (ho : o.Honest)
    (hr : w.Runs o t w') : (∀ x ∈ t, x.isIdle = true) ∧
      (reason ≠ .inFlight → reason ≠ .duplicate → ∀ x ∈ t, x.request.isGuard = false) := by
  cases h with
  | unguarded _ _ hidle => exact ⟨fun x hx => (hidle x hx).1, fun _ _ x hx => (hidle x hx).2⟩
  | denied => exact ⟨by simp [Exchange.isIdle], fun hne => absurd rfl hne⟩
  | found => exact ⟨by simp [Exchange.isIdle], fun _ hne => absurd rfl hne⟩
  | beaten hq hkey =>
    obtain ⟨hinbox, hsource⟩ := Prod.mk.inj hkey
    obtain ⟨now, w₁, -, hr⟩ := hr.cons
    rw [← hinbox, ← hsource] at hr
    exact (hr.not_beaten ho hq).elim

/-- The outcomes are those of the events, in order, each with the exchanges that were made for it. -/
theorem handleEvents_answers {es : List IncomingEvent} {outcomes : List EventOutcome}
    (h : (handleEvents target es).run.Yields t (.ok outcomes)) {i : Nat} {outcome : EventOutcome}
    (hi : outcomes[i]? = some outcome) :
    ∃ es₁ e es₂ earlier own later outcomes₁, es = es₁ ++ e :: es₂ ∧ es₁.length = i ∧
      t = earlier ++ (own ++ later) ∧ (handleEvents target es₁).run.Yields earlier (.ok outcomes₁) ∧
      (handleEvent target e).run.Yields own (.ok outcome) := by
  induction es generalizing t outcomes i with
  | nil =>
    obtain ⟨-, h⟩ := h
    cases h
    cases hi
  | cons e es ih =>
    rcases handleEvents_cons h with ⟨error, -, heq⟩ | ⟨t₁, first, t₂, rest, rfl, h₁, h₂, heq⟩
    · cases heq
    cases rest with
    | error => cases heq
    | ok rest =>
      cases heq
      cases i with
      | zero =>
        obtain rfl := Option.some.inj hi
        exact ⟨[], e, es, [], t₁, t₂, [], rfl, rfl, rfl, ⟨rfl, rfl⟩, h₁⟩
      | succ i =>
        obtain ⟨es₁, e', es₂, earlier, own, later, outcomes₁, rfl, rfl, rfl, hbefore, hown⟩ := ih h₂ hi
        exact ⟨e :: es₁, e', es₂, t₁ ++ earlier, own, later, first :: outcomes₁, rfl, rfl, by simp,
          handleEvents_yields_cons h₁ hbefore, hown⟩

end Ingest

/-- A delivery of the job has exchanged `before`, and then `own` for the event, which was answered with the outcome. -/
structure WebhookJob.Answered (job : WebhookJob) (target : ResolvedChannel) (e : IncomingEvent)
    (before own : List Exchange) (outcome : EventOutcome) : Prop where
  serving : job.Serving target e (before ++ own) own
  handled : (Ingest.handleEvent target e).run.Yields own (.ok outcome)

theorem perform_answers {job : WebhookJob} {t : List Exchange} {report : IngestReport}
    (h : (perform job).run.Yields t (.ok report)) {i : Nat} {outcome : EventOutcome}
    (hi : report.outcomes[i]? = some outcome) :
    ∃ target e before own after, (target.events job)[i]? = some e ∧ t = before ++ (own ++ after) ∧
      job.Answered target e before own outcome := by
  obtain ⟨q, t', res, rfl, hq, ⟨e, -, -, heq⟩ | ⟨resolution, rfl, h'⟩⟩ := perform_resolves h
  · cases heq
  cases resolution with
  | active target =>
    obtain ⟨outcomes, h₁, rfl⟩ := performOn_active_ok h'
    obtain ⟨es₁, e, es₂, earlier, own, later, outcomes₁, hes, rfl, rfl, hbefore, hown⟩ :=
      Ingest.handleEvents_answers h₁ hi
    refine ⟨target, e, q ++ earlier, own, later, by rw [hes]; simp, by simp, ?_, hown⟩
    exact ⟨q, earlier, es₁, es₂, outcomes₁, by simp, hq, hes, hbefore⟩
  | _ =>
    obtain ⟨-, heq⟩ := h'
    cases heq
    cases hi

/-- Every outcome of a report is the answer to an event. Of a delivery that nobody interrupts, each event that it drops,
also if the delivery fails later, has left all tables and both sources of ids as they were: no download was asked for,
no id was made and no message was written, so no duplicate came up only at a write. The guard was asked only where the
event is in flight or a duplicate. -/
theorem perform_drops_without_effect {o : Conditions} {w w' : World} {job : WebhookJob} {t : List Exchange}
    {r : Except DomainError IngestReport} (ho : o.Honest) (hy : (perform job).run.Yields t r) (hr : w.Runs o t w') :
    (∀ report (i : Nat) outcome, r = .ok report → report.outcomes[i]? = some outcome →
      ∃ target e before own after, (target.events job)[i]? = some e ∧ t = before ++ (own ++ after) ∧
        job.Answered target e before own outcome) ∧
    ∀ target e before own after source reason, t = before ++ (own ++ after) →
      job.Answered target e before own (.dropped source reason) →
        (∃ w₁ w₂, w.Runs o before w₁ ∧ w₁.Runs o own w₂ ∧ w₂.Runs o after w') ∧
        (∀ w₁ w₂ : World, w₁.Runs o own w₂ → w₁.Untouched w₂) ∧
        (∀ x ∈ own, x.request.isSupply = false ∧ x.attempted = none) ∧
        (reason ≠ .inFlight → reason ≠ .duplicate → ∀ x ∈ own, x.request.isGuard = false) := by
  refine ⟨fun report i outcome hok hi => ?_, fun target e before own after source reason ht ha => ?_⟩
  · subst hok
    exact perform_answers hy hi
  · subst ht
    obtain ⟨w₁, hr₁, hr'⟩ := hr.split
    obtain ⟨w₂, hr₂, hr₃⟩ := hr'.split
    obtain ⟨hidle, hguard⟩ := (Ingest.handleEvent_dropped ha.handled).idle ho hr₂
    exact ⟨⟨w₁, w₂, hr₁, hr₂, hr₃⟩, fun w₁ w₂ hr => hr.untouched hidle,
      fun x hx => ⟨x.not_supply_of_isIdle (hidle x hx), x.not_attempted_of_isIdle (hidle x hx)⟩, hguard⟩

namespace Sample

/-- A greeting twice, a reaction, and a report about a message that is not there. -/
def repeated : WebhookJob :=
  (WebhookJob.ofPayload (.object
    [("messages", .array
        [entry "wamid.1" "text" (.object [("body", .string "hello")]),
          entry "wamid.1" "text" (.object [("body", .string "hello")]),
          entry "wamid.2" "reaction" (.object [("emoji", .string "!")])]),
      ("statuses", .array [.object [("id", .string "wamid.3"), ("status", .string "read")]])])).withPhoneNumber
    "15550001"

end Sample

/-- The second greeting is found under its claim, the report about the unknown message does not come to the guard, and
neither leaves a trace. -/
theorem repeated_dropped_without_effect : ∃ t report w', (perform Sample.repeated).run.Yields t (.ok report) ∧
    Sample.world.Runs (.calm fun _ _ => none) t w' ∧
    (report.outcomes[1]? = some (.dropped "wamid.1" .duplicate) ∧
      report.outcomes[3]? = some (.dropped "wamid.3" .unknownMessage) ∧ w'.tables.messages.length = 1) ∧
    (∃ (before own after : List Exchange) (w₁ w₂ : World), t = before ++ (own ++ after) ∧
      w₁.Runs (.calm fun _ _ => none) own w₂ ∧ w₁.Untouched w₂ ∧ ∀ x ∈ own, x.request.isSupply = false) ∧
    ∃ (before own after : List Exchange) (w₁ w₂ : World), t = before ++ (own ++ after) ∧
      w₁.Runs (.calm fun _ _ => none) own w₂ ∧ w₁.Untouched w₂ ∧ ∀ x ∈ own, x.request.isGuard = false := by
  have hplay : ((Replay.calm fun _ _ => none).run? [] (perform Sample.repeated).run Sample.world).any (fun played =>
      played.2.1.toOption.any fun report => decide
        (report.outcomes[1]? = some (.dropped "wamid.1" .duplicate) ∧
          report.outcomes[3]? = some (.dropped "wamid.3" .unknownMessage) ∧
          played.2.2.tables.messages.length = 1)) = true := by
    decide +kernel
  obtain ⟨⟨t, r, w'⟩, hcarry, hcheck⟩ := (Option.any_eq_true ..).1 hplay
  obtain ⟨hy, hr⟩ := World.runs_of_calm hcarry
  cases r with
  | error => cases hcheck
  | ok report =>
    have hreport := of_decide_eq_true hcheck
    obtain ⟨hanswers, hdrops⟩ := perform_drops_without_effect (Conditions.calm_honest _) hy hr
    obtain ⟨target, e, before, own, after, -, heq, ha⟩ := hanswers report 1 _ rfl hreport.1
    obtain ⟨target', e', before', own', after', -, heq', ha'⟩ := hanswers report 3 _ rfl hreport.2.1
    obtain ⟨⟨w₁, w₂, -, hr₁, -⟩, hsame, hnone, -⟩ := hdrops _ _ _ _ _ _ _ heq ha
    obtain ⟨⟨w₃, w₄, -, hr₃, -⟩, hsame', -, hguard⟩ := hdrops _ _ _ _ _ _ _ heq' ha'
    exact ⟨t, report, w', hy, hr, hreport,
      ⟨before, own, after, w₁, w₂, heq, hr₁, hsame _ _ hr₁, fun x hx => (hnone x hx).1⟩,
      before', own', after', w₃, w₄, heq', hr₃, hsame' _ _ hr₃, hguard nofun nofun⟩

end Intake
