import Intake.Proofs.Delivery.Fresh
import Intake.Proofs.Delivery.Serving
import Intake.Proofs.Integrity.Reached
import Intake.Proofs.Standing.Fold

/-!
# Messages stand as they were told

`Pool.Told` are the reachable pools with the history of what happened to their messages: a message is stored when it is
written, and a report is processed with the exchange that completes it. Whatever the history, the stored messages are
those that it says (`reached_standings`): nothing else changes a message, and none goes.
-/

namespace Intake

/-- With `x` a delivery of the job, which has exchanged `log`, has processed a report on the inbox's message of that
source id. A report that came to nothing as the store was unavailable has not been processed. -/
def WebhookJob.Processes (job : WebhookJob) (log : List Exchange) (x : Exchange) (inbox : Snowflake) (source : String)
    (report : StatusReport) : Prop :=
  ∃ target e own outcome, job.Serving target e log own ∧ e.body = .status report ∧
    (Ingest.handleEvent target e).run.Yields (own ++ [x]) (.ok outcome) ∧
    outcome ≠ .dropped e.sourceId .storeUnavailable ∧ inbox = target.inbox.id ∧ source = e.sourceId

/-- What an exchange says of messages, for a delivery of the job that has exchanged `log`. -/
inductive WebhookJob.Tells (job : WebhookJob) (log : List Exchange) (x : Exchange) : List Happening → Prop
  | stored {m : Message} : x = ⟨.createMessage m, .ok ()⟩ → Tells job log x [.stored m]
  | reported {inbox : Snowflake} {source : String} {report : StatusReport} :
    job.Processes log x inbox source report → Tells job log x [.reported inbox source report]
  | nothing :
    (∀ m, x ≠ ⟨.createMessage m, .ok ()⟩) → (∀ inbox source report, ¬ job.Processes log x inbox source report) →
      Tells job log x []

namespace Pool

/-- The pool comes about as in `Reached`, with that history. -/
inductive Told : Nat → List Happening → Pool WebhookJob (Except DomainError IngestReport) → Prop
  | empty {guard : MemoryGuard} {ids : Snowflake.Generator} {instant : Instant} :
    0 < guard.ttl → guard.claims = [] → ids.last = 0 → Told 0 [] ⟨{ store := {}, guard, ids, instant }, []⟩
  | seed {n : Nat} {hist : List Happening} {w : World}
    {ds : List (Delivery WebhookJob (Except DomainError IngestReport))} {clock : Time}
    (provider : Provider) (phone : String) (credentials : Credentials) :
    Told n hist ⟨w, ds⟩ → clock < Snowflake.horizon →
      Told (n + 1) hist ⟨{ w with store := w.store.addChannel clock provider phone credentials }, ds⟩
  | arrive {n : Nat} {hist : List Happening} {w : World}
    {ds : List (Delivery WebhookJob (Except DomainError IngestReport))} (job : WebhookJob) :
    Told n hist ⟨w, ds⟩ → Told n hist ⟨w, ds ++ [⟨job, [], (perform job).run⟩]⟩
  | turn {n : Nat} {hist hs : List Happening} {w w' : World}
    {before after : List (Delivery WebhookJob (Except DomainError IngestReport))} {job : WebhookJob}
    {log : List Exchange} {r : Request} {b : r.Reply} {next : r.Reply → Program (Except DomainError IngestReport)} :
    Told n hist ⟨w, before ++ ⟨job, log, .ask r next⟩ :: after⟩ → w.Deals {} r b w' → job.Tells log ⟨r, b⟩ hs →
      Told (n + 1) (hist ++ hs) ⟨w', before ++ ⟨job, log ++ [⟨r, b⟩], next b⟩ :: after⟩
  | wait {n : Nat} {hist : List Happening} {w : World}
    {ds : List (Delivery WebhookJob (Except DomainError IngestReport))} {now : Instant} :
    Told n hist ⟨w, ds⟩ → w.instant ≤ now → Told n hist ⟨w.later now, ds⟩
  | change {n : Nat} {hist : List Happening} {w : World}
    {ds : List (Delivery WebhookJob (Except DomainError IngestReport))} {store : MemoryStore} :
    Told n hist ⟨w, ds⟩ → w.store.Changes store → Told n hist ⟨{ w with store }, ds⟩

variable {n : Nat} {hist : List Happening} {P : Pool WebhookJob (Except DomainError IngestReport)}

theorem Told.reached (h : Told n hist P) : Reached n P := by
  induction h with
  | empty httl hclaims hids => exact .empty httl hclaims hids
  | seed provider phone credentials _ hc ih => exact .seed provider phone credentials ih hc
  | arrive job _ ih => exact .arrive job ih
  | turn _ hd _ ih => exact .turn ih hd
  | wait _ hle ih => exact .wait ih hle
  | change _ hs ih => exact .change ih hs

theorem exists_tells (job : WebhookJob) (log : List Exchange) (x : Exchange) : ∃ hs, job.Tells log x hs := by
  by_cases hstored : ∃ m, x = ⟨.createMessage m, .ok ()⟩
  · obtain ⟨m, hx⟩ := hstored
    exact ⟨_, .stored hx⟩
  · by_cases hreported : ∃ inbox source report, job.Processes log x inbox source report
    · obtain ⟨inbox, source, report, hp⟩ := hreported
      exact ⟨_, .reported hp⟩
    · refine ⟨[], .nothing (not_exists.1 hstored) fun inbox source report hp => ?_⟩
      exact hreported ⟨inbox, source, report, hp⟩

theorem Reached.told (h : Reached n P) : ∃ hist, Told n hist P := by
  induction h with
  | empty httl hclaims hids => exact ⟨[], .empty httl hclaims hids⟩
  | seed provider phone credentials _ hc ih =>
    obtain ⟨hist, ih⟩ := ih
    exact ⟨hist, .seed provider phone credentials ih hc⟩
  | arrive job _ ih =>
    obtain ⟨hist, ih⟩ := ih
    exact ⟨hist, .arrive job ih⟩
  | @turn _ _ _ _ _ job log r b _ _ hd ih =>
    obtain ⟨hist, ih⟩ := ih
    obtain ⟨hs, htells⟩ := exists_tells job log ⟨r, b⟩
    exact ⟨hist ++ hs, .turn ih hd htells⟩
  | wait _ hle ih =>
    obtain ⟨hist, ih⟩ := ih
    exact ⟨hist, .wait ih hle⟩
  | change _ hs ih =>
    obtain ⟨hist, ih⟩ := ih
    exact ⟨hist, .change ih hs⟩

end Pool

/-! ## One exchange -/

/-- What was found is a message of that key, whatever its status is now. -/
def Exchange.Shows (tb : Tables) : Exchange → Prop
  | ⟨.findMessage inbox source, .ok (some m)⟩ => m.record ∈ tb.records ∧ m.key = (inbox, source)
  | _ => True

theorem Exchange.Shows.mono {tb tb' : Tables} {x : Exchange} (h : x.Shows tb)
    (hle : ∀ m ∈ tb.records, m ∈ tb'.records) : x.Shows tb' := by
  unfold Shows at h ⊢
  split
  · exact ⟨hle _ h.1, h.2⟩
  · trivial

/-- As ids and keys are distinct, the row of a message's id is that of its key. -/
theorem Tables.messages_of_updateStatus_key {tb tb' : Tables} {m : Message} {k : Snowflake × String}
    {status : MessageStatus} {error : Option String} (hids : (tb.messages.map (·.id)).Nodup) (hkeys : tb.keys.Nodup)
    (hm : m.record ∈ tb.records) (hk : m.key = k) (h : tb.updateStatus m.id status error = .ok tb') :
    tb'.messages = tb.messages.map fun n => if n.key = k then n.applyStatus status error else n := by
  rw [messages_of_updateStatus h, modifyFirst_of_id hids]
  obtain ⟨m₀, hm₀, hrecord⟩ := List.mem_map.1 hm
  obtain ⟨hid, -, hinbox, -, -, -, -, hsource, -⟩ := Message.record_eq_iff.1 hrecord
  have hkey : m₀.key = k := (Prod.ext hinbox hsource : m₀.key = m.key).trans hk
  refine List.map_congr_left fun n hn => ?_
  have hiff : n.id = m.id ↔ n.key = k := by
    constructor
    · intro heq
      rw [List.inj_on_of_nodup_map hids hn hm₀ (heq.trans hid.symm), hkey]
    · intro heq
      rw [List.inj_on_of_nodup_map hkeys hn hm₀ (heq.trans hkey.symm), hid]
  exact if_congr hiff rfl rfl

namespace World.Deals

variable {o : Conditions} {w w' : World} {r : Request} {b : r.Reply}

theorem shows (h : w.Deals o r b w') : Exchange.Shows w'.tables ⟨r, b⟩ := by
  unfold Exchange.Shows
  split
  · next heq =>
    cases heq
    obtain ⟨hfound, rfl⟩ := h.findMessage_ok
    obtain ⟨hm, hinbox, hsource⟩ := Tables.findMessage_eq_some hfound
    exact ⟨List.mem_map_of_mem hm, Prod.ext hinbox hsource⟩
  · trivial

theorem messages_of_stored {m : Message} (h : w.Deals o (.createMessage m) (.ok ()) w') :
    w'.tables.messages = w.tables.messages ++ [m] := by
  rcases h.createMessage with ⟨-, e, heq⟩ | ⟨-, -, hm⟩
  · cases heq
  · exact hm

theorem messages_eq (h : w.Deals o r b w') (hcreate : ∀ m, (⟨r, b⟩ : Exchange) ≠ ⟨.createMessage m, .ok ()⟩)
    (hupdate : ∀ id status error, (⟨r, b⟩ : Exchange) ≠ ⟨.updateStatus id status error, .ok ()⟩) :
    w'.tables.messages = w.tables.messages := by
  cases r with
  | createMessage m =>
    rcases h.createMessage with ⟨hm, -⟩ | ⟨-, rfl, -⟩
    · exact hm
    · exact absurd rfl (hcreate m)
  | updateStatus id status error =>
    cases b with
    | ok => exact absurd rfl (hupdate id status error)
    | error =>
      rcases h with ⟨clock, file, -, -, ha⟩ | ⟨e, -, -, rfl⟩
      · obtain ⟨hreply, rfl⟩ := Prod.mk.inj (Option.some.inj ha)
        change (w.store.commit (w.tables.updateStatus id status error)).1 = _ at hreply
        change (w.store.commit (w.tables.updateStatus id status error)).2.tables.messages = _
        cases hu : w.tables.updateStatus id status error with
        | ok tables => rw [hu] at hreply; cases hreply
        | error => rfl
      · rfl
  | _ => exact h.messages rfl

end World.Deals

theorem Ingest.Reconciled.ends_updated {inbox : Inbox} {source : String} {report : StatusReport}
    {own rest : List Exchange} {id : Snowflake} {status : MessageStatus} {error : Option String}
    {outcome : EventOutcome}
    (h : Reconciled inbox source report (own ++ ⟨.updateStatus id status error, .ok ()⟩ :: rest) outcome) :
    rest = [] ∧ outcome ≠ .dropped source .storeUnavailable := by
  generalize ht : own ++ ⟨.updateStatus id status error, .ok ()⟩ :: rest = t at h
  have hx : ⟨.updateStatus id status error, .ok ()⟩ ∈ t := ht ▸ List.mem_append_right _ List.mem_cons_self
  cases h with
  | unread | unknown | invalid => cases List.mem_singleton.1 hx
  | updated | refused =>
    rcases own with - | ⟨y, - | ⟨z, own⟩⟩
    · cases ht
    · cases ht <;> exact ⟨rfl, nofun⟩
    · simp at ht

namespace WebhookJob

variable {job : WebhookJob} {log own : List Exchange} {target : ResolvedChannel} {e : IncomingEvent} {x : Exchange}

theorem Serving.mem (h : job.Serving target e log own) (hx : x ∈ own) : x ∈ log := by
  obtain ⟨q, earlier, -, -, -, rfl, -⟩ := h
  exact List.mem_append_right _ (List.mem_append_right _ hx)

theorem processes_of_updated {p : Program (Except DomainError IngestReport)} {id : Snowflake} {status : MessageStatus}
    {error : Option String} (hx : x = ⟨.updateStatus id status error, .ok ()⟩)
    (h : (perform job).run.Reaches (log ++ [x]) p) :
    ∃ inbox source report, job.Processes log x inbox source report := by
  subst hx
  have hends : ∃ rest a, p.Yields rest a ∧ ∀ x ∈ rest, True := p.exists_yields fun r => by
    cases r <;> first | exact ⟨.error default, trivial⟩ | exact ⟨default, trivial⟩
  obtain ⟨rest, a, hrest, -⟩ := hends
  have hy := h.yields hrest
  rw [List.append_assoc, List.singleton_append] at hy
  rcases perform_serving hy with hlookup | ⟨target, e, own, own', result, hserving, hown⟩
  · cases hlookup
  by_cases hb : ∃ report, e.body = .status report
  · obtain ⟨report, hb⟩ := hb
    obtain ⟨outcome, rfl, hrec⟩ := Ingest.handleEvent_reconciled hb hown
    obtain ⟨rfl, hne⟩ := hrec.ends_updated
    exact ⟨_, _, report, target, e, own, outcome, hserving, hb, hown, hne, rfl, rfl⟩
  · exact ((Ingest.handleEvent_ingests (not_exists.1 hb)).mem hown _ (List.mem_append_right _ List.mem_cons_self)).elim

end WebhookJob

section Step

variable {o : Conditions} {w w' : World} {r : Request} {b : r.Reply} {outcome : EventOutcome}

theorem Ingest.Reconciled.messages {inbox : Inbox} {source : String} {report : StatusReport} {own : List Exchange}
    (h : Reconciled inbox source report (own ++ [⟨r, b⟩]) outcome) (hne : outcome ≠ .dropped source .storeUnavailable)
    (hshows : ∀ x ∈ own, x.Shows w.tables) (hids : (w.tables.messages.map (·.id)).Nodup) (hkeys : w.tables.keys.Nodup)
    (hd : w.Deals o r b w') :
    w'.tables.messages =
      w.tables.messages.map fun m => if m.key = (inbox.id, source) then m.reported report else m := by
  generalize ht : own ++ [⟨r, b⟩] = t at h
  cases h with
  | unread | refused => exact absurd rfl hne
  | unknown =>
    obtain ⟨rfl, hx⟩ := List.append_inj' (ht.trans (List.nil_append _).symm) rfl
    cases hx
    obtain ⟨hnone, rfl⟩ := hd.findMessage_ok
    refine (List.map_id _).symm.trans (List.map_congr_left fun m hm => ?_)
    have hne : m.key ≠ (inbox.id, source) := fun heq => by
      have hmem : (inbox.id, source) ∈ w'.tables.keys := heq ▸ List.mem_map_of_mem hm
      rw [Tables.mem_keys_iff, hnone] at hmem
      cases hmem
    rw [if_neg hne]
    rfl
  | invalid hstatus =>
    obtain ⟨rfl, hx⟩ := List.append_inj' (ht.trans (List.nil_append _).symm) rfl
    cases hx
    obtain ⟨-, rfl⟩ := hd.findMessage_ok
    refine (List.map_id _).symm.trans (List.map_congr_left fun m _ => ?_)
    rw [Message.reported_of_invalid hstatus, ite_self]
    rfl
  | updated hstatus =>
    obtain ⟨rfl, hx⟩ := List.append_inj' (ht.trans (List.singleton_append).symm) rfl
    cases hx
    obtain ⟨hrecord, hkey⟩ := hshows _ List.mem_cons_self
    rw [Tables.messages_of_updateStatus_key hids hkeys hrecord hkey hd.updateStatus_ok]
    simp only [Message.reported_of_valid hstatus]

/-- After an exchange messages stand as the exchange tells. -/
theorem WebhookJob.Tells.messages {job : WebhookJob} {log : List Exchange}
    {next : r.Reply → Program (Except DomainError IngestReport)} {hist hs : List Happening}
    (h : job.Tells log ⟨r, b⟩ hs) (hreach : (perform job).run.Reaches log (.ask r next))
    (hshows : ∀ x ∈ log, x.Shows w.tables) (hids : (w.tables.messages.map (·.id)).Nodup)
    (hkeys : w.tables.keys.Nodup) (hm : w.tables.messages = standings hist) (hd : w.Deals o r b w') :
    w'.tables.messages = standings (hist ++ hs) := by
  cases h with
  | stored hx =>
    cases hx
    have hfresh : Message.record _ = _ := (hreach.asks (perform_fresh job)).1
    rw [standings_stored hfresh, ← hm, hd.messages_of_stored]
  | reported hp =>
    obtain ⟨target, e, own, outcome, hserving, hb, hy, hne, rfl, rfl⟩ := hp
    obtain ⟨_, heq, hrec⟩ := Ingest.handleEvent_reconciled hb hy
    cases heq
    rw [standings_reported, ← hm]
    exact hrec.messages hne (fun x hx => hshows x (hserving.mem hx)) hids hkeys hd
  | nothing hcreate hnone =>
    rw [List.append_nil, ← hm]
    refine hd.messages_eq hcreate fun id status error hx => ?_
    obtain ⟨inbox, source, report, hp⟩ := processes_of_updated hx (.step hreach)
    exact hnone inbox source report hp

end Step

/-! ## Every pool -/

theorem MemoryStore.Changes.messages {s s' : MemoryStore} (h : s.Changes s') :
    s'.tables.messages = s.tables.messages := by
  cases h <;> rfl

namespace Pool

variable {n : Nat} {hist : List Happening} {P : Pool WebhookJob (Except DomainError IngestReport)}

/-- Messages stand as the history says, and every delivery goes on from what it has been shown. -/
structure Stands (hist : List Happening) (P : Pool WebhookJob (Except DomainError IngestReport)) : Prop where
  messages : P.world.tables.messages = standings hist
  keys : P.world.tables.keys.Nodup
  reaches : ∀ d ∈ P.deliveries, (perform d.job).run.Reaches d.log d.rest
  shows : ∀ d ∈ P.deliveries, ∀ x ∈ d.log, x.Shows P.world.tables

theorem Stands.congr {w w' : World} {ds : List (Delivery WebhookJob (Except DomainError IngestReport))}
    (h : Stands hist ⟨w, ds⟩) (hm : w'.tables.messages = w.tables.messages) : Stands hist ⟨w', ds⟩ where
  messages := hm.trans h.messages
  keys := by
    have hkeys : w'.tables.keys = w.tables.keys := congrArg (List.map Message.key) hm
    exact hkeys ▸ h.keys
  reaches := h.reaches
  shows d hd x hx := by
    have hrecords : w'.tables.records = w.tables.records := congrArg (List.map Message.record) hm
    exact (h.shows d hd x hx).mono fun m hm => hrecords ▸ hm

theorem Stands.turn {w w' : World} {before after : List (Delivery WebhookJob (Except DomainError IngestReport))}
    {job : WebhookJob} {log : List Exchange} {r : Request} {b : r.Reply}
    {next : r.Reply → Program (Except DomainError IngestReport)} {o : Conditions} {hs : List Happening}
    (h : Stands hist ⟨w, before ++ ⟨job, log, .ask r next⟩ :: after⟩) (hd : w.Deals o r b w')
    (hids : (w.tables.messages.map (·.id)).Nodup) (htells : job.Tells log ⟨r, b⟩ hs) :
    Stands (hist ++ hs) ⟨w', before ++ ⟨job, log ++ [⟨r, b⟩], next b⟩ :: after⟩ := by
  have hreach := h.reaches _ mem_middle
  have hshows := h.shows _ mem_middle
  refine ⟨htells.messages hreach hshows hids h.keys h.messages hd, hd.nodup h.keys, fun d hmem => ?_,
    fun d hmem x hx => ?_⟩
  · rcases mem_turn ⟨job, log, .ask r next⟩ hmem with rfl | hmem
    · exact .step hreach
    · exact h.reaches d hmem
  · rcases mem_turn ⟨job, log, .ask r next⟩ hmem with rfl | hmem
    · rcases List.mem_append.1 hx with hx | hx
      · exact (hshows x hx).mono fun m hm => hd.records.subset hm
      · cases List.mem_singleton.1 hx
        exact hd.shows
    · exact (h.shows d hmem x hx).mono fun m hm => hd.records.subset hm

theorem Told.stands (h : Told n hist P) (hn : n ≤ 2 ^ 51) : Stands hist P := by
  induction h with
  | empty => exact ⟨rfl, List.nodup_nil, nofun, nofun⟩
  | seed provider phone credentials _ _ ih => exact (ih (by omega)).congr rfl
  | @arrive n hist w ds job _ ih =>
    obtain ⟨hm, hkeys, hreach, hshows⟩ := ih hn
    refine ⟨hm, hkeys, List.forall_mem_append.2 ⟨hreach, List.forall_mem_singleton.2 .refl⟩, ?_⟩
    exact List.forall_mem_append.2 ⟨hshows, List.forall_mem_singleton.2 fun x hx => absurd hx List.not_mem_nil⟩
  | turn h hd htells ih =>
    have hn' := Nat.le_of_succ_le hn
    exact (ih hn').turn hd (reached_integrity h.reached hn').messageIds htells
  | wait _ _ ih => exact (ih hn).congr rfl
  | change _ hs ih => exact (ih hn).congr hs.messages

end Pool

end Intake
