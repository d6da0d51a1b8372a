import Intake.Proofs.Report.Additions
import Intake.Proofs.World.Play

/-!
# Reports tell the truth

`EventOutcome.Truthful` says what an outcome promises about the tables before and after its event, and `Recounted` that
every event of a run has such an outcome, in order. Every report comes with this (`perform_truthful`), whatever is
refused on the way: an attachment that could not be written is not counted, a status that could not be stored is not
reported, and a report of a delivery that was skipped leaves everything as it was.
-/

namespace Intake

namespace Tables

variable {t t' : Tables} {inbox : Snowflake} {source : String} {m : Message} {status : MessageStatus}
  {error : Option String}

theorem find?_updateStatus (h : t.updateStatus m.id status error = .ok t') :
    t'.messages.find? (·.id = m.id) = (t.messages.find? (·.id = m.id)).map (·.applyStatus status error) := by
  rw [messages_of_updateStatus h]
  exact find?_modifyFirst (f := fun m : Message => m.applyStatus status error) (fun _ => rfl) _

theorem findMessage_updateStatus (hn : (t.messages.map (·.id)).Nodup) (hm : t.findMessage inbox source = some m)
    (h : t.updateStatus m.id status error = .ok t') :
    t'.findMessage inbox source = some (m.applyStatus status error) := by
  have hkeys : ((fun n : Message => n.inbox = inbox && n.sourceId = source) ∘ fun n : Message =>
      if n.id = m.id then n.applyStatus status error else n) = fun n => n.inbox = inbox && n.sourceId = source := by
    funext n
    rw [Function.comp_apply]
    split <;> rfl
  rw [findMessage] at hm ⊢
  rw [messages_of_updateStatus h, modifyFirst_of_id hn, List.find?_map, hkeys, hm, Option.map_some, if_pos rfl]

end Tables

/-- What an outcome says of the tables before and after its event. -/
structure EventOutcome.Truthful (inbox : Snowflake) (outcome : EventOutcome) (before after : Tables) : Prop where
  /-- The messages of the outcome have been added, in this order. -/
  messages : after.messages.map (·.id) = before.messages.map (·.id) ++ outcome.messages
  attachments : ∃ new, after.attachments = before.attachments ++ new ∧ new.length = outcome.attachments
  contacts : ∀ c ∈ before.contacts, c ∈ after.contacts
  /-- The message of the event was there and carries the status now. -/
  updated : ∀ source status, outcome = .statusUpdated source status →
    ∃ m m', before.findMessage inbox source = some m ∧ after.messages.find? (·.id = m.id) = some m' ∧
      m'.status = status ∧
      ((before.messages.map (·.id)).Nodup → after.findMessage inbox source = some m')
  resolved : ∀ source id, outcome = .contactResolved source id → ∃ c ∈ after.contacts, c.id = id

/-- Every event has an outcome of its source id, which tells the truth about the tables before and after it. -/
inductive Recounted (inbox : Snowflake) : List IncomingEvent → List EventOutcome → Tables → Tables → Prop
  | nil {tb : Tables} : Recounted inbox [] [] tb tb
  | cons {e : IncomingEvent} {es : List IncomingEvent} {outcome : EventOutcome} {outcomes : List EventOutcome}
    {tb tb₁ tb' : Tables} :
    outcome.sourceId = e.sourceId → outcome.Truthful inbox tb tb₁ → Recounted inbox es outcomes tb₁ tb' →
      Recounted inbox (e :: es) (outcome :: outcomes) tb tb'

namespace Recounted

variable {inbox : Snowflake} {es : List IncomingEvent} {outcomes : List EventOutcome} {tb tb' : Tables}

theorem sourceIds (h : Recounted inbox es outcomes tb tb') :
    outcomes.map (·.sourceId) = es.map (·.sourceId) := by
  induction h with
  | nil => rfl
  | cons hs _ _ ih => rw [List.map_cons, List.map_cons, hs, ih]

theorem attachments (h : Recounted inbox es outcomes tb tb') :
    ∃ new, tb'.attachments = tb.attachments ++ new ∧
      new.length = (outcomes.map EventOutcome.attachments).sum := by
  induction h with
  | nil => exact ⟨[], (List.append_nil _).symm, rfl⟩
  | cons _ ho _ ih =>
    obtain ⟨first, hfirst, hlength⟩ := ho.attachments
    obtain ⟨rest, hrest, hlengths⟩ := ih
    refine ⟨first ++ rest, ?_, ?_⟩
    · rw [hrest, hfirst, List.append_assoc]
    · rw [List.length_append, hlength, hlengths, List.map_cons, List.sum_cons]

theorem contacts (h : Recounted inbox es outcomes tb tb') {c : Contact} (hc : c ∈ tb.contacts) : c ∈ tb'.contacts := by
  induction h with
  | nil => exact hc
  | cons _ ho _ ih => exact ih (ho.contacts c hc)

/-- A contact that some event was resolved to is stored, also after the events that follow. -/
theorem resolved (h : Recounted inbox es outcomes tb tb') {source : String} {id : Snowflake}
    (hid : .contactResolved source id ∈ outcomes) : ∃ c ∈ tb'.contacts, c.id = id := by
  induction h with
  | nil => cases hid
  | cons _ ho hrest ih =>
    rcases List.mem_cons.1 hid with heq | hid
    · obtain ⟨c, hc, hcid⟩ := ho.resolved source id heq.symm
      exact ⟨c, hrest.contacts hc, hcid⟩
    · exact ih hid

end Recounted

namespace World

variable {o : Conditions} {w w' : World} {t : List Exchange}

theorem Deals.upsertContact_ok {new : NewContact} {resolved : ResolvedContact}
    (h : w.Deals o (.upsertContact new) (.ok resolved) w') : resolved.contact ∈ w'.tables.contacts := by
  rcases h with ⟨clock, file, -, -, ha⟩ | ⟨e, -, hb, -⟩
  · obtain ⟨hreply, rfl⟩ := Prod.mk.inj (Option.some.inj ha)
    exact w.store.contact_of_upsertContact hreply
  · cases hb

end World

namespace Ingest

variable {o : Conditions} {w w' : World} {target : ResolvedChannel} {e : IncomingEvent} {t : List Exchange}
  {outcome : EventOutcome}

/-- What an event with an outcome is about: a delivery report, an announced contact, or a message. -/
theorem handleEvent_ok (h : (handleEvent target e).run.Yields t (.ok outcome)) :
    (∃ report, e.body = .status report ∧ Reconciled target.inbox e.sourceId report t outcome) ∨
      (e.body = .contactCard ∧ CardResolved target.inbox e.sourceId e.sender t outcome) ∨
      (∃ m, e.body = .message m) ∧
        ((∃ reason, outcome = .dropped e.sourceId reason) ∨
          ∃ messages count, outcome = .messageCreated e.sourceId messages count) := by
  cases handleEvent_cases h with
  | unfit hm => exact .inr (.inr ⟨⟨_, hm⟩, .inl ⟨_, rfl⟩⟩)
  | claimed hm hnew hc =>
    refine .inr (.inr ⟨⟨_, hm⟩, ?_⟩)
    have ha : e.Accepted _ := (accept_ok_iff hm).1 ⟨_, hnew⟩
    cases hc.handled ha with
    | quiet hnone => exact absurd ha (hnone _)
    | denied => exact .inl ⟨_, rfl⟩
    | granted _ hp =>
      cases hp with
      | found | beaten => exact .inl ⟨_, rfl⟩
      | created => exact .inr ⟨_, _, rfl⟩
  | reported hb h' => exact .inl ⟨_, hb, reconcile_yields h'⟩
  | announced hb h' => exact .inr (.inl ⟨hb, resolveCard_yields h'⟩)

theorem Reconciled.carried {inbox : Inbox} {source : String} {report : StatusReport} {status : MessageStatus}
    (h : Reconciled inbox source report t (.statusUpdated source status)) (hr : w.Runs o t w') :
    ∃ m m', w.tables.findMessage inbox.id source = some m ∧ w'.tables.messages.find? (·.id = m.id) = some m' ∧
      m'.status = status ∧
      ((w.tables.messages.map (·.id)).Nodup → w'.tables.findMessage inbox.id source = some m') := by
  cases h with
  | @updated m _ hstatus =>
    obtain ⟨_, w₁, hd₁, hr₁⟩ := hr.cons
    obtain ⟨_, w₂, hd₂, hr₂⟩ := hr₁.cons
    obtain ⟨hm, rfl⟩ := hd₁.findMessage_ok
    have hu := hd₂.updateStatus_ok
    have htables : w'.tables = w₂.tables := hr₂.tables_of_lookups (by simp)
    rw [← htables] at hu
    obtain ⟨m₀, hm₀⟩ : ∃ m₀, w.tables.messages.find? (·.id = m.id) = some m₀ := by
      refine Option.isSome_iff_exists.1 (List.find?_isSome.2 ⟨m, (Tables.findMessage_eq_some hm).1, ?_⟩)
      exact decide_eq_true rfl
    have hfind := Tables.find?_updateStatus hu
    refine ⟨m, m₀.applyStatus status (externalError? status report), hm, ?_, rfl, fun hn => ?_⟩
    · exact hfind.trans (congrArg (Option.map _) hm₀)
    · -- The row of an id is the message that was found, as no other row has the id.
      have hid : m₀.id = m.id := by simpa using List.find?_some hm₀
      obtain rfl : m₀ = m :=
        List.inj_on_of_nodup_map hn (List.mem_of_find?_eq_some hm₀) (Tables.findMessage_eq_some hm).1 hid
      exact Tables.findMessage_updateStatus hn hm hu

theorem CardResolved.stored {inbox : Inbox} {source : String} {sender : Option Sender} {id : Snowflake}
    (h : CardResolved inbox source sender t (.contactResolved source id)) (hr : w.Runs o t w') :
    ∃ c ∈ w'.tables.contacts, c.id = id := by
  cases h with
  | resolved =>
    obtain ⟨_, w₁, hd, hr₁⟩ := hr.cons
    exact ⟨_, hr₁.mem_contacts hd.upsertContact_ok, rfl⟩

theorem handleEvent_truthful (h : (handleEvent target e).run.Yields t (.ok outcome)) (hr : w.Runs o t w') :
    outcome.Truthful target.inbox.id w.tables w'.tables := by
  obtain ⟨-, hcounts⟩ := handleEvent_counts h
  refine ⟨hcounts.messages ▸ hr.messageIds, ⟨_, hr.attachments, hcounts.attachments.symm⟩,
    fun c hc => hr.mem_contacts hc, ?_, ?_⟩
  · rintro source status rfl
    rcases handleEvent_ok h with ⟨report, -, hrec⟩ | ⟨-, hcard⟩ | ⟨-, ⟨_, heq⟩ | ⟨_, _, heq⟩⟩
    · obtain rfl : source = e.sourceId := hrec.sourceId
      exact hrec.carried hr
    · cases hcard
    · cases heq
    · cases heq
  · rintro source id rfl
    rcases handleEvent_ok h with ⟨report, -, hrec⟩ | ⟨-, hcard⟩ | ⟨-, ⟨_, heq⟩ | ⟨_, _, heq⟩⟩
    · cases hrec
    · obtain rfl : source = e.sourceId := hcard.sourceId
      exact hcard.stored hr
    · cases heq
    · cases heq

theorem handleEvents_recounted {es : List IncomingEvent} {outcomes : List EventOutcome}
    (h : (handleEvents target es).run.Yields t (.ok outcomes)) (hr : w.Runs o t w') :
    Recounted target.inbox.id es outcomes w.tables w'.tables := by
  induction es generalizing w t outcomes with
  | nil =>
    obtain ⟨rfl, heq⟩ := h
    cases heq
    have htables : w'.tables = w.tables := hr.tables_of_lookups (by simp)
    exact htables ▸ .nil
  | cons e es ih =>
    rcases handleEvents_cons h with ⟨error, -, heq⟩ | ⟨t₁, outcome, t₂, rest, rfl, h₁, h₂, heq⟩
    · cases heq
    cases rest with
    | error => cases heq
    | ok rest =>
      cases heq
      obtain ⟨w₁, hr₁, hr₂⟩ := hr.split
      exact .cons (handleEvent_counts h₁).1 (handleEvent_truthful h₁ hr₁) (ih h₂ hr₂)

end Ingest

/-- A report tells the truth about its run. If the delivery was skipped then nothing is different but the time and the
number of look-ups that are going to fail. Otherwise each event has an outcome of its source id that is true of the
tables before and after the event; so the report lists the messages and counts the attachments that have been added. -/
theorem perform_truthful {job : WebhookJob} {o : Conditions} {w w' : World} {t : List Exchange} {report : IngestReport}
    (h : (perform job).run.Yields t (.ok report)) (hr : w.Runs o t w') :
    (report.skipped ≠ none → report.outcomes = [] ∧
      ∃ now n, w' = { w with instant := now, store := { w.store with failingLookups := n } }) ∧
    (report.skipped = none → ∃ target, w.tables.route job = .active target ∧ report.channel = some target.channel.id ∧
      report.outcomes.map (·.sourceId) = (target.events job).map (·.sourceId) ∧
      Recounted target.inbox.id (target.events job) report.outcomes w.tables w'.tables ∧
      (∃ new, w'.tables.records = w.tables.records ++ new ∧ new.map (·.id) = report.createdMessages) ∧
      (∃ new, w'.tables.attachments = w.tables.attachments ++ new ∧
        new.length = (report.outcomes.map EventOutcome.attachments).sum) ∧
      ∀ source id, .contactResolved source id ∈ report.outcomes → ∃ c ∈ w'.tables.contacts, c.id = id) := by
  have hcreated := perform_counts h
  have hrecords := hr.records
  obtain ⟨q, t', res, rfl, hq, ⟨e, -, -, heq⟩ | ⟨resolution, rfl, h'⟩⟩ := perform_resolves h
  · cases heq
  have hfits := hr.fits
  obtain ⟨w₀, hrq, hr'⟩ := hr.split
  have hlookups : ∀ x ∈ q, x.request.isLookup = true := (Routing.resolve_lookups job).mem hq
  have hroute : resolution = w.tables.route job :=
    Routing.resolve_yields hq fun x hx => hfits x (List.mem_append_left _ hx)
  cases resolution with
  | active target =>
    rcases Attempt.yields_bind.1 h' with ⟨e, -, heq⟩ | ⟨t₁, outcomes, t₂, rfl, h₁, rfl, heq⟩
    · cases heq
    cases heq
    rw [List.append_nil] at hr'
    have hall := Ingest.handleEvents_recounted h₁ hr'
    rw [hrq.tables_of_lookups hlookups] at hall
    refine ⟨fun hs => absurd rfl hs, fun _ => ⟨target, hroute.symm, rfl, hall.sourceIds, hall,
      ⟨_, hrecords, ?_⟩, hall.attachments, fun source id hid => hall.resolved hid⟩⟩
    rw [hcreated, List.map_map]
    rfl
  | _ =>
    obtain ⟨rfl, heq⟩ := h'
    cases heq
    rw [List.append_nil] at hr
    exact ⟨fun _ => ⟨rfl, hr.eq_of_lookups hlookups⟩, fun hs => by cases hs⟩

namespace Sample

/-- An element of the messages of a payload. -/
def entry (id kind : String) (content : Json) : Json :=
  .object [("id", .string id), ("from", .string "15550002"), ("type", .string kind), (kind, content)]

/-- A greeting, two contacts, and a report that the greeting was read. -/
def mixed : WebhookJob :=
  (WebhookJob.ofPayload (.object
    [("messages", .array
        [entry "wamid.1" "text" (.object [("body", .string "hello")]),
          entry "wamid.2" "contacts" (.array [card "Ada" "15550003", card "Grace" "15550004"])]),
      ("statuses", .array [.object [("id", .string "wamid.1"), ("status", .string "read")]])])).withPhoneNumber
    "15550001"

end Sample

/-- Three messages and two attachments are reported, and the greeting's status. -/
theorem mixed_truthful : ∃ t report w', ∃ target : ResolvedChannel,
    (perform Sample.mixed).run.Yields t (.ok report) ∧ Sample.world.Runs {} t w' ∧
    report.skipped = none ∧
    (report.outcomes.map (fun outcome => (outcome.sourceId, outcome.messages.length, outcome.attachments)) =
        [("wamid.1", 1, 0), ("wamid.2", 2, 2), ("wamid.1", 0, 0)] ∧
      w'.tables.messages.map (·.status) = [.read, .sent, .sent]) ∧
    Recounted target.inbox.id (target.events Sample.mixed) report.outcomes Sample.world.tables w'.tables := by
  have hplay : ((Replay.calm fun _ _ => none).run? [] (perform Sample.mixed).run Sample.world).any (fun played =>
      played.2.1.toOption.any fun report => decide (report.skipped = none ∧
        report.outcomes.map (fun outcome => (outcome.sourceId, outcome.messages.length, outcome.attachments)) =
          [("wamid.1", 1, 0), ("wamid.2", 2, 2), ("wamid.1", 0, 0)] ∧
        played.2.2.tables.messages.map (·.status) = [.read, .sent, .sent])) = true := by
    decide +kernel
  obtain ⟨⟨t, r, w'⟩, hcarry, hcheck⟩ := (Option.any_eq_true ..).1 hplay
  obtain ⟨hy, hr⟩ := World.runs_of_calm hcarry
  cases r with
  | error => cases hcheck
  | ok report =>
    obtain ⟨hskipped, houtcomes, hstatuses⟩ := of_decide_eq_true hcheck
    obtain ⟨target, -, -, -, hall, -⟩ := (perform_truthful hy hr.unconditioned).2 hskipped
    exact ⟨t, report, w', target, hy, hr.unconditioned, hskipped, ⟨houtcomes, hstatuses⟩, hall⟩

end Intake
