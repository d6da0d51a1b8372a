import Intake.Proofs.Integrity.Reached
import Intake.Proofs.Report.Additions
import Intake.Proofs.Webhook.WellFormed

/-!
# Stored messages say something

A message is stored with the text of its event, a card's name, or a placeholder. As events are well-formed none of these
is blank, so no message is ever stored that says nothing (`reached_worded`).
-/

namespace Intake

open Text

/-- A message to be written says something. -/
def Request.Worded : Request → Prop
  | createMessage m => Tidy m.content
  | _ => True

theorem Request.worded_of_isQuiet {r : Request} (h : r.isQuiet = true) : r.Worded := by
  cases r <;> trivial

theorem Program.Quiet.worded {α : Type} {p : Program α} (h : p.Quiet) : p.Asks Request.Worded :=
  h.mono fun _ => Request.worded_of_isQuiet

theorem MessageContent.placeholder_tidy : Tidy placeholder := by decide

theorem MessageContent.textOrPlaceholder_tidy {c : MessageContent} (h : c.WellFormed) : Tidy c.textOrPlaceholder := by
  rw [textOrPlaceholder]
  cases ht : c.text? with
  | none => exact placeholder_tidy
  | some t =>
    obtain ⟨hsome, -⟩ := Option.filter_eq_some_iff.1 ht
    cases c with
    | text body =>
      obtain rfl := Option.some.inj hsome
      exact h
    | media m => exact h.caption t hsome
    | _ => cases hsome

namespace Ingest

variable {target : ResolvedChannel} {source : String} {m : InboundMessage} {e : IncomingEvent}

theorem messageContents_tidy (h : m.content.WellFormed) : ∀ content ∈ messageContents m, Tidy content := by
  rw [messageContents]
  split
  · next card cards hm =>
    rw [hm] at h
    refine List.forall_mem_map.2 fun c hc => ?_
    cases hname : c.name with
    | none => exact MessageContent.placeholder_tidy
    | some name => exact (h c hc).name name hname
  · exact List.forall_mem_singleton.2 (MessageContent.textOrPlaceholder_tidy h)

theorem persist_worded (h : m.WellFormed) (new : NewContact) :
    (persist target source m new).run.Asks Request.Worded := by
  refine asks_persist trivial trivial (fun r hr => Request.worded_of_isQuiet (Request.isQuiet_of_isJoin hr))
    (fun _ _ => (drafts_supplies (drafter_supplies _ _ _ _) ..).quiet.worded) fun v c t ds hds => ?_
  have hmessages : ∀ d ∈ ds, Tidy d.message.content := by
    refine drafts_forall (P := (Tidy ·.content)) (fun content hcontent source t record hy => ?_) hds
    obtain ⟨id, time, rfl⟩ := drafter_yields hy
    exact messageContents_tidy h.content content hcontent
  exact asks_write (fun r hr => Request.worded_of_isQuiet (Request.isQuiet_of_isAttach hr)) hmessages

theorem handleEvent_worded {provider : Provider} (h : e.WellFormed provider) (target : ResolvedChannel) :
    (handleEvent target e).run.Asks Request.Worded := by
  unfold handleEvent
  split
  · next m hm =>
    have hwf : m.WellFormed := by
      have hbody := h.body
      rwa [hm] at hbody
    unfold ingestMessage
    split
    · trivial
    · exact asks_claimed trivial trivial (persist_worded hwf _)
  · exact Attempt.asks_lift (reconcile_quiet ..).worded
  · exact Attempt.asks_lift (resolveCard_quiet ..).worded

theorem handleEvents_worded {es : List IncomingEvent} {provider : Provider} (h : ∀ e ∈ es, e.WellFormed provider)
    (target : ResolvedChannel) : (handleEvents target es).run.Asks Request.Worded := by
  induction es with
  | nil => trivial
  | cons e es ih =>
    obtain ⟨he, hes⟩ := List.forall_mem_cons.1 h
    exact Attempt.asks_bind (handleEvent_worded he target) fun _ => Attempt.asks_bind (ih hes) fun _ => trivial

end Ingest

theorem perform_worded (job : WebhookJob) : (perform job).run.Asks Request.Worded := by
  unfold perform
  refine Attempt.asks_bind (Routing.resolve_quiet job).worded fun resolution => ?_
  cases resolution with
  | active target =>
    exact Attempt.asks_bind (Ingest.handleEvents_worded (fun e he => Webhook.normalize_wellFormed he) target)
      fun _ => trivial
  | _ => trivial

namespace Pool

variable {n : Nat} {P : Pool WebhookJob (Except DomainError IngestReport)}

/-- The stored messages say something, and so do those that are yet to be stored. -/
structure Worded (P : Pool WebhookJob (Except DomainError IngestReport)) : Prop where
  records : ∀ m ∈ P.world.tables.records, Tidy m.content
  asks : ∀ d ∈ P.deliveries, d.rest.Asks Request.Worded

theorem Worded.adds {w w' : World} {new : Tables}
    {ds : List (Delivery WebhookJob (Except DomainError IngestReport))} (h : Worded ⟨w, ds⟩)
    (hadds : w.tables.Adds new w'.tables) (hnew : new.messages = []) : Worded ⟨w', ds⟩ := by
  refine ⟨?_, h.asks⟩
  change ∀ m ∈ w'.tables.messages.map Message.record, Tidy m.content
  rw [hadds.records, hnew, List.map_nil, List.append_nil]
  exact h.records

theorem Worded.turn {w w' : World} {before after : List (Delivery WebhookJob (Except DomainError IngestReport))}
    {job : WebhookJob} {log : List Exchange} {r : Request} {b : r.Reply}
    {next : r.Reply → Program (Except DomainError IngestReport)} {o : Conditions}
    (h : Worded ⟨w, before ++ ⟨job, log, .ask r next⟩ :: after⟩) (hd : w.Deals o r b w') :
    Worded ⟨w', before ++ ⟨job, log ++ [⟨r, b⟩], next b⟩ :: after⟩ := by
  obtain ⟨hr, hnext⟩ := h.asks _ mem_middle
  obtain ⟨new, hadds, hnew, -⟩ := hd.adds
  refine ⟨?_, fun d hd' => ?_⟩
  · change ∀ m ∈ w'.tables.messages.map Message.record, Tidy m.content
    rw [hadds.records, hnew]
    refine List.forall_mem_append.2 ⟨h.records, List.forall_mem_map.2 fun m hm => ?_⟩
    obtain ⟨x, hx, hwritten⟩ := List.mem_filterMap.1 hm
    obtain rfl := List.mem_singleton.1 hx
    cases r with
    | createMessage m' =>
      cases b with
      | error => cases hwritten
      | ok =>
        cases hwritten
        exact hr
    | _ => cases hwritten
  · rcases mem_turn ⟨job, log, .ask r next⟩ hd' with rfl | hmem
    · exact hnext b
    · exact h.asks d hmem

theorem Reached.worded (h : Reached n P) : P.Worded := by
  induction h with
  | empty => exact ⟨nofun, nofun⟩
  | @seed _ w _ clock provider phone credentials _ _ ih =>
    obtain ⟨c, i, -, -, -, -, hadds⟩ := w.store.addChannel_adds clock provider phone credentials
    exact ih.adds hadds rfl
  | arrive job _ ih =>
    exact ⟨ih.records, List.forall_mem_append.2 ⟨ih.asks, List.forall_mem_singleton.2 (perform_worded job)⟩⟩
  | turn _ hd ih => exact ih.turn hd
  | wait _ _ ih => exact ⟨ih.records, ih.asks⟩
  | change _ hs ih => exact ih.adds hs.adds.1 rfl

theorem Reached.content_tidy (h : Reached n P) : ∀ m ∈ P.world.tables.messages, Tidy m.content := by
  intro m hm
  exact h.worded.records m.record (List.mem_map_of_mem hm)

end Pool

/-- Events are well-formed, whatever they are read from; so all that is stored of them says something, and no message in
any store that comes about is blank. -/
theorem events_wellFormed_and_worded :
    (∀ provider payload ctx, ∀ e ∈ Webhook.normalize provider payload ctx, e.WellFormed provider) ∧
      (∀ (provider : Provider) (e : IncomingEvent), e.WellFormed provider → ∀ target,
        (Ingest.handleEvent target e).run.Asks Request.Worded) ∧
      ∀ n P, Pool.Reached n P → ∀ m ∈ P.world.tables.messages, Tidy m.content ∧ trim m.content ≠ "" := by
  refine ⟨fun provider payload ctx e he => Webhook.normalize_wellFormed he, ?_, fun n P h m hm => ?_⟩
  · intro provider e he target
    exact Ingest.handleEvent_worded he target
  · have htidy := h.content_tidy m hm
    exact ⟨htidy, htidy.trim_ne_empty⟩

namespace Sample

/-- A payload with one text message, with blanks around the text. -/
def paddedText : WebhookJob :=
  message "15550001" "wamid.1" "15550002" "text" (.object [("body", .string "  hello ")])

/-- The message is stored. -/
def paddedMoves : List Pool.Move :=
  [.seed .default "+15550001" ⟨[]⟩, .arrive paddedText] ++ List.replicate 14 (.turn 0 none none)

end Sample

/-- The text is stored without the blanks. -/
theorem padded_text_worded :
    (∃ e ∈ Webhook.normalize .default Sample.paddedText.payload {}, e.WellFormed .default) ∧
      ∃ n P, Pool.Reached n P ∧ P.world.tables.messages.map (·.content) = ["hello"] ∧
        ∀ m ∈ P.world.tables.messages, Tidy m.content ∧ trim m.content ≠ "" := by
  obtain ⟨hevents, -, hstored⟩ := events_wellFormed_and_worded
  constructor
  · have hone : (Webhook.normalize .default Sample.paddedText.payload {}).length = 1 := by decide +kernel
    obtain ⟨e, he⟩ := List.length_eq_one_iff.1 hone
    have hmem : e ∈ Webhook.normalize .default Sample.paddedText.payload {} := he ▸ List.mem_cons_self
    exact ⟨e, hmem, hevents _ _ _ e hmem⟩
  · have hplay : (Pool.play? Sample.paddedMoves Sample.pool).any (fun P =>
        decide (P.world.tables.messages.map (·.content) = ["hello"])) = true := by
      decide +kernel
    obtain ⟨P, hp, hc⟩ := (Option.any_eq_true ..).1 hplay
    obtain ⟨n, -, h⟩ := Sample.pool_reached.play hp
    exact ⟨n, P, h, of_decide_eq_true hc, hstored n P h⟩

end Intake
