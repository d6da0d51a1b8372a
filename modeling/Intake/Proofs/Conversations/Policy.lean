import Intake.Proofs.Conversations.Single
import Intake.Proofs.Delivery.Serving
import Intake.Proofs.Integrity.Handling
import Intake.Proofs.Report.Dropped
import Intake.Proofs.Retry.Effects

/-!
# Which conversation a message joins

An event that is made into messages decides on one conversation for all of them: the latest one that its inbox admits,
or one that it opens because the inbox admits none (`Tables.Decides`). The inbox is as it was when the job was routed,
the conversations are as they are when the event looks for one; what happens to them during a later download does not
matter. `conversation_policy` puts this beside the invariant that a contact inbox never has two conversations that are
not resolved.
-/

namespace Intake

/-- New messages of the inbox may join the conversation: any one if the inbox is locked, and else one that is not
resolved. -/
def Inbox.Admits (i : Inbox) (c : Conversation) : Prop := i.lockToSingleConversation = true ∨ c.status ≠ .resolved

theorem Inbox.joinable_admits_iff {i : Inbox} {c : Conversation} : i.joinable.admits c = true ↔ i.Admits c := by
  rw [joinable, Admits]
  split
  · next hlock => simp [ConversationFilter.admits, hlock]
  · next hlock => simp [ConversationFilter.admits, Conversation.isResolved, hlock]

/-- The exchange decides on the conversation for a contact inbox. -/
inductive Tables.Decides (tb : Tables) (inbox : Inbox) (link : Snowflake) (c : Conversation) : Exchange → Prop
  /-- It is the latest of those that the inbox admits. -/
  | joins :
    c ∈ tb.conversations → c.contactInbox = link → inbox.Admits c →
      (∀ d ∈ tb.conversations, d.contactInbox = link → inbox.Admits d → d.notAfter c = true) →
        Decides tb inbox link c ⟨.findConversation link inbox.joinable, .ok (some c)⟩
  /-- It is new, as the inbox admits none. -/
  | opens {b : Except DomainError Unit} :
    (∀ d ∈ tb.conversations, d.contactInbox = link → ¬ inbox.Admits d) → c.status = .open → c.contactInbox = link →
      Decides tb inbox link c ⟨.createConversation c, b⟩

namespace Exchange

/-- The conversation that is to be opened. -/
def opening : Exchange → Option Conversation
  | ⟨.createConversation c, _⟩ => some c
  | _ => none

/-- The message that is to be written. -/
def posting : Exchange → Option Message
  | ⟨.createMessage m, _⟩ => some m
  | _ => none

theorem opening_eq_none {x : Exchange} (h : x.request.isTalk = false) : x.opening = none := by
  obtain ⟨r, b⟩ := x
  cases r <;> first | rfl | cases h

theorem posting_eq_none {x : Exchange} (h : x.request.isQuiet = true) : x.posting = none := by
  obtain ⟨r, b⟩ := x
  cases r <;> first | rfl | cases h

end Exchange

/-- No conversation is to be opened, and no message to be written. -/
def Idle (t : List Exchange) : Prop := t.filterMap Exchange.opening = [] ∧ t.filterMap Exchange.posting = []

theorem idle_of_requests {t : List Exchange} (h : ∀ x ∈ t, x.request.isTalk = false ∧ x.request.isQuiet = true) :
    Idle t :=
  ⟨List.filterMap_eq_nil_iff.2 fun x hx => x.opening_eq_none (h x hx).1,
    List.filterMap_eq_nil_iff.2 fun x hx => x.posting_eq_none (h x hx).2⟩

namespace Ingest

variable {target : ResolvedChannel} {e : IncomingEvent} {t : List Exchange}

/-- Up to the exchange `x` that decides on the conversation, an event has claimed and not found its message, resolved
its contact, and perhaps looked for a conversation in vain. -/
inductive Converses (target : ResolvedChannel) (e : IncomingEvent) (new : NewContact) (contact : ResolvedContact) :
    List Exchange → Exchange → Conversation → Prop
  | joins {c : Conversation} :
    Converses target e new contact
      [⟨.tryClaim target.channel.id e.sourceId, .ok true⟩, ⟨.findMessage target.inbox.id e.sourceId, .ok none⟩,
        ⟨.upsertContact new, .ok contact⟩]
      ⟨.findConversation contact.contactInbox.id target.inbox.joinable, .ok (some c)⟩ c
  | opens {id : Snowflake} {now : Time} {b : Except DomainError Unit} :
    Converses target e new contact
      [⟨.tryClaim target.channel.id e.sourceId, .ok true⟩, ⟨.findMessage target.inbox.id e.sourceId, .ok none⟩,
        ⟨.upsertContact new, .ok contact⟩,
        ⟨.findConversation contact.contactInbox.id target.inbox.joinable, .ok none⟩, ⟨.newId, id⟩, ⟨.now, now⟩]
      ⟨.createConversation (target.inbox.opening contact id now), b⟩ (target.inbox.opening contact id now)

namespace Converses

variable {new : NewContact} {contact : ResolvedContact} {c : Conversation} {u v : List Exchange} {x : Exchange}

theorem opening (h : Converses target e new contact u x c) (hv : v.filterMap Exchange.opening = []) :
    (u ++ x :: v).filterMap Exchange.opening = x.opening.toList := by
  have hone : (u ++ [x]).filterMap Exchange.opening = x.opening.toList := by cases h <;> rfl
  rw [← List.singleton_append, ← List.append_assoc, List.filterMap_append, hone, hv, List.append_nil]

theorem posting (h : Converses target e new contact u x c)
    (hv : ∀ m ∈ v.filterMap Exchange.posting, m.conversation = c.id) :
    ∀ m ∈ (u ++ x :: v).filterMap Exchange.posting, m.conversation = c.id := by
  have hnone : (u ++ [x]).filterMap Exchange.posting = [] := by cases h <;> rfl
  rwa [← List.singleton_append, ← List.append_assoc, List.filterMap_append, hnone, List.nil_append]

end Converses

theorem drafter_conversation {inbox : Inbox} {conversation : Conversation} {contact : Contact}
    {replyTo : Option String} {content source : String} {m : Message}
    (h : (drafter inbox conversation contact replyTo content source).Yields t m) :
    m.conversation = conversation.id := by
  obtain ⟨id, time, rfl⟩ := Ingest.drafter_yields h
  rfl

/-- After the decision no other conversation is opened, and all messages are for that one. -/
theorem settled_after {inbox : Inbox} {c : Conversation} {contact : Contact} {channel : Channel} {source : String}
    {m : InboundMessage} {ds : List Draft} {t₂ t₃ : List Exchange} {r : Except DomainError EventOutcome}
    {x : Exchange} (hx : x.request.isGuard = true)
    (hd : (drafts (drafter inbox c contact m.replyTo) channel source m).Yields t₂ ds)
    (hw : (write source ds).run.Yields t₃ r) :
    (t₂ ++ t₃ ++ [x]).filterMap Exchange.opening = [] ∧
      ∀ m ∈ (t₂ ++ t₃ ++ [x]).filterMap Exchange.posting, m.conversation = c.id := by
  have hsupply := (drafts_supplies (drafter_supplies _ _ _ _) ..).mem hd
  have hrecords := (write_records source ds).mem hw
  have hmessages := drafts_forall (P := (·.conversation = c.id)) (fun _ _ _ _ _ => drafter_conversation) hd
  have htalk : x.request.isTalk = false := by
    obtain ⟨r, b⟩ := x
    cases r <;> first | rfl | cases hx
  constructor
  · refine List.filterMap_eq_nil_iff.2 (List.forall_mem_append.2 ⟨List.forall_mem_append.2 ⟨?_, ?_⟩, ?_⟩)
    · exact fun y hy => y.opening_eq_none (Request.not_isTalk_of_isSupply (hsupply y hy))
    · exact fun y hy => y.opening_eq_none (hrecords y hy).not_isTalk
    · exact List.forall_mem_singleton.2 (x.opening_eq_none htalk)
  · intro m hm
    obtain ⟨⟨r, b⟩, hy, hposting⟩ := List.mem_filterMap.1 hm
    rcases List.mem_append.1 hy with hy | hy
    · rcases List.mem_append.1 hy with hy | hy
      · cases (Exchange.posting_eq_none (Request.isQuiet_of_isSupply (hsupply _ hy))).symm.trans hposting
      · have hrecord := hrecords _ hy
        cases r with
        | createMessage =>
          obtain rfl := Option.some.inj hposting
          obtain ⟨d, hd, rfl⟩ := hrecord
          exact hmessages d hd
        | _ => cases hposting
    · cases List.mem_singleton.1 hy
      cases r with
      | createMessage => cases hx
      | _ => cases hposting

/-- Either an event neither opens a conversation nor writes, and creates nothing, or it decides on a conversation, opens
none but that, and writes its messages there. -/
theorem handleEvent_converses {result : Except DomainError EventOutcome}
    (h : (handleEvent target e).run.Yields t result) :
    (Idle t ∧ ∀ outcome, result = .ok outcome → outcome.created? = none) ∨
      ∃ new contact c u x v, e.sender.bind (NewContact.ofSender? target.inbox) = some new ∧ t = u ++ x :: v ∧
        Converses target e new contact u x c ∧ v.filterMap Exchange.opening = [] ∧
        ∀ m ∈ v.filterMap Exchange.posting, m.conversation = c.id := by
  cases handleEvent_cases h with
  | unfit => exact .inl ⟨⟨rfl, rfl⟩, by rintro _ ⟨⟩; rfl⟩
  | reported _ hr =>
    refine .inl ⟨idle_of_requests fun x hx => ?_, ?_⟩
    · exact ⟨Request.not_isTalk_of_isFollowUp ((reconcile_asks ..).mem hr x hx), (reconcile_quiet ..).mem hr x hx⟩
    · rintro _ ⟨⟩
      exact reconcile_created hr
  | announced _ hr =>
    refine .inl ⟨?_, ?_⟩
    · cases resolveCard_yields hr <;> exact ⟨rfl, rfl⟩
    · rintro _ ⟨⟩
      exact resolveCard_created hr
  | claimed _ hnew hc =>
    have hsender := sender_of_accept hnew
    cases hc with
    | failed => exact .inl ⟨⟨rfl, rfl⟩, nofun⟩
    | denied => exact .inl ⟨⟨rfl, rfl⟩, by rintro _ ⟨⟩; rfl⟩
    | @granted _ released _ hp =>
      cases persist_cases hp with
      | unread | unlinked => exact .inl ⟨⟨rfl, rfl⟩, nofun⟩
      | found => exact .inl ⟨⟨rfl, rfl⟩, by rintro _ ⟨⟩; rfl⟩
      | unjoined hj =>
        generalize hr : (Except.error _ : Except DomainError Conversation) = r at hj
        cases resolveConversation_cases hj with
        | unread => exact .inl ⟨⟨rfl, rfl⟩, nofun⟩
        | joined => cases hr
        | opened => exact .inr ⟨_, _, _, _, _, _, hsender, rfl, .opens, rfl, by simp [Exchange.posting]⟩
      | @drafted contact c ds t₁ t₂ t₃ _ hj hd hw =>
        have hafter := settled_after (x := ⟨.release target.channel.id e.sourceId, released⟩) rfl hd hw
        generalize hr : (Except.ok c : Except DomainError Conversation) = r at hj
        cases resolveConversation_cases hj with
        | unread => cases hr
        | joined =>
          cases hr
          exact .inr ⟨_, contact, c, _, _, t₂ ++ t₃ ++ [_], hsender, by simp, .joins, hafter⟩
        | @opened id now b =>
          cases b with
          | error => cases hr
          | ok done =>
            cases hr
            exact .inr ⟨_, contact, _, _, _, t₂ ++ t₃ ++ [_], hsender, by simp, .opens (b := .ok done), hafter⟩

end Ingest

theorem Tables.Links.findContactInbox {t t' : Tables} {new : NewContact} {c : ResolvedContact} (h : t.Links new c t') :
    t'.findContactInbox new.inbox new.sourceId = some c.contactInbox := by
  cases h with
  | linked hl => exact hl
  | @known c l hl _ hlink => exact findContactInbox_add (c := ⟨c, l⟩) hl hlink
  | @new c l hl _ _ hlink => exact findContactInbox_add (c := ⟨c, l⟩) hl hlink

namespace World

variable {w w₁ w' : World} {o : Conditions} {r : Request} {b : r.Reply} {t u : List Exchange}

theorem Deals.tables_of_reading (h : w.Deals o r b w') (hr : r = .newId ∨ r = .now) : w'.tables = w.tables := by
  rcases h with ⟨clock, file, -, -, ha⟩ | ⟨e, -, -, rfl⟩
  · rcases hr with rfl | rfl
    · cases ha
      rfl
    · cases ha
      rfl
  · rfl

theorem Deals.links {new : NewContact} {c : ResolvedContact} (h : w.Deals o (.upsertContact new) (.ok c) w') :
    w.tables.Links new c w'.tables := by
  rcases h with ⟨clock, file, -, -, ha⟩ | ⟨e, -, hb, -⟩
  · obtain ⟨hreply, rfl⟩ := Prod.mk.inj (Option.some.inj ha)
    exact w.store.links_of_upsertContact hreply
  · cases hb

variable {target : ResolvedChannel} {e : IncomingEvent} {new : NewContact} {contact : ResolvedContact}
  {c : Conversation} {x : Exchange}

theorem Carries.decides (h : w.Carries (u ++ x :: t) w') (hc : Ingest.Converses target e new contact u x c)
    (hinbox : new.inbox = target.inbox.id) :
    ∃ w₁ w₂, w.Carries u w₁ ∧ w₁.Deals {} x.request x.reply w₂ ∧ w₂.Carries t w' ∧
      w₁.tables.findContactInbox target.inbox.id new.sourceId = some contact.contactInbox ∧
      w₁.tables.Decides target.inbox contact.contactInbox.id c x := by
  obtain ⟨w₀, hu, hrest⟩ := h.split
  rw [← hinbox]
  cases hc with
  | joins =>
    obtain ⟨now, w₂, hwaits, hx, ht⟩ := hrest.cons rfl
    obtain ⟨_, _, -, hruns⟩ := (hu.runs (by simp [Request.isFetch])).cons
    obtain ⟨_, _, -, hruns⟩ := hruns.cons
    obtain ⟨_, _, hd, hruns⟩ := hruns.cons
    obtain ⟨_, rfl⟩ := hruns.nil_eq
    obtain ⟨hmem, hlatest⟩ := Conversation.latest?_spec hx.findConversation_ok.1
    obtain ⟨hc, hboth⟩ := List.mem_filter.1 hmem
    obtain ⟨hlink, hadmits⟩ := Bool.and_eq_true_iff.1 hboth
    refine ⟨_, w₂, hu.append hwaits, hx, ht, hd.links.findContactInbox, .joins hc (of_decide_eq_true hlink)
      (Inbox.joinable_admits_iff.1 hadmits) fun d hd hdlink hdadmits => hlatest d (List.mem_filter.2 ⟨hd, ?_⟩)⟩
    exact Bool.and_eq_true_iff.2 ⟨decide_eq_true hdlink, Inbox.joinable_admits_iff.2 hdadmits⟩
  | opens =>
    obtain ⟨now, w₂, hwaits, hx, ht⟩ := hrest.cons rfl
    obtain ⟨_, _, -, hruns⟩ := (hu.runs (by simp [Request.isFetch])).cons
    obtain ⟨_, _, -, hruns⟩ := hruns.cons
    obtain ⟨_, w₃, hd, hruns⟩ := hruns.cons
    obtain ⟨_, w₄, hnone, hruns⟩ := hruns.cons
    obtain ⟨_, w₅, hid, hruns⟩ := hruns.cons
    obtain ⟨_, w₆, hnow, hruns⟩ := hruns.cons
    obtain ⟨_, rfl⟩ := hruns.nil_eq
    obtain ⟨hfound, rfl⟩ := hnone.findConversation_ok
    have htables : w₆.tables = w₃.tables := (hnow.tables_of_reading (.inr rfl)).trans (hid.tables_of_reading (.inl rfl))
    refine ⟨_, w₂, hu.append hwaits, hx, ht, ?_, ?_⟩
    · change w₆.tables.findContactInbox _ _ = _
      rw [htables]
      exact hd.links.findContactInbox
    · change w₆.tables.Decides _ _ _ _
      rw [htables]
      refine .opens (fun d hd hlink hadmits => ?_) rfl rfl
      exact Tables.findConversation_eq_none_iff.1 hfound d hd ⟨hlink, Inbox.joinable_admits_iff.2 hadmits⟩

end World

/-- Whatever happens to conversations, locks and tenants while jobs are performed one after another, also within each
other's downloads, a contact inbox never has two conversations that are not resolved. And an event of a job, which is
for the channel and the inbox that were read when the job was routed, either neither opens a conversation nor writes a
message, or it decides on one conversation and writes all its messages there. -/
theorem conversation_policy {w : World} (h : w.Arises) :
    (∀ link, w.tables.unresolved link ≤ 1) ∧
    ∀ job t r w', (perform job).run.Yields t r → w.Carries t w' →
      ∀ target e before own after result, t = before ++ (own ++ after) → job.Serving target e (before ++ own) own →
        (Ingest.handleEvent target e).run.Yields own result →
          w.tables.route job = .active target ∧
          ((Idle own ∧ ∀ outcome, result = .ok outcome → outcome.created? = none) ∨
            ∃ new link c u x v w₁ w₂, e.sender.bind (NewContact.ofSender? target.inbox) = some new ∧ own = u ++ x :: v ∧
              w.Carries (before ++ u) w₁ ∧ w₁.Deals {} x.request x.reply w₂ ∧ w₂.Carries (v ++ after) w' ∧
              w₁.tables.findContactInbox target.inbox.id new.sourceId = some link ∧
              w₁.tables.Decides target.inbox link.id c x ∧ own.filterMap Exchange.opening = x.opening.toList ∧
              ∀ m ∈ own.filterMap Exchange.posting, m.conversation = c.id) := by
  refine ⟨h.single, ?_⟩
  rintro job t r w' - hw target e before own after result rfl hserving hy
  obtain ⟨w₀, hbefore, hw⟩ := hw.split
  constructor
  · obtain ⟨q, earlier, es, es', outcomes, hlog, hq, -, -⟩ := hserving
    obtain rfl : before = q ++ earlier := List.append_cancel_right (hlog.trans (List.append_assoc q earlier own).symm)
    obtain ⟨w₁, hrouted, -⟩ := hbefore.split
    have hruns : w.Runs {} q w₁ :=
      hrouted.runs fun x hx => Request.isFetch_of_isLookup ((Routing.resolve_lookups job).mem hq x hx)
    exact (Routing.resolve_yields hq hruns.fits).symm
  · refine (Ingest.handleEvent_converses hy).imp_right ?_
    rintro ⟨new, contact, c, u, x, v, hsender, rfl, hc, hopening, hposting⟩
    rw [List.append_assoc, List.cons_append] at hw
    obtain ⟨w₁, w₂, hu, hx, hv, hlink, hdecides⟩ := hw.decides hc (NewContact.for_of_sender hsender).inbox
    exact ⟨new, contact.contactInbox, c, u, x, v, w₁, w₂, hsender, rfl, hbefore.append hu, hx, hv, hlink, hdecides,
      hc.opening hopening, hc.posting hposting⟩

/-! ### A conversation that is resolved during a download -/

namespace World

/-- All conversations are resolved, and then the job is performed. -/
def resolveAndPerform (job : WebhookJob) (w : World) : Option (List Exchange × World) :=
  (Replay.host? {} [] (perform job).run
    { w with store := { w.store with tables := w.tables.resolveConversations } }).map fun (_, u, _, w) => (u, w)

theorem resolveAndPerform_within (job : WebhookJob) :
    Replay.Within { visit := resolveAndPerform job } .visited where
  clocks := Conditions.clocks_zero {}
  refuses _ _ := nofun
  serves _ _ := trivial
  visits w u w₁ h x t v w' hx hrest := by
    obtain ⟨⟨t₁, u₁, r, w₂⟩, hhost, heq⟩ := Option.map_eq_some_iff.1 h
    cases heq
    have hwithin : Replay.Within {} .visited :=
      ⟨Conditions.clocks_zero {}, fun _ _ => nofun, fun _ _ => trivial, fun _ _ _ => Replay.unvisited⟩
    obtain ⟨hy, hguest⟩ := hwithin.host hhost
    exact .intrusion hx ⟨rfl, .inl .resolve⟩ (.guest hx ⟨job, r, hy⟩ hguest hrest)

/-- All inboxes are locked. -/
def lockAll (w : World) : World :=
  w.tables.inboxes.foldl (fun w i => { w with store := { w.store with tables := w.tables.setLock i.id true } }) w

theorem Arises.lockAll {w : World} (h : w.Arises) : w.lockAll.Arises := by
  unfold World.lockAll
  generalize w.tables.inboxes = inboxes
  induction inboxes generalizing w with
  | nil => exact h
  | cons i inboxes ih => exact ih (.change h (.lock i.id true))

end World

namespace Sample

def firstPicture : WebhookJob := message "15550001" "wamid.1" "15550002" "image" (.object [("id", .string "media.1")])

def laterGreeting : WebhookJob := message "15550001" "wamid.2" "15550002" "text" (.object [("body", .string "hello")])

def lastGreeting : WebhookJob :=
  message "15550001" "wamid.3" "15550002" "text" (.object [("body", .string "hello again")])

theorem world_arises : world.Arises := .seed .empty

end Sample

/-- While a picture is downloaded its conversation is resolved, and the sender's greeting opens another. Then the inbox
is locked, and the next message joins one of the two conversations. -/
theorem resolved_during_download_joined : ∃ w job t report w', World.Arises w ∧
    (perform job).run.Yields t (.ok report) ∧ w.Carries t w' ∧
    (w.tables.conversations.length = 2 ∧ w'.tables.conversations.length = 2) ∧ (∀ link, w.tables.unresolved link ≤ 1) ∧
    ∃ target e before own after outcome, job.Answered target e before own outcome ∧ t = before ++ (own ++ after) ∧
      outcome.created?.isSome = true ∧ w.tables.route job = .active target ∧
      ∃ link c x w₁, (World.tables w₁).Decides target.inbox link c x ∧
        ∀ m ∈ own.filterMap Exchange.posting, m.conversation = c.id := by
  have hplay : (Replay.run? { visit := World.resolveAndPerform Sample.laterGreeting } []
      (perform Sample.firstPicture).run Sample.world).any (fun first =>
      ((Replay.calm fun _ _ => none).run? [] (perform Sample.lastGreeting).run first.2.2.lockAll).any fun second =>
        second.2.1.toOption.any fun report => decide
          ((first.2.2.lockAll.tables.conversations.length = 2 ∧ second.2.2.tables.conversations.length = 2) ∧
            ∃ outcome, report.outcomes[0]? = some outcome ∧ outcome.created?.isSome = true)) = true := by
    decide +kernel
  obtain ⟨⟨t₁, r₁, w₁⟩, hfirst, hplay⟩ := (Option.any_eq_true ..).1 hplay
  obtain ⟨⟨t, r, w'⟩, hcarry, hcheck⟩ := (Option.any_eq_true ..).1 hplay
  obtain ⟨hy₁, hw₁⟩ := (World.resolveAndPerform_within _).run hfirst
  obtain ⟨hy, hruns⟩ := World.runs_of_calm hcarry
  cases r with
  | error => cases hcheck
  | ok report =>
    obtain ⟨htwo, outcome, hi, hcreated⟩ := of_decide_eq_true hcheck
    have harises : w₁.lockAll.Arises := (Sample.world_arises.performs (Program.reaches_of_yields hy₁) hw₁).lockAll
    obtain ⟨hsingle, hpolicy⟩ := conversation_policy harises
    obtain ⟨target, e, before, own, after, -, rfl, ha⟩ := perform_answers hy hi
    obtain ⟨hroute, ⟨-, hnone⟩ | ⟨new, link, c, u, x, v, w₂, w₃, -, -, -, -, -, -, hdecides, -, hposting⟩⟩ :=
      hpolicy _ _ _ _ hy (.of_runs hruns) _ _ _ _ _ _ rfl ha.serving ha.handled
    · rw [hnone outcome rfl] at hcreated
      cases hcreated
    · exact ⟨w₁.lockAll, _, _, report, w', harises, hy, .of_runs hruns, htwo, hsingle, target, e, before, own, after,
        outcome, ha, rfl, hcreated, hroute, link.id, c, x, w₂, hdecides, hposting⟩

end Intake
