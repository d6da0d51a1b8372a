import Intake.Proofs.Downloads.Akin
import Intake.Proofs.Report.Additions
import Intake.Proofs.Retry.Plan
import Intake.Proofs.Routing.Safe

/-!
# Where downloaded files belong

An event writes a file only if it is a message with media, and only for the message that it writes for it
(`handleEvent_files`). So each file that a delivery adds to the tables belongs to a message there that came with media
(`World.Runs.files`).
-/

namespace Intake

/-- The event is a message with media, and this is what it is stored as. -/
def IncomingEvent.StoresMedia (target : ResolvedChannel) (e : IncomingEvent) (m : Message) : Prop :=
  ∃ message media, e.body = .message message ∧ message.content = .media media ∧
    m.key = (target.inbox.id, e.sourceId) ∧ m.content = message.content.textOrPlaceholder

/-- The message was made from an event of the job that came with media. -/
def Message.CameWithMedia (target : ResolvedChannel) (job : WebhookJob) (m : Message) : Prop :=
  ∃ e ∈ target.events job, e.StoresMedia target m

namespace Ingest

variable {target : ResolvedChannel} {source : String} {m : InboundMessage} {record : Message} {t : List Exchange}
  {a : Attachment} {b : Except DomainError Unit} {d : Draft} {ds : List Draft}

/-! ## Drafts -/

theorem fallbacks_isFile {titles : List String} {as : List Attachment} (h : (fallbacks record titles).Yields t as) :
    ∀ a ∈ as, a.isFile = false := by
  induction titles generalizing t as with
  | nil =>
    obtain ⟨-, rfl⟩ := h
    exact nofun
  | cons title titles ih =>
    obtain ⟨t₁, id, t₂, rfl, -, h⟩ := Program.yields_bind.1 h
    obtain ⟨t₃, rest, t₄, rfl, hrest, -, rfl⟩ := Program.yields_bind.1 h
    exact List.forall_mem_cons.2 ⟨rfl, ih hrest⟩

theorem draftCards_isFile {draft : Drafter} {index : Nat} {cards : List ContactCard}
    (h : (draftCards draft source index cards).Yields t ds) : ∀ d ∈ ds, ∀ a ∈ d.attachments, a.isFile = false := by
  induction cards generalizing index t ds with
  | nil =>
    obtain ⟨-, rfl⟩ := h
    exact nofun
  | cons card cards ih =>
    obtain ⟨t₁, record, t₂, rfl, -, h⟩ := Program.yields_bind.1 h
    obtain ⟨t₃, as, t₄, rfl, has, h⟩ := Program.yields_bind.1 h
    obtain ⟨t₅, rest, t₆, rfl, hrest, -, rfl⟩ := Program.yields_bind.1 h
    exact List.forall_mem_cons.2 ⟨fallbacks_isFile has, ih hrest⟩

theorem attachments_file {channel : Channel} {as : List Attachment} (h : (attachments channel record m).Yields t as)
    (ha : a ∈ as) (hfile : a.isFile = true) : (∃ media, m.content = .media media) ∧ a.message = record.id := by
  unfold attachments at h
  split at h
  · obtain ⟨t₁, id, t₂, rfl, -, -, rfl⟩ := Program.yields_bind.1 h
    obtain rfl := List.mem_singleton.1 ha
    cases hfile
  · next media hmedia =>
    split at h
    · obtain ⟨-, rfl⟩ := h
      cases ha
    · obtain ⟨t₁, file, t₂, rfl, -, h⟩ := Program.yields_bind.1 h
      cases file with
      | none =>
        obtain ⟨-, rfl⟩ := h
        cases ha
      | some f =>
        obtain ⟨t₃, id, t₄, rfl, -, -, rfl⟩ := Program.yields_bind.1 h
        obtain rfl := List.mem_singleton.1 ha
        exact ⟨⟨media, hmedia⟩, rfl⟩
  · obtain ⟨-, rfl⟩ := h
    cases ha

theorem drafts_file {conversation : Conversation} {contact : Contact}
    (h : (drafts (drafter target.inbox conversation contact m.replyTo) target.channel source m).Yields t ds)
    (hd : d ∈ ds) (ha : a ∈ d.attachments) (hfile : a.isFile = true) :
    (∃ media, m.content = .media media) ∧ a.message = d.message.id ∧ d.message.key = (target.inbox.id, source) ∧
      d.message.content = m.content.textOrPlaceholder := by
  unfold drafts at h
  split at h
  · cases (draftCards_isFile h d hd a ha).symm.trans hfile
  · obtain ⟨t₁, record, t₂, rfl, hrecord, h⟩ := Program.yields_bind.1 h
    obtain ⟨t₃, as, t₄, rfl, has, -, rfl⟩ := Program.yields_bind.1 h
    obtain rfl := List.mem_singleton.1 hd
    obtain ⟨hmedia, hid⟩ := attachments_file has ha hfile
    obtain ⟨id, time, rfl⟩ := drafter_yields hrecord
    exact ⟨hmedia, hid, rfl, rfl⟩

/-! ## Writing -/

/-- The attachment is drafted with a message that was written. -/
def Attached (ds : List Draft) (t : List Exchange) (a : Attachment) : Prop :=
  ∃ d ∈ ds, a ∈ d.attachments ∧ ⟨.createMessage d.message, .ok ()⟩ ∈ t

theorem createAttachment_mem_cons {request : Request} {reply : request.Reply}
    (hx : ⟨.createAttachment a, b⟩ ∈ (⟨request, reply⟩ : Exchange) :: t) (hr : request.isAttach = false) :
    ⟨.createAttachment a, b⟩ ∈ t := by
  rcases List.mem_cons.1 hx with heq | hx
  · cases heq
    cases hr
  · exact hx

theorem writeAttachments_mem {as : List Attachment} {n : Nat} (h : (writeAttachments as).Yields t n)
    (hx : ⟨.createAttachment a, b⟩ ∈ t) : a ∈ as := by
  induction as generalizing t n with
  | nil =>
    obtain ⟨rfl, -⟩ := h
    cases hx
  | cons a' as ih =>
    obtain ⟨t₁, reply, t₂, rfl, h₁, h₂⟩ := Program.yields_bind.1 h
    obtain ⟨t₃, rest, t₄, rfl, h₃, rfl, -⟩ := Program.yields_bind.1 h₂
    obtain rfl := Program.yields_request.1 h₁
    rw [List.append_nil] at hx
    rcases List.mem_cons.1 hx with hx | hx
    · cases hx
      exact List.mem_cons_self
    · exact List.mem_cons_of_mem _ (ih h₃ hx)

theorem Attached.first {q t : List Exchange} (ha : a ∈ d.attachments) :
    Attached (d :: ds) (⟨.createMessage d.message, .ok ()⟩ :: (q ++ t)) a :=
  ⟨d, List.mem_cons_self, ha, List.mem_cons_self⟩

theorem Attached.later {q t : List Exchange} (h : Attached ds t a) : Attached (d :: ds) (q ++ t) a := by
  obtain ⟨d', hd, ha, hx⟩ := h
  exact ⟨d', List.mem_cons_of_mem _ hd, ha, List.mem_append_right _ hx⟩

theorem writeRest_attached {messages : List Snowflake} {count : Nat} {r : Except DomainError EventOutcome}
    (h : (writeRest source messages count ds).run.Yields t r) (hx : ⟨.createAttachment a, b⟩ ∈ t) :
    Attached ds t a := by
  induction ds generalizing messages count t with
  | nil =>
    obtain ⟨rfl, -⟩ := h
    cases hx
  | cons d ds ih =>
    rw [writeRest] at h
    obtain ⟨t₁, reply, t₂, rfl, h₁, h₂⟩ := Attempt.yields_lift_bind.1 h
    obtain rfl := Program.yields_request.1 h₁
    have hx₂ : ⟨.createAttachment a, b⟩ ∈ t₂ := createAttachment_mem_cons hx rfl
    rcases reply with e | ⟨⟩
    · cases e with
      | duplicateSourceId => exact (ih h₂ hx₂).later
      | _ =>
        obtain ⟨rfl, -⟩ := h₂
        cases hx₂
    · obtain ⟨q, n, t₃, rfl, h₃, h₄⟩ := Attempt.yields_lift_bind.1 h₂
      rcases List.mem_append.1 hx₂ with hq | hx₃
      · exact .first (writeAttachments_mem h₃ hq)
      · exact (ih h₄ hx₃).later (q := ⟨.createMessage d.message, .ok ()⟩ :: q)

theorem write_attached {r : Except DomainError EventOutcome} (h : (write source ds).run.Yields t r)
    (hx : ⟨.createAttachment a, b⟩ ∈ t) : Attached ds t a := by
  cases write_cases h with
  | nothing => cases hx
  | beaten | refused => cases List.mem_singleton.1 hx
  | @written d ds q t n _ ha hrest =>
    rcases List.mem_append.1 (createAttachment_mem_cons hx rfl) with hq | hx₁
    · exact .first (writeAttachments_mem ha hq)
    · exact (writeRest_attached hrest hx₁).later (q := ⟨.createMessage d.message, .ok ()⟩ :: q)

/-! ## Events -/

theorem persist_files {new : NewContact} {r : Except DomainError EventOutcome}
    (h : (persist target source m new).run.Yields t r) (hx : ⟨.createAttachment a, b⟩ ∈ t) (hfile : a.isFile = true) :
    (∃ media, m.content = .media media) ∧
      ∃ record, a.message = record.id ∧ (record.key = (target.inbox.id, source) ∧
        record.content = m.content.textOrPlaceholder) ∧ ⟨.createMessage record, .ok ()⟩ ∈ t := by
  cases persist_cases h with
  | unread | found => cases List.mem_singleton.1 hx
  | unlinked => simp at hx
  | unjoined hj =>
    have hx₁ := createAttachment_mem_cons (createAttachment_mem_cons hx rfl) rfl
    cases (resolveConversation_joins ..).mem hj _ hx₁
  | @drafted c v ds t₁ t₂ t₃ _ hj hd hw =>
    have hx₁ := createAttachment_mem_cons (createAttachment_mem_cons hx rfl) rfl
    rcases List.mem_append.1 hx₁ with hx₁ | hx₃
    · rcases List.mem_append.1 hx₁ with hx₁ | hx₂
      · cases (resolveConversation_joins ..).mem hj _ hx₁
      · cases (drafts_supplies (drafter_supplies _ _ _ _) ..).mem hd _ hx₂
    · obtain ⟨d, hmem, ha, hwritten⟩ := write_attached hw hx₃
      obtain ⟨hmedia, hid, hsays⟩ := drafts_file hd hmem ha hfile
      refine ⟨hmedia, d.message, hid, hsays, ?_⟩
      exact List.mem_cons_of_mem _ (List.mem_cons_of_mem _ (List.mem_append_right _ hwritten))

theorem handleEvent_files {e : IncomingEvent} {r : Except DomainError EventOutcome}
    (h : (handleEvent target e).run.Yields t r) (hx : ⟨.createAttachment a, b⟩ ∈ t) (hfile : a.isFile = true) :
    ∃ record, a.message = record.id ∧ e.StoresMedia target record ∧ ⟨.createMessage record, .ok ()⟩ ∈ t := by
  cases handleEvent_cases h with
  | unfit => cases hx
  | reported _ hy => cases (reconcile_asks ..).mem hy _ hx
  | announced _ hy =>
    cases resolveCard_yields hy with
    | missing => cases hx
    | resolved | refused => cases List.mem_singleton.1 hx
  | claimed hm hnew hc =>
    cases hc with
    | failed | denied => cases List.mem_singleton.1 hx
    | granted hy =>
      have hx₁ := createAttachment_mem_cons hx rfl
      rcases List.mem_append.1 hx₁ with hx₁ | hx₂
      · obtain ⟨⟨media, hmedia⟩, record, hid, hsays, hwritten⟩ := persist_files hy hx₁ hfile
        refine ⟨record, hid, ⟨_, media, hm, hmedia, hsays⟩, ?_⟩
        exact List.mem_cons_of_mem _ (List.mem_append_left _ hwritten)
      · cases List.mem_singleton.1 hx₂

theorem handleEvents_files {es : List IncomingEvent} {r : Except DomainError (List EventOutcome)}
    (h : (handleEvents target es).run.Yields t r) (hx : ⟨.createAttachment a, b⟩ ∈ t) (hfile : a.isFile = true) :
    ∃ e ∈ es, ∃ record, a.message = record.id ∧ e.StoresMedia target record ∧
      ⟨.createMessage record, .ok ()⟩ ∈ t := by
  induction es generalizing t r with
  | nil =>
    obtain ⟨rfl, -⟩ := h
    cases hx
  | cons e es ih =>
    rcases handleEvents_cons h with ⟨error, h₁, -⟩ | ⟨t₁, outcome, t₂, rest, rfl, h₁, h₂, -⟩
    · exact ⟨e, List.mem_cons_self, handleEvent_files h₁ hx hfile⟩
    rcases List.mem_append.1 hx with hx₁ | hx₂
    · obtain ⟨record, hid, hstores, hwritten⟩ := handleEvent_files h₁ hx₁ hfile
      exact ⟨e, List.mem_cons_self, record, hid, hstores, List.mem_append_left _ hwritten⟩
    · obtain ⟨e', he, record, hid, hstores, hwritten⟩ := ih h₂ hx₂
      exact ⟨e', List.mem_cons_of_mem _ he, record, hid, hstores, List.mem_append_right _ hwritten⟩

end Ingest

variable {job : WebhookJob} {target : ResolvedChannel} {t : List Exchange} {a : Attachment}
  {r : Except DomainError IngestReport}

theorem WebhookJob.ResolvedTo.files {b : Except DomainError Unit} (h : job.ResolvedTo target t r)
    (hx : ⟨.createAttachment a, b⟩ ∈ t) (hfile : a.isFile = true) :
    ∃ record, a.message = record.id ∧ record.CameWithMedia target job ∧ ⟨.createMessage record, .ok ()⟩ ∈ t := by
  obtain ⟨q, t', rfl, hq, hy⟩ := h
  rcases List.mem_append.1 hx with hx | hx
  · cases (Routing.resolve_lookups job).mem hq _ hx
  obtain ⟨_, hevents, -⟩ := performOn_active hy
  obtain ⟨e, he, record, hid, hstores, hwritten⟩ := Ingest.handleEvents_files hevents hx hfile
  exact ⟨record, hid, ⟨e, he, hstores⟩, List.mem_append_right _ hwritten⟩

theorem World.Runs.files {o : Conditions} {w w' : World} (hr : w.Runs o t w') (h : job.ResolvedTo target t r) :
    ∀ a ∈ writtenAttachments t, a.isFile = true →
      ∃ m ∈ w'.tables.messages, m.id = a.message ∧ m.CameWithMedia target job := by
  intro a ha hfile
  obtain ⟨⟨request, reply⟩, hx, hattachment⟩ := List.mem_filterMap.1 ha
  cases request with
  | createAttachment a' =>
    cases reply with
    | error => cases hattachment
    | ok =>
      cases hattachment
      obtain ⟨record, hid, ⟨e, he, message, media, hbody, hmedia, hkey, hcontent⟩, hwritten⟩ := h.files hx hfile
      -- The status of the message may have changed since it was written, but nothing else.
      have hrecord : record.record ∈ w'.tables.records := by
        rw [hr.records]
        exact List.mem_append_right _ (List.mem_map_of_mem (List.mem_filterMap.2 ⟨_, hwritten, rfl⟩))
      obtain ⟨m, hm, heq⟩ := List.mem_map.1 hrecord
      obtain ⟨hid', -, hinbox, -, -, -, hcontent', hsource, -⟩ := Message.record_eq_iff.1 heq
      have hkey' : m.key = record.key := Prod.ext hinbox hsource
      exact ⟨m, hm, hid'.trans hid.symm, e, he, message, media, hbody, hmedia, hkey'.trans hkey,
        hcontent'.trans hcontent⟩
  | _ => cases hattachment

end Intake
