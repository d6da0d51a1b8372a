import Intake.Proofs.Delivery.Handle
import Intake.Proofs.Tenants.Alike

/-!
# A delivery does not depend on what is downloaded

`Program.Akin`: two programs make like requests whatever their downloads bring, as long as all other replies are alike.
A file needs an id and is written, so each of the two may ask for an id or write a file when the other does not. Unlike
`Program.Like`, this leaves room for errors: the refusal of a message ends both deliveries in the same way.
-/

namespace Intake

/-- Whether the attachment is a downloaded file. -/
def Attachment.isFile (a : Attachment) : Bool := a.payload matches .file ..

namespace Request

/-- Whether the request writes a downloaded file. -/
def isFiling : Request → Bool
  | createAttachment a => a.isFile
  | _ => false

/-- What a file needs. -/
def isExtra : Request → Bool
  | newId => true
  | r => r.isFiling

/-- Whether the request neither writes a message or an attachment nor downloads. -/
def isPlain : Request → Bool
  | createMessage _ | createAttachment _ | fetch .. => false
  | _ => true

theorem isPlain_of_isJoin {r : Request} (h : r.isJoin = true) : r.isPlain = true := by
  cases r <;> trivial

theorem isPlain_of_isFollowUp {r : Request} (h : r.isFollowUp = true) : r.isPlain = true := by
  cases r <;> trivial

theorem isFiling_of_isPlain {r : Request} (h : r.isPlain = true) : r.isFiling = false := by
  cases r <;> first | rfl | cases h

end Request

/-- Replies that say the same, up to the renaming, but for what is downloaded. Messages may be refused. -/
def Exchange.Akin (ρ : Renaming) : Exchange → Exchange → Prop
  | ⟨.createMessage _, b⟩, ⟨.createMessage _, b'⟩ => b = b'
  | ⟨.fetch .., _⟩, ⟨.fetch .., _⟩ => True
  | x, x' => x.Like ρ x'

theorem Exchange.Like.akin {ρ : Renaming} {x x' : Exchange} (h : x.Like ρ x') : x.Akin ρ x' := by
  obtain ⟨r, b⟩ := x
  obtain ⟨r', b'⟩ := x'
  cases r <;> cases r' <;> first | exact h | exact h.1 | exact trivial

theorem Exchange.Akin.like {ρ : Renaming} {x x' : Exchange} (h : x.Akin ρ x') (hx : x.request.isPlain = true) :
    x.Like ρ x' := by
  obtain ⟨r, b⟩ := x
  obtain ⟨r', b'⟩ := x'
  cases r <;> first | exact h | cases hx

namespace Program

variable {α β : Type} {S : Renaming → α → α → Prop} {R : Renaming → β → β → Prop} {ρ : Renaming}

/-- Like requests are made whatever is downloaded, but for those that a file needs, and the results satisfy `S`. -/
inductive Akin (S : Renaming → α → α → Prop) : Renaming → Program α → Program α → Prop
  | done {ρ : Renaming} {a a' : α} : S ρ a a' → Akin S ρ (.done a) (.done a')
  | both {ρ : Renaming} {r r' : Request} {next : r.Reply → Program α} {next' : r'.Reply → Program α} :
    r.isFiling = false → r.Like ρ r' →
      (∀ b b' ρ', ρ ≤ ρ' → Exchange.Akin ρ' ⟨r, b⟩ ⟨r', b'⟩ → Akin S ρ' (next b) (next' b')) →
        Akin S ρ (.ask r next) (.ask r' next')
  | left {ρ : Renaming} {r : Request} {next : r.Reply → Program α} {p' : Program α} :
    r.isExtra = true → (∀ b, Akin S ρ (next b) p') → Akin S ρ (.ask r next) p'
  | right {ρ : Renaming} {r' : Request} {p : Program α} {next' : r'.Reply → Program α} :
    r'.isExtra = true → (∀ b', Akin S ρ p (next' b')) → Akin S ρ p (.ask r' next')

theorem Akin.bind {p p' : Program α} {f f' : α → Program β} (hp : Akin S ρ p p')
    (hf : ∀ ρ' a a', ρ ≤ ρ' → S ρ' a a' → Akin R ρ' (f a) (f' a')) : Akin R ρ (p >>= f) (p' >>= f') := by
  induction hp with
  | done ha => exact hf _ _ _ (Renaming.le_refl _) ha
  | both hr hlike _ ih =>
    exact .both hr hlike fun b b' ρ' hle hx => ih b b' ρ' hle hx fun ρ'' a a' hle' =>
      hf ρ'' a a' (Renaming.le_trans hle hle')
  | left hr _ ih => exact .left hr fun b => ih b hf
  | right hr _ ih => exact .right hr fun b' => ih b' hf

/-- What becomes of a result that does not matter. -/
theorem Akin.then_left {p p' : Program α} (h : Akin (fun _ _ _ => True) ρ p p') (f : α → α) :
    Akin (fun _ _ _ => True) ρ (p >>= fun a => .done (f a)) p' := by
  have hbind : Akin (fun _ _ _ => True) ρ (p >>= fun a => .done (f a)) (p' >>= pure) :=
    h.bind fun _ _ _ _ _ => .done trivial
  rwa [bind_pure] at hbind

theorem Akin.then_right {p p' : Program α} (h : Akin (fun _ _ _ => True) ρ p p') (f : α → α) :
    Akin (fun _ _ _ => True) ρ p (p' >>= fun a => .done (f a)) := by
  have hbind : Akin (fun _ _ _ => True) ρ (p >>= pure) (p' >>= fun a => .done (f a)) :=
    h.bind fun _ _ _ _ _ => .done trivial
  rwa [bind_pure] at hbind

theorem Like.akin {T : Renaming → α → α → Prop} {p p' : Program α} (h : Program.Like S ρ p p')
    (hp : p.Asks (·.isPlain = true)) (hS : ∀ ρ a a', S ρ a a' → T ρ a a') : Akin T ρ p p' := by
  induction p generalizing ρ p' with
  | done a =>
    cases p' with
    | done a' => exact .done (hS _ _ _ h)
    | ask => cases h
  | ask r next ih =>
    cases p' with
    | done => cases h
    | ask r' next' =>
      refine .both (Request.isFiling_of_isPlain hp.1) h.1 fun b b' ρ' hle hx => ?_
      exact ih b (h.2 b b' ρ' hle (hx.like hp.1)) (hp.2 b)

end Program

namespace Attempt

variable {α β : Type} {S : Renaming → α → α → Prop} {R : Renaming → β → β → Prop} {ρ : Renaming}

/-- Both fail with the same error, or neither does and what is returned satisfies `S`. -/
inductive Same (S : Renaming → α → α → Prop) (ρ : Renaming) : Except DomainError α → Except DomainError α → Prop
  | ok {a a' : α} : S ρ a a' → Same S ρ (.ok a) (.ok a')
  | error {e : DomainError} : Same S ρ (.error e) (.error e)

theorem Succeed.same {r r' : Except DomainError α} (h : Succeed S ρ r r') : Same S ρ r r' := by
  obtain ⟨a, a', rfl, rfl, ha⟩ := h
  exact .ok ha

def Akin (S : Renaming → α → α → Prop) (ρ : Renaming) (x x' : Attempt α) : Prop :=
  Program.Akin (Same S) ρ x.run x'.run

theorem Like.akin {x x' : Attempt α} (h : Attempt.Like S ρ x x') (hx : x.run.Asks (·.isPlain = true)) :
    Attempt.Akin S ρ x x' :=
  Program.Like.akin h hx fun _ _ _ => Succeed.same

namespace Akin

theorem pure {a a' : α} (h : S ρ a a') : Attempt.Akin S ρ (Pure.pure a) (Pure.pure a') := .done (.ok h)

theorem throw {e : DomainError} : Attempt.Akin S ρ (MonadExcept.throw e) (MonadExcept.throw e) := .done .error

theorem lift {p p' : Program α} (h : Program.Akin S ρ p p') : Attempt.Akin S ρ (ExceptT.lift p) (ExceptT.lift p') := by
  rw [Attempt.Akin, ExceptT.run_lift, ExceptT.run_lift, map_eq_pure_bind, map_eq_pure_bind]
  exact h.bind fun ρ' a a' _ ha => .done (.ok ha)

theorem bind {x x' : Attempt α} {f f' : α → Attempt β} (hx : Attempt.Akin S ρ x x')
    (hf : ∀ ρ' a a', ρ ≤ ρ' → S ρ' a a' → Attempt.Akin R ρ' (f a) (f' a')) :
    Attempt.Akin R ρ (x >>= f) (x' >>= f') := by
  rw [Attempt.Akin, ExceptT.run_bind, ExceptT.run_bind]
  refine Program.Akin.bind hx fun ρ' r r' hle hr => ?_
  cases hr with
  | ok ha => exact hf ρ' _ _ hle ha
  | error => exact .done .error

end Akin

end Attempt

/-! ## What is said of events -/

/-- The outcome without its number of attachments. -/
def EventOutcome.uncounted : EventOutcome → EventOutcome
  | messageCreated s ms _ => messageCreated s ms 0
  | o => o

/-- Like outcomes, however many attachments there are. -/
def EventOutcome.Akin (ρ : Renaming) (o o' : EventOutcome) : Prop := o.uncounted.Like ρ o'.uncounted

theorem EventOutcome.Akin.mono {ρ ρ' : Renaming} {o o' : EventOutcome} (h : o.Akin ρ o') (hle : ρ ≤ ρ') :
    o.Akin ρ' o' :=
  EventOutcome.Like.mono h hle

theorem EventOutcome.Like.akin {ρ : Renaming} {o o' : EventOutcome} (h : o.Like ρ o') : o.Akin ρ o' := by
  cases o <;> cases o' <;> first | exact h | exact ⟨h.1, h.2.1, rfl⟩ | cases h

/-- Like reports, but for the numbers of attachments. -/
structure IngestReport.Akin (ρ : Renaming) (r r' : IngestReport) : Prop where
  channel : r.channel = r'.channel
  skipped : r.skipped = r'.skipped
  outcomes : List.Forall₂ (EventOutcome.Akin ρ) r.outcomes r'.outcomes

theorem Attachment.Like.isFile_eq {ρ : Renaming} {a a' : Attachment} (h : a.Like ρ a') : a.isFile = a'.isFile := by
  rw [Attachment.isFile, Attachment.isFile, h.payload]

/-- Alike but for files. -/
def AttachmentsAkin (ρ : Renaming) (as as' : List Attachment) : Prop :=
  List.Forall₂ (Attachment.Like ρ) (as.filter (!·.isFile)) (as'.filter (!·.isFile))

namespace AttachmentsAkin

variable {ρ ρ' : Renaming} {a a' : Attachment} {as as' : List Attachment}

theorem mono (h : AttachmentsAkin ρ as as') (hle : ρ ≤ ρ') : AttachmentsAkin ρ' as as' :=
  h.imp fun _ _ ha => ha.mono hle

theorem of_like (h : List.Forall₂ (Attachment.Like ρ) as as') : AttachmentsAkin ρ as as' :=
  List.rel_filter (fun _ _ ha => by simp [ha.isFile_eq]) h

theorem nil : AttachmentsAkin ρ [] [] := List.Forall₂.nil

theorem file_left (h : AttachmentsAkin ρ as as') (ha : a.isFile = true) : AttachmentsAkin ρ (a :: as) as' := by
  simpa [AttachmentsAkin, ha] using h

theorem file_right (h : AttachmentsAkin ρ as as') (ha' : a'.isFile = true) : AttachmentsAkin ρ as (a' :: as') := by
  simpa [AttachmentsAkin, ha'] using h

/-- A list of attachments is empty but for files, or has a first one that is no file. -/
theorem skip_left (h : AttachmentsAkin ρ (a :: as) as') (ha : a.isFile = true) : AttachmentsAkin ρ as as' := by
  simpa [AttachmentsAkin, ha] using h

theorem skip_right (h : AttachmentsAkin ρ as (a' :: as')) (ha' : a'.isFile = true) : AttachmentsAkin ρ as as' := by
  simpa [AttachmentsAkin, ha'] using h

theorem cons (h : AttachmentsAkin ρ (a :: as) (a' :: as')) (ha : a.isFile = false) (ha' : a'.isFile = false) :
    a.Like ρ a' ∧ AttachmentsAkin ρ as as' := by
  simpa [AttachmentsAkin, ha, ha'] using h

end AttachmentsAkin

namespace Ingest

open Program

variable {ρ : Renaming} {target : ResolvedChannel} {source : String}

/-! ## Drafts -/

structure Draft.Akin (ρ : Renaming) (d d' : Draft) : Prop where
  message : d.message.Like ρ d'.message
  attachments : AttachmentsAkin ρ d.attachments d'.attachments

theorem Draft.Akin.mono {ρ' : Renaming} {d d' : Draft} (h : d.Akin ρ d') (hle : ρ ≤ ρ') : d.Akin ρ' d' :=
  ⟨h.message.mono hle, h.attachments.mono hle⟩

theorem Draft.Like.akin {d d' : Draft} (h : d.Like ρ d') : d.Akin ρ d' := ⟨h.message, .of_like h.attachments⟩

theorem drafter_plain (inbox : Inbox) (conversation : Conversation) (contact : Contact) (replyTo : Option String)
    (content source : String) : (drafter inbox conversation contact replyTo content source).Asks (·.isPlain = true) :=
  Asks.bind (Asks.request rfl) fun _ => Asks.bind (Asks.request rfl) fun _ => trivial

theorem fallbacks_plain (m : Message) (titles : List String) : (fallbacks m titles).Asks (·.isPlain = true) := by
  induction titles with
  | nil => trivial
  | cons title titles ih => exact Asks.bind (Asks.request rfl) fun _ => Asks.bind ih fun _ => trivial

theorem draftCards_plain {draft : Drafter} (hd : ∀ content source, (draft content source).Asks (·.isPlain = true))
    (source : String) (index : Nat) (cards : List ContactCard) :
    (draftCards draft source index cards).Asks (·.isPlain = true) := by
  induction cards generalizing index with
  | nil => trivial
  | cons card cards ih =>
    exact Asks.bind (hd ..) fun _ => Asks.bind (fallbacks_plain ..) fun _ => Asks.bind (ih _) fun _ => trivial

theorem resolveCard_plain (inbox : Inbox) (sender : Option Sender) :
    (resolveCard inbox source sender).Asks (·.isPlain = true) := by
  unfold resolveCard
  split
  · trivial
  · refine Asks.bind (Asks.request rfl) fun upserted => ?_
    split <;> trivial

/-- Media may be there or not, and everything else is alike. -/
theorem attachments_akin {m m' : Message} {message : InboundMessage} (hm : m.Like ρ m') :
    Program.Akin AttachmentsAkin ρ (attachments target.channel m message) (attachments target.channel m' message) := by
  unfold attachments
  split
  · refine .both rfl trivial fun id id' ρ₁ hle₁ hid => .done (.of_like ?_)
    exact .cons (Attachment.ofMessage_like hid (hm.mono hle₁)) .nil
  · split
    · exact .done .nil
    · refine .both rfl ⟨rfl, rfl⟩ fun file file' ρ₁ hle₁ _ => ?_
      -- A file that was downloaded needs an id, and makes no difference to what is akin.
      cases file with
      | none =>
        cases file' with
        | none => exact .done .nil
        | some f' => exact .right rfl fun id' => .done (AttachmentsAkin.nil.file_right rfl)
      | some f =>
        refine .left rfl fun id => ?_
        cases file' with
        | none => exact .done (AttachmentsAkin.nil.file_left rfl)
        | some f' => exact .right rfl fun id' => .done ((AttachmentsAkin.nil.file_left rfl).file_right rfl)
  · exact .done .nil

theorem drafts_akin {inbox : Inbox} {conversation conversation' : Conversation} {contact contact' : Contact}
    {message : InboundMessage} (hv : conversation.Like ρ conversation') (hc : contact.Like ρ contact') :
    Program.Akin (fun ρ => List.Forall₂ (Draft.Akin ρ)) ρ
      (drafts (drafter inbox conversation contact message.replyTo) target.channel source message)
      (drafts (drafter inbox conversation' contact' message.replyTo) target.channel source message) := by
  have hdraft : ∀ ρ' content source, ρ ≤ ρ' → Program.Like Message.Like ρ'
      (drafter inbox conversation contact message.replyTo content source)
      (drafter inbox conversation' contact' message.replyTo content source) :=
    fun ρ' content source hle => drafter_like (hv.mono hle) (hc.mono hle)
  have hplain : ∀ content source, (drafter inbox conversation contact message.replyTo content source).Asks
      (·.isPlain = true) := fun content source => drafter_plain ..
  unfold drafts
  split
  · exact (draftCards_like hdraft).akin (draftCards_plain hplain ..) fun _ _ _ h => h.imp fun _ _ => Draft.Like.akin
  · refine .bind ((hdraft ρ _ _ ρ.le_refl).akin (hplain ..) fun _ _ _ h => h) fun ρ₁ m m' hle₁ hm => ?_
    exact (attachments_akin hm).bind fun ρ₂ as as' hle₂ has => .done (.cons ⟨hm.mono hle₂, has⟩ .nil)

/-! ## Writing -/

theorem writeAttachments_akin {as as' : List Attachment} (has : AttachmentsAkin ρ as as') :
    Program.Akin (fun _ _ _ => True) ρ (writeAttachments as) (writeAttachments as') := by
  induction as generalizing ρ as' with
  | nil =>
    induction as' with
    | nil => exact .done trivial
    | cons a' as' ih =>
      cases ha' : a'.isFile with
      | false => simp [AttachmentsAkin, ha'] at has
      | true => exact .right ha' fun b' => (ih (has.skip_right ha')).then_right _
  | cons a as ih =>
    cases ha : a.isFile with
    | true => exact .left ha fun b => (ih (has.skip_left ha)).then_left _
    | false =>
      induction as' with
      | nil => simp [AttachmentsAkin, ha] at has
      | cons a' as' ih' =>
        cases ha' : a'.isFile with
        | true => exact .right ha' fun b' => (ih' (has.skip_right ha')).then_right _
        | false =>
          obtain ⟨hlike, has⟩ := has.cons ha ha'
          refine .both ha hlike fun b b' ρ₁ hle₁ _ => ?_
          exact ((ih (has.mono hle₁)).then_left _).then_right _

theorem createMessage_akin {m m' : Message} (hm : m.Like ρ m') :
    Program.Akin (fun _ b b' => b = b') ρ (Ask.createMessage m).run (Ask.createMessage m').run :=
  .both rfl hm fun _ _ _ _ hx => .done hx

theorem writeRest_akin {messages messages' : List Snowflake} {count count' : Nat} {ds ds' : List Draft}
    (hmessages : List.Forall₂ ρ.made messages messages') (hds : List.Forall₂ (Draft.Akin ρ) ds ds') :
    Attempt.Akin EventOutcome.Akin ρ (writeRest source messages count ds) (writeRest source messages' count' ds') := by
  induction ds generalizing ρ messages messages' count count' ds' with
  | nil =>
    cases hds
    exact .pure ⟨rfl, hmessages, rfl⟩
  | cons d ds ih =>
    obtain ⟨d', ds', hd, hrest, rfl⟩ := List.forall₂_cons_left_iff.1 hds
    unfold writeRest
    refine .bind (.lift (createMessage_akin hd.message)) fun ρ₁ b b' hle₁ hb => ?_
    obtain rfl : b = b' := hb
    have hds₁ : List.Forall₂ (Draft.Akin ρ₁) ds ds' := hrest.imp fun _ _ hd => hd.mono hle₁
    split
    · refine .bind (.lift (writeAttachments_akin (hd.mono hle₁).attachments)) fun ρ₂ n n' hle₂ _ => ?_
      have hle := Renaming.le_trans hle₁ hle₂
      refine ih ?_ (hds₁.imp fun _ _ hd => hd.mono hle₂)
      exact List.rel_append (hmessages.imp hle.2) (.cons (hd.mono hle).message.id .nil)
    · exact ih (hmessages.imp hle₁.2) hds₁
    · exact .throw

theorem write_akin {ds ds' : List Draft} (hds : List.Forall₂ (Draft.Akin ρ) ds ds') :
    Attempt.Akin EventOutcome.Akin ρ (write source ds) (write source ds') := by
  cases hds with
  | nil => exact .pure ⟨rfl, .nil, rfl⟩
  | @cons d d' ds ds' hd hds =>
    unfold write
    refine .bind (.lift (createMessage_akin hd.message)) fun ρ₁ b b' hle₁ hb => ?_
    obtain rfl : b = b' := hb
    split
    · refine .bind (.lift (writeAttachments_akin (hd.mono hle₁).attachments)) fun ρ₂ n n' hle₂ _ => ?_
      have hle := Renaming.le_trans hle₁ hle₂
      exact writeRest_akin (.cons (hd.mono hle).message.id .nil) (hds.imp fun _ _ hd => hd.mono hle)
    · exact .pure rfl
    · exact .throw

/-! ## Events -/

theorem persist_akin {message : InboundMessage} {new : NewContact} :
    Attempt.Akin EventOutcome.Akin ρ (persist target source message new) (persist target source message new) := by
  unfold persist
  refine .bind (S := fun ρ => Option.Rel (Message.Like ρ)) ?_ fun ρ₁ stored stored' hle₁ hstored => ?_
  · exact Attempt.Like.akin ⟨⟨rfl, rfl⟩, fun _ _ _ _ hx => hx⟩ (Asks.request rfl)
  cases hstored with
  | some _ => exact .pure rfl
  | none =>
    refine .bind (S := ResolvedContact.Like) ?_ fun ρ₂ c c' hle₂ hc => ?_
    · exact Attempt.Like.akin ⟨rfl, fun _ _ _ _ hx => hx⟩ (Asks.request rfl)
    have hplain := Asks.mono (resolveConversation_joins target.inbox c) fun _ => Request.isPlain_of_isJoin
    refine .bind ((resolveConversation_like hc).akin hplain) fun ρ₃ v v' hle₃ hv => ?_
    exact .bind (.lift (drafts_akin hv (hc.mono hle₃).contact)) fun ρ₄ ds ds' hle₄ hds => write_akin hds

theorem claimed_akin {channel : Snowflake} {body : Attempt EventOutcome}
    (hbody : ∀ ρ', Attempt.Akin EventOutcome.Akin ρ' body body) :
    Attempt.Akin EventOutcome.Akin ρ (claimed channel source body) (claimed channel source body) := by
  unfold claimed
  refine .bind (S := fun _ granted granted' => granted = granted') ?_ fun ρ₁ granted granted' hle₁ hg => ?_
  · refine .both rfl ⟨rfl, rfl⟩ fun b b' _ _ hx => ?_
    obtain ⟨granted, rfl, rfl⟩ := hx
    exact .done (.ok rfl)
  · obtain rfl : granted = granted' := hg
    split
    · refine .bind (.lift (hbody ρ₁)) fun ρ₂ result result' hle₂ hresult => ?_
      refine .bind (S := fun _ _ _ => True) (.lift (.both rfl ⟨rfl, rfl⟩ fun _ _ _ _ _ => .done trivial))
        fun ρ₃ _ _ hle₃ _ => ?_
      cases hresult with
      | ok ho => exact .pure (ho.mono hle₃)
      | error => exact .throw
    · exact .pure rfl

theorem handleEvent_akin {event : IncomingEvent} :
    Attempt.Akin EventOutcome.Akin ρ (handleEvent target event) (handleEvent target event) := by
  unfold handleEvent
  split
  · unfold ingestMessage
    split
    · exact .pure rfl
    · exact claimed_akin fun ρ' => persist_akin
  · have hplain := Asks.mono (reconcile_asks target.inbox event.sourceId ‹StatusReport›) fun _ =>
      Request.isPlain_of_isFollowUp
    exact .lift (reconcile_like.akin hplain fun _ _ _ => EventOutcome.Like.akin)
  · exact .lift (resolveCard_like.akin (resolveCard_plain ..) fun _ _ _ => EventOutcome.Like.akin)

theorem handleEvents_akin {events : List IncomingEvent} :
    Attempt.Akin (fun ρ => List.Forall₂ (EventOutcome.Akin ρ)) ρ (handleEvents target events)
      (handleEvents target events) := by
  induction events generalizing ρ with
  | nil => exact .pure .nil
  | cons e es ih =>
    unfold handleEvents
    refine .bind handleEvent_akin fun ρ₁ o o' hle₁ ho => ?_
    exact .bind ih fun ρ₂ os os' hle₂ hos => .pure (.cons (ho.mono hle₂) hos)

end Ingest

theorem performOn_akin {ρ : Renaming} {job : WebhookJob} {target : ResolvedChannel} :
    Attempt.Akin IngestReport.Akin ρ (performOn job (.active target)) (performOn job (.active target)) :=
  .bind Ingest.handleEvents_akin fun _ _ _ _ hos => .pure ⟨rfl, rfl, hos⟩

end Intake
