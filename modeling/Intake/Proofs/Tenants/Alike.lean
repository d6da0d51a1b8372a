import Intake.Proofs.Program.Exchange
import Intake.Proofs.Tenants.Renaming

/-!
# A delivery does not depend on its ids

`Program.Like`: two programs make like requests as long as they get like replies, whatever ids are made on the way. A
delivery looks at ids only to pass them on, so every part of it does the same for like arguments: one lemma for each,
from those of what it calls.
-/

namespace Intake

/-- Requests that ask for the same, up to the renaming. -/
def Request.Like (ρ : Renaming) : Request → Request → Prop
  | tryClaim c s, tryClaim c' s' => c = c' ∧ s = s'
  | release c s, release c' s' => c = c' ∧ s = s'
  | findMessage i s, findMessage i' s' => i = i' ∧ s = s'
  | createMessage m, createMessage m' => m.Like ρ m'
  | updateStatus m s e, updateStatus m' s' e' => ρ.made m m' ∧ s = s' ∧ e = e'
  | upsertContact new, upsertContact new' => new = new'
  | findConversation l f, findConversation l' f' => ρ.store l l' ∧ f = f'
  | createConversation c, createConversation c' => c.Like ρ c'
  | createAttachment a, createAttachment a' => a.Like ρ a'
  | fetch c m, fetch c' m' => c = c' ∧ m = m'
  | newId, newId => True
  | now, now => True
  | _, _ => False

/-- Replies that say the same, up to the renaming. All is well but for messages that may be there already. -/
def Exchange.Like (ρ : Renaming) : Exchange → Exchange → Prop
  | ⟨.tryClaim .., b⟩, ⟨.tryClaim .., b'⟩ => ∃ granted, b = .ok granted ∧ b' = .ok granted
  | ⟨.findMessage .., b⟩, ⟨.findMessage .., b'⟩ =>
    ∃ m m', b = .ok m ∧ b' = .ok m' ∧ Option.Rel (Message.Like ρ) m m'
  | ⟨.createMessage _, b⟩, ⟨.createMessage _, b'⟩ =>
    b = b' ∧ (b = .ok () ∨ ∃ inbox source, b = .error (.duplicateSourceId inbox source))
  | ⟨.updateStatus .., b⟩, ⟨.updateStatus .., b'⟩ => b = .ok () ∧ b' = .ok ()
  | ⟨.upsertContact _, b⟩, ⟨.upsertContact _, b'⟩ => ∃ c c', b = .ok c ∧ b' = .ok c' ∧ c.Like ρ c'
  | ⟨.findConversation .., b⟩, ⟨.findConversation .., b'⟩ =>
    ∃ c c', b = .ok c ∧ b' = .ok c' ∧ Option.Rel (Conversation.Like ρ) c c'
  | ⟨.createConversation _, b⟩, ⟨.createConversation _, b'⟩ => b = .ok () ∧ b' = .ok ()
  | ⟨.createAttachment _, b⟩, ⟨.createAttachment _, b'⟩ => b = .ok () ∧ b' = .ok ()
  | ⟨.fetch .., b⟩, ⟨.fetch .., b'⟩ => b = b'
  | ⟨.newId, i⟩, ⟨.newId, j⟩ => ρ.made i j
  | _, _ => True

namespace Program

variable {α β : Type} {S : Renaming → α → α → Prop} {R : Renaming → β → β → Prop} {ρ : Renaming}

/-- Like requests are made as long as the replies are alike, and the results satisfy `S`. -/
def Like (S : Renaming → α → α → Prop) : Renaming → Program α → Program α → Prop
  | ρ, done a, done a' => S ρ a a'
  | ρ, ask r next, ask r' next' =>
    r.Like ρ r' ∧ ∀ b b' ρ', ρ ≤ ρ' → Exchange.Like ρ' ⟨r, b⟩ ⟨r', b'⟩ → Like S ρ' (next b) (next' b')
  | _, _, _ => False

theorem Like.bind {p p' : Program α} {f f' : α → Program β} (hp : Like S ρ p p')
    (hf : ∀ ρ' a a', ρ ≤ ρ' → S ρ' a a' → Like R ρ' (f a) (f' a')) : Like R ρ (p >>= f) (p' >>= f') := by
  induction p generalizing ρ p' with
  | done a =>
    cases p' with
    | done a' => exact hf ρ a a' ρ.le_refl hp
    | ask => cases hp
  | ask r next ih =>
    cases p' with
    | done => cases hp
    | ask r' next' =>
      refine ⟨hp.1, fun b b' ρ' hle hx => ih b (hp.2 b b' ρ' hle hx) fun ρ'' a a' hle' => ?_⟩
      exact hf ρ'' a a' (Renaming.le_trans hle hle')

end Program

namespace Attempt

variable {α β : Type} {S : Renaming → α → α → Prop} {R : Renaming → β → β → Prop} {ρ : Renaming}

/-- Neither fails, and what is returned satisfies `S`. -/
def Succeed (S : Renaming → α → α → Prop) : Renaming → Except DomainError α → Except DomainError α → Prop :=
  fun ρ r r' => ∃ a a', r = .ok a ∧ r' = .ok a' ∧ S ρ a a'

def Like (S : Renaming → α → α → Prop) (ρ : Renaming) (x x' : Attempt α) : Prop :=
  Program.Like (Succeed S) ρ x.run x'.run

namespace Like

theorem pure {a a' : α} (h : S ρ a a') : Attempt.Like S ρ (Pure.pure a) (Pure.pure a') := ⟨a, a', rfl, rfl, h⟩

theorem lift {p p' : Program α} (h : Program.Like S ρ p p') : Attempt.Like S ρ (ExceptT.lift p) (ExceptT.lift p') := by
  rw [Attempt.Like, ExceptT.run_lift, ExceptT.run_lift, map_eq_pure_bind, map_eq_pure_bind]
  exact h.bind fun ρ' a a' _ ha => ⟨a, a', rfl, rfl, ha⟩

theorem bind {x x' : Attempt α} {f f' : α → Attempt β} (hx : Attempt.Like S ρ x x')
    (hf : ∀ ρ' a a', ρ ≤ ρ' → S ρ' a a' → Attempt.Like R ρ' (f a) (f' a')) :
    Attempt.Like R ρ (x >>= f) (x' >>= f') := by
  rw [Attempt.Like, ExceptT.run_bind, ExceptT.run_bind]
  refine Program.Like.bind hx ?_
  rintro ρ' _ _ hle ⟨a, a', rfl, rfl, ha⟩
  exact hf ρ' a a' hle ha

end Like

end Attempt

namespace Ingest

open Program

variable {ρ : Renaming} {target : ResolvedChannel} {source : String}

/-! ## Conversations -/

theorem resolveConversation_like {inbox : Inbox} {contact contact' : ResolvedContact} (hc : contact.Like ρ contact') :
    Attempt.Like Conversation.Like ρ (resolveConversation inbox contact) (resolveConversation inbox contact') := by
  unfold resolveConversation
  refine .bind (S := fun ρ => Option.Rel (Conversation.Like ρ)) ⟨⟨hc.contactInbox.id, rfl⟩, fun _ _ _ _ hx => hx⟩
    fun ρ₁ found found' hle₁ hfound => ?_
  cases hfound with
  | some h => exact .pure h
  | none =>
    refine .bind (S := Renaming.made) (.lift ⟨trivial, fun _ _ _ _ hx => hx⟩) fun ρ₂ id id' hle₂ hid => ?_
    refine .bind (S := fun _ _ _ => True) (.lift ⟨trivial, fun _ _ _ _ _ => trivial⟩) fun ρ₃ now now' hle₃ _ => ?_
    have hcontact := hc.mono (Renaming.le_trans (Renaming.le_trans hle₁ hle₂) hle₃)
    have hlike : Conversation.Like ρ₃
        { id, account := inbox.account, inbox := inbox.id, contact := contact.contact.id,
          contactInbox := contact.contactInbox.id, status := .open, createdAt := now }
        { id := id', account := inbox.account, inbox := inbox.id, contact := contact'.contact.id,
          contactInbox := contact'.contactInbox.id, status := .open, createdAt := now' } :=
      ⟨hle₃.2 _ _ hid, rfl, rfl, hcontact.contact.id, hcontact.contactInbox.id, rfl⟩
    exact .bind (S := fun _ _ _ => True) ⟨hlike, fun _ _ _ _ hx => ⟨(), (), hx.1, hx.2, trivial⟩⟩
      fun ρ₄ _ _ hle₄ _ => .pure (hlike.mono hle₄)

/-! ## Drafts -/

structure Draft.Like (ρ : Renaming) (d d' : Draft) : Prop where
  message : d.message.Like ρ d'.message
  attachments : List.Forall₂ (Attachment.Like ρ) d.attachments d'.attachments

theorem Draft.Like.mono {ρ' : Renaming} {d d' : Draft} (h : Draft.Like ρ d d') (hle : ρ ≤ ρ') : Draft.Like ρ' d d' :=
  ⟨h.message.mono hle, h.attachments.imp fun _ _ ha => ha.mono hle⟩

theorem drafter_like {inbox : Inbox} {conversation conversation' : Conversation} {contact contact' : Contact}
    {replyTo : Option String} {content : String} (hv : conversation.Like ρ conversation')
    (hc : contact.Like ρ contact') :
    Program.Like Message.Like ρ (drafter inbox conversation contact replyTo content source)
      (drafter inbox conversation' contact' replyTo content source) := by
  refine ⟨trivial, fun id id' ρ₁ hle₁ hid => ⟨trivial, fun now now' ρ₂ hle₂ _ => ?_⟩⟩
  have hle := Renaming.le_trans hle₁ hle₂
  exact ⟨hle₂.2 _ _ hid, rfl, rfl, (hv.mono hle).id, .some (hc.mono hle).id, rfl, rfl, rfl, rfl, rfl, rfl⟩

theorem Attachment.ofMessage_like {m m' : Message} {id id' : Snowflake} {fileType : FileType}
    {payload : AttachmentPayload} (hid : ρ.made id id') (hm : m.Like ρ m') :
    Attachment.Like ρ (.ofMessage id m fileType payload) (.ofMessage id' m' fileType payload) :=
  ⟨hid, hm.id, hm.account, rfl, rfl⟩

theorem fallbacks_like {m m' : Message} {titles : List String} (hm : m.Like ρ m') :
    Program.Like (fun ρ => List.Forall₂ (Attachment.Like ρ)) ρ (fallbacks m titles) (fallbacks m' titles) := by
  induction titles generalizing ρ with
  | nil => exact .nil
  | cons title titles ih =>
    refine ⟨trivial, fun id id' ρ₁ hle₁ hid => ?_⟩
    change Program.Like _ ρ₁ (fallbacks m titles >>= _) (fallbacks m' titles >>= _)
    refine Program.Like.bind (ih (hm.mono hle₁)) fun ρ₂ as as' hle₂ has => ?_
    exact .cons (Attachment.ofMessage_like (hle₂.2 _ _ hid) (hm.mono (Renaming.le_trans hle₁ hle₂))) has

theorem attachments_like {m m' : Message} {message : InboundMessage} (hm : m.Like ρ m') :
    Program.Like (fun ρ => List.Forall₂ (Attachment.Like ρ)) ρ (attachments target.channel m message)
      (attachments target.channel m' message) := by
  unfold attachments
  split
  · exact ⟨trivial, fun id id' ρ₁ hle₁ hid => .cons (Attachment.ofMessage_like hid (hm.mono hle₁)) .nil⟩
  · split
    · exact .nil
    · refine ⟨⟨rfl, rfl⟩, fun file file' ρ₁ hle₁ hfile => ?_⟩
      obtain rfl : file = file' := hfile
      cases file with
      | none => exact .nil
      | some f =>
        refine ⟨trivial, fun id id' ρ₂ hle₂ hid => .cons (Attachment.ofMessage_like hid ?_) .nil⟩
        exact hm.mono (Renaming.le_trans hle₁ hle₂)
  · exact .nil

theorem draftCards_like {draft draft' : Drafter} {index : Nat} {cards : List ContactCard}
    (hdraft : ∀ ρ' content source, ρ ≤ ρ' →
      Program.Like Message.Like ρ' (draft content source) (draft' content source)) :
    Program.Like (fun ρ => List.Forall₂ (Draft.Like ρ)) ρ (draftCards draft source index cards)
      (draftCards draft' source index cards) := by
  induction cards generalizing ρ index with
  | nil => exact .nil
  | cons card cards ih =>
    refine .bind (hdraft ρ _ _ ρ.le_refl) fun ρ₁ m m' hle₁ hm => ?_
    refine .bind (fallbacks_like hm) fun ρ₂ as as' hle₂ has => ?_
    have hle := Renaming.le_trans hle₁ hle₂
    refine Program.Like.bind (ih fun ρ' _ _ hle' => hdraft ρ' _ _ (Renaming.le_trans hle hle'))
      fun ρ₃ ds ds' hle₃ hds => ?_
    exact .cons (Draft.Like.mono ⟨hm.mono hle₂, has⟩ hle₃) hds

theorem drafts_like {draft draft' : Drafter} {message : InboundMessage}
    (hdraft : ∀ ρ' content source, ρ ≤ ρ' →
      Program.Like Message.Like ρ' (draft content source) (draft' content source)) :
    Program.Like (fun ρ => List.Forall₂ (Draft.Like ρ)) ρ (drafts draft target.channel source message)
      (drafts draft' target.channel source message) := by
  unfold drafts
  split
  · exact draftCards_like hdraft
  · refine .bind (hdraft ρ _ _ ρ.le_refl) fun ρ₁ m m' hle₁ hm => ?_
    exact Program.Like.bind (attachments_like hm) fun ρ₂ as as' hle₂ has => .cons ⟨hm.mono hle₂, has⟩ .nil

/-! ## Writing -/

theorem writeAttachments_like {as as' : List Attachment} (has : List.Forall₂ (Attachment.Like ρ) as as') :
    Program.Like (fun _ n n' => n = n') ρ (writeAttachments as) (writeAttachments as') := by
  induction as generalizing ρ as' with
  | nil =>
    cases has
    rfl
  | cons a as ih =>
    obtain ⟨a', as', ha, hrest, rfl⟩ := List.forall₂_cons_left_iff.1 has
    refine ⟨ha, fun b b' ρ₁ hle₁ hx => ?_⟩
    obtain ⟨rfl, rfl⟩ := hx
    change Program.Like _ ρ₁ (writeAttachments as >>= _) (writeAttachments as' >>= _)
    refine Program.Like.bind (ih (hrest.imp fun _ _ ha => ha.mono hle₁)) fun ρ₂ n n' _ hn => ?_
    obtain rfl : n = n' := hn
    exact rfl

theorem createMessage_like {m m' : Message} (hm : m.Like ρ m') :
    Program.Like (fun _ b b' => b = b' ∧ (b = .ok () ∨ ∃ inbox source, b = .error (.duplicateSourceId inbox source))) ρ
      (Ask.createMessage m).run (Ask.createMessage m').run :=
  ⟨hm, fun _ _ _ _ hx => hx⟩

theorem writeRest_like {messages messages' : List Snowflake} {count : Nat} {ds ds' : List Draft}
    (hmessages : List.Forall₂ ρ.made messages messages') (hds : List.Forall₂ (Draft.Like ρ) ds ds') :
    Attempt.Like EventOutcome.Like ρ (writeRest source messages count ds) (writeRest source messages' count ds') := by
  induction ds generalizing ρ messages messages' count ds' with
  | nil =>
    cases hds
    exact .pure ⟨rfl, hmessages, rfl⟩
  | cons d ds ih =>
    obtain ⟨d', ds', hd, hrest, rfl⟩ := List.forall₂_cons_left_iff.1 hds
    unfold writeRest
    refine .bind (.lift (createMessage_like hd.message)) fun ρ₁ b b' hle₁ hb => ?_
    have hds₁ : List.Forall₂ (Draft.Like ρ₁) ds ds' := hrest.imp fun _ _ hd => hd.mono hle₁
    obtain ⟨rfl, rfl | ⟨inbox, source, rfl⟩⟩ := hb
    · refine .bind (.lift (writeAttachments_like (hd.mono hle₁).attachments)) fun ρ₂ n n' hle₂ hn => ?_
      obtain rfl : n = n' := hn
      have hle := Renaming.le_trans hle₁ hle₂
      refine ih ?_ (hds₁.imp fun _ _ hd => hd.mono hle₂)
      exact List.rel_append (hmessages.imp hle.2) (.cons (hd.mono hle).message.id .nil)
    · exact ih (hmessages.imp hle₁.2) hds₁

theorem write_like {ds ds' : List Draft} (hds : List.Forall₂ (Draft.Like ρ) ds ds') :
    Attempt.Like EventOutcome.Like ρ (write source ds) (write source ds') := by
  cases hds with
  | nil => exact .pure ⟨rfl, .nil, rfl⟩
  | @cons d d' ds ds' hd hds =>
    unfold write
    refine .bind (.lift (createMessage_like hd.message)) fun ρ₁ b b' hle₁ hb => ?_
    obtain ⟨rfl, rfl | ⟨inbox, source, rfl⟩⟩ := hb
    · refine .bind (.lift (writeAttachments_like (hd.mono hle₁).attachments)) fun ρ₂ n n' hle₂ hn => ?_
      obtain rfl : n = n' := hn
      have hle := Renaming.le_trans hle₁ hle₂
      exact writeRest_like (.cons (hd.mono hle).message.id .nil) (hds.imp fun _ _ hd => hd.mono hle)
    · exact .pure rfl

/-! ## Events -/

theorem persist_like {message : InboundMessage} {new : NewContact} :
    Attempt.Like EventOutcome.Like ρ (persist target source message new) (persist target source message new) := by
  unfold persist
  refine .bind (S := fun ρ => Option.Rel (Message.Like ρ)) ⟨⟨rfl, rfl⟩, fun _ _ _ _ hx => hx⟩
    fun ρ₁ stored stored' hle₁ hstored => ?_
  cases hstored with
  | some _ => exact .pure rfl
  | none =>
    refine .bind (S := ResolvedContact.Like) ⟨rfl, fun _ _ _ _ hx => hx⟩ fun ρ₂ c c' hle₂ hc => ?_
    refine .bind (resolveConversation_like hc) fun ρ₃ v v' hle₃ hv => ?_
    refine .bind (.lift (drafts_like fun ρ' content source hle => ?_)) fun ρ₄ ds ds' hle₄ hds => write_like hds
    exact drafter_like (hv.mono hle) (hc.mono (Renaming.le_trans hle₃ hle)).contact

theorem claimed_like {channel : Snowflake} {body : Attempt EventOutcome}
    (hbody : ∀ ρ', Attempt.Like EventOutcome.Like ρ' body body) :
    Attempt.Like EventOutcome.Like ρ (claimed channel source body) (claimed channel source body) := by
  unfold claimed
  refine .bind (S := fun _ granted granted' => granted = granted') ⟨⟨rfl, rfl⟩, fun b b' _ _ hx => ?_⟩
    fun ρ₁ granted granted' hle₁ hg => ?_
  · obtain ⟨granted, rfl, rfl⟩ := hx
    exact ⟨granted, granted, rfl, rfl, rfl⟩
  · obtain rfl : granted = granted' := hg
    split
    · refine .bind (.lift (hbody ρ₁)) fun ρ₂ result result' hle₂ hresult => ?_
      refine .bind (S := fun _ _ _ => True) (.lift ⟨⟨rfl, rfl⟩, fun _ _ _ _ _ => trivial⟩) fun ρ₃ _ _ hle₃ _ => ?_
      obtain ⟨o, o', rfl, rfl, ho⟩ := hresult
      exact .pure (ho.mono hle₃)
    · exact .pure rfl

theorem ingestMessage_like {sender : Option Sender} {message : InboundMessage} :
    Attempt.Like EventOutcome.Like ρ (ingestMessage target source sender message)
      (ingestMessage target source sender message) := by
  unfold ingestMessage
  split
  · exact .pure rfl
  · exact claimed_like fun ρ' => persist_like

theorem reconcile_like {report : StatusReport} :
    Program.Like EventOutcome.Like ρ (reconcile target.inbox source report) (reconcile target.inbox source report) := by
  unfold reconcile
  refine ⟨⟨rfl, rfl⟩, fun b b' ρ₁ hle₁ hx => ?_⟩
  obtain ⟨_, _, rfl, rfl, hm⟩ := hx
  cases hm with
  | none => exact rfl
  | @some m m' hm =>
    dsimp only
    split
    · exact rfl
    · refine ⟨⟨hm.id, rfl, rfl⟩, fun b b' ρ₂ hle₂ hx => ?_⟩
      obtain ⟨rfl, rfl⟩ := hx
      exact rfl

theorem resolveCard_like {sender : Option Sender} :
    Program.Like EventOutcome.Like ρ (resolveCard target.inbox source sender)
      (resolveCard target.inbox source sender) := by
  unfold resolveCard
  split
  · exact rfl
  · refine ⟨rfl, fun b b' ρ₁ hle₁ hx => ?_⟩
    obtain ⟨c, c', rfl, rfl, hc⟩ := hx
    exact ⟨rfl, hc.contact.id⟩

theorem handleEvent_like {event : IncomingEvent} :
    Attempt.Like EventOutcome.Like ρ (handleEvent target event) (handleEvent target event) := by
  unfold handleEvent
  split
  · exact ingestMessage_like
  · exact .lift reconcile_like
  · exact .lift resolveCard_like

theorem handleEvents_like {events : List IncomingEvent} :
    Attempt.Like (fun ρ => List.Forall₂ (EventOutcome.Like ρ)) ρ (handleEvents target events)
      (handleEvents target events) := by
  induction events generalizing ρ with
  | nil => exact .pure .nil
  | cons e es ih =>
    unfold handleEvents
    refine .bind handleEvent_like fun ρ₁ o o' hle₁ ho => ?_
    exact .bind ih fun ρ₂ os os' hle₂ hos => .pure (.cons (ho.mono hle₂) hos)

end Ingest

theorem performOn_like {ρ : Renaming} {job : WebhookJob} {target : ResolvedChannel} :
    Attempt.Like IngestReport.Like ρ (performOn job (.active target)) (performOn job (.active target)) :=
  .bind Ingest.handleEvents_like fun _ _ _ _ hos => .pure ⟨rfl, rfl, hos⟩

end Intake
