import Intake.Proofs.Delivery.Drafts
import Mathlib.Data.List.Forall2

/-!
# What an event asks for

The `plan` of an event is what a delivery has to bring about for it, whatever ids are made and whatever the clock shows:
nothing, or a contact, or one message from a contact. An event that is made into one message (`Single`) has one draft,
and the draft conveys the letter of the plan (`drafts_conveys`).
-/

namespace Intake

/-- The message shares at most one contact. -/
def InboundMessage.Single (m : InboundMessage) : Prop := ∀ cards, m.content = .contacts cards → cards.length ≤ 1

/-- The event is made into one message at most. -/
def IncomingEvent.Single (e : IncomingEvent) : Prop := ∀ m, e.body = .message m → m.Single

instance (m : InboundMessage) : Decidable m.Single :=
  match h : m.content with
  | .contacts cards =>
    decidable_of_iff (cards.length ≤ 1)
      ⟨fun hle _ hcards => MessageContent.contacts.inj (h.symm.trans hcards) ▸ hle, fun hm => hm cards h⟩
  | .text _ | .media _ | .location _ | .empty => isTrue fun _ hcards => nomatch h.symm.trans hcards

instance (e : IncomingEvent) : Decidable e.Single :=
  match h : e.body with
  | .message m =>
    decidable_of_iff m.Single ⟨fun hm _ hbody => EventBody.message.inj (h.symm.trans hbody) ▸ hm, fun he => he m h⟩
  | .status _ | .contactCard => isTrue fun _ hbody => nomatch h.symm.trans hbody

/-- The attachment of the message holds the file. -/
def Attachment.Holds (m : Message) (a : Attachment) (file : FileType × AttachmentPayload) : Prop :=
  a = .ofMessage a.id m file.1 file.2

/-- Downloads have brought what `fetch` says. -/
def Exchange.Fetched (fetch : Channel → MediaDescriptor → Option FetchedMedia) : Exchange → Prop
  | ⟨.fetch channel media, file⟩ => file = fetch channel media
  | _ => True

namespace Ingest

/-- What a stored message says, with the files that go with it. -/
structure Letter where
  content : String
  replyTo : Option String
  files : List (FileType × AttachmentPayload)

inductive Plan where
  | nothing
  | contact (new : NewContact)
  | message (new : NewContact) (letter : Letter)

def cardFiles (card : ContactCard) : List (FileType × AttachmentPayload) :=
  (if card.phones = [] then [noPhoneTitle] else card.phones).map fun title => (.contact, .fallback title)

/-- The letter that an inbound message is made into, or the first one of its cards. -/
def letter (fetch : MediaDescriptor → Option FetchedMedia) (m : InboundMessage) : Letter where
  content :=
    match m.content with
    | .contacts (card :: _) => card.name.getD MessageContent.placeholder
    | content => content.textOrPlaceholder
  replyTo := m.replyTo
  files :=
    match m.content with
    | .contacts (card :: _) => cardFiles card
    | .location l => [(.location, .location l.latitude l.longitude l.label l.url)]
    | .media media =>
      if m.subtype.skipsMediaFetch then []
      else (fetch media).toList.map fun f => (m.subtype.fileType, .file f.filename f.contentType f.data)
    | _ => []

def plan (target : ResolvedChannel) (fetch : Channel → MediaDescriptor → Option FetchedMedia) (e : IncomingEvent) :
    Plan :=
  match e.body with
  | .message m =>
    match accept target.inbox e.sender m with
    | .ok new => .message new (letter (fetch target.channel) m)
    | .error _ => .nothing
  | .status _ => .nothing
  | .contactCard => (e.sender.bind (NewContact.ofSender? target.inbox)).elim .nothing .contact

/-- The draft is a message of the conversation with the contact, and it says what the letter says. -/
structure Letter.Conveys (letter : Letter) (inbox : Inbox) (source : String) (conversation : Conversation)
    (contact : Contact) (d : Draft) : Prop where
  message : ∃ id time, d.message = .incoming id inbox.account inbox.id conversation.id contact.id letter.content source
    letter.replyTo time
  files : List.Forall₂ (Attachment.Holds d.message) d.attachments letter.files

variable {fetch : Channel → MediaDescriptor → Option FetchedMedia} {channel : Channel} {inbox : Inbox}
  {conversation : Conversation} {contact : Contact} {replyTo : Option String} {source : String} {m : InboundMessage}
  {record : Message} {t : List Exchange}

theorem fallbacks_files {titles : List String} {as : List Attachment} (h : (fallbacks record titles).Yields t as) :
    List.Forall₂ (Attachment.Holds record) as (titles.map fun title => (.contact, .fallback title)) := by
  induction titles generalizing t as with
  | nil =>
    obtain ⟨-, rfl⟩ := h
    exact .nil
  | cons title titles ih =>
    obtain ⟨t₁, id, t₂, rfl, -, h⟩ := Program.yields_bind.1 h
    obtain ⟨t₃, rest, t₄, rfl, hrest, -, rfl⟩ := Program.yields_bind.1 h
    exact .cons rfl (ih hrest)

theorem attachments_files {as : List Attachment} (h : (attachments channel record m).Yields t as)
    (ht : ∀ x ∈ t, x.Fetched fetch) (hm : ∀ card cards, m.content ≠ .contacts (card :: cards)) :
    List.Forall₂ (Attachment.Holds record) as (letter (fetch channel) m).files := by
  unfold attachments at h
  unfold letter
  dsimp only
  split at h
  · next l hl =>
    obtain ⟨t₁, id, t₂, rfl, -, -, rfl⟩ := Program.yields_bind.1 h
    rw [hl]
    exact .cons rfl .nil
  · next media hmedia =>
    rw [hmedia]
    dsimp only
    split at h
    · next hskip =>
      obtain ⟨-, rfl⟩ := h
      rw [if_pos hskip]
      exact .nil
    · next hskip =>
      rw [if_neg hskip]
      obtain ⟨t₁, file, t₂, rfl, h₁, h₂⟩ := Program.yields_bind.1 h
      obtain rfl := Program.yields_request.1 h₁
      have hfile : file = fetch channel media := ht _ List.mem_cons_self
      rw [← hfile]
      cases file with
      | none =>
        obtain ⟨-, rfl⟩ := h₂
        exact .nil
      | some f =>
        obtain ⟨t₃, id, t₄, rfl, -, -, rfl⟩ := Program.yields_bind.1 h₂
        exact .cons rfl .nil
  · next hlocation hmedia =>
    obtain ⟨-, rfl⟩ := h
    split
    · next hc => exact absurd hc (hm _ _)
    · next hc => exact absurd hc (hlocation _)
    · next hc => exact absurd hc (hmedia _)
    · exact .nil

theorem drafts_conveys {ds : List Draft} (hm : m.Single)
    (h : (drafts (drafter inbox conversation contact m.replyTo) channel source m).Yields t ds)
    (ht : ∀ x ∈ t, x.Fetched fetch) :
    ∃ d, ds = [d] ∧ (letter (fetch channel) m).Conveys inbox source conversation contact d := by
  unfold drafts at h
  split at h
  · next card cards hcards =>
    obtain rfl : cards = [] := by simpa using hm _ hcards
    obtain ⟨t₁, record, t₂, rfl, h₁, h⟩ := Program.yields_bind.1 h
    obtain ⟨t₃, as, t₄, rfl, h₂, h⟩ := Program.yields_bind.1 h
    obtain ⟨t₅, rest, t₆, rfl, ⟨rfl, rfl⟩, -, rfl⟩ := Program.yields_bind.1 h
    obtain ⟨id, time, hrecord⟩ := drafter_yields h₁
    refine ⟨_, rfl, ⟨id, time, ?_⟩, ?_⟩
    · simpa [letter, hcards, cardSourceId] using hrecord
    · rw [letter, hcards]
      exact fallbacks_files h₂
  · next hcontent =>
    obtain ⟨t₁, record, t₂, rfl, h₁, h⟩ := Program.yields_bind.1 h
    obtain ⟨t₃, as, t₄, rfl, h₂, -, rfl⟩ := Program.yields_bind.1 h
    obtain ⟨id, time, hrecord⟩ := drafter_yields h₁
    refine ⟨_, rfl, ⟨id, time, ?_⟩, attachments_files h₂ (fun x hx => ht x (by simp [hx])) hcontent⟩
    rw [hrecord, letter]
    dsimp only
    split
    · next card cards hc => exact absurd hc (hcontent card cards)
    · rfl

end Ingest

end Intake
