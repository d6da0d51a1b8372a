import Intake.Proofs.World.Store
import Mathlib.Algebra.Order.Group.Multiset
import Mathlib.Data.Multiset.UnionInter

/-!
# Tables that refer to each other

`Tables.Integrity`: ids are distinct, and every row refers to rows that are there and agree with it. What may change
about a row (the standing of a channel, the lock of an inbox, the status of a conversation or message) is not part of
the tables' `core`, and otherwise rows are only added, so the one step to look at is the adding of rows (`Tables.Adds`).
-/

namespace Intake

/-- A text of one or more ASCII digits. -/
def IsDigits (s : String) : Prop := s ≠ "" ∧ ∀ c ∈ s.toList, c.isDigit = true

/-- A channel whether or not it waits for reauthorization. -/
def Channel.line (c : Channel) : Channel := { c with reauthorizationRequired := false }

/-- An inbox whether or not it is locked. -/
def Inbox.place (i : Inbox) : Inbox := { i with lockToSingleConversation := false }

/-- A conversation whatever its status. -/
def Conversation.thread (c : Conversation) : Conversation := { c with status := .open }

theorem Channel.line_eq_iff {c d : Channel} :
    c.line = d.line ↔ c.id = d.id ∧ c.account = d.account ∧ c.provider = d.provider ∧
      c.phoneNumber = d.phoneNumber ∧ c.credentials = d.credentials ∧ c.messageTemplates = d.messageTemplates := by
  simp [line]

theorem Inbox.place_eq_iff {i j : Inbox} :
    i.place = j.place ↔ i.id = j.id ∧ i.account = j.account ∧ i.channel = j.channel ∧ i.name = j.name := by
  simp [place]

theorem Conversation.thread_eq_iff {c d : Conversation} :
    c.thread = d.thread ↔ c.id = d.id ∧ c.account = d.account ∧ c.inbox = d.inbox ∧ c.contact = d.contact ∧
      c.contactInbox = d.contactInbox ∧ c.createdAt = d.createdAt := by
  simp [thread]

theorem Message.record_eq_iff {m n : Message} :
    m.record = n.record ↔ m.id = n.id ∧ m.account = n.account ∧ m.inbox = n.inbox ∧
      m.conversation = n.conversation ∧ m.sender = n.sender ∧ m.direction = n.direction ∧ m.content = n.content ∧
      m.sourceId = n.sourceId ∧ m.inReplyTo = n.inReplyTo ∧ m.createdAt = n.createdAt := by
  simp [record]

namespace Tables

/-! ## References -/

def HasInbox (t : Tables) (inbox account : Snowflake) : Prop := ∃ i ∈ t.inboxes, i.id = inbox ∧ i.account = account

def HasLink (t : Tables) (contactInbox inbox contact : Snowflake) : Prop :=
  ∃ l ∈ t.contactInboxes, l.id = contactInbox ∧ l.inbox = inbox ∧ l.contact = contact

def HasConversation (t : Tables) (conversation inbox account contact : Snowflake) : Prop :=
  ∃ c ∈ t.conversations, c.id = conversation ∧ c.inbox = inbox ∧ c.account = account ∧ c.contact = contact

def HasMessage (t : Tables) (message inbox account : Snowflake) : Prop :=
  ∃ m ∈ t.messages, m.id = message ∧ m.inbox = inbox ∧ m.account = account

end Tables

/-- An inbox is of the account of its channel. -/
def Inbox.RefersIn (t : Tables) (i : Inbox) : Prop := ∃ c ∈ t.channels, c.id = i.channel ∧ c.account = i.account

/-- The contact of a link is of the inbox's account, and has the phone number that the link's source id says. -/
def ContactInbox.RefersIn (t : Tables) (l : ContactInbox) : Prop :=
  ∃ i ∈ t.inboxes, ∃ c ∈ t.contacts, i.id = l.inbox ∧ c.id = l.contact ∧ c.account = i.account ∧
    c.phoneNumber = some ("+" ++ l.sourceId)

def Conversation.RefersIn (t : Tables) (c : Conversation) : Prop :=
  t.HasInbox c.inbox c.account ∧ t.HasLink c.contactInbox c.inbox c.contact

def Message.RefersIn (t : Tables) (m : Message) : Prop :=
  ∃ contact, m.sender = some contact ∧ t.HasConversation m.conversation m.inbox m.account contact

def Attachment.RefersIn (t : Tables) (a : Attachment) : Prop := ∃ inbox, t.HasMessage a.message inbox a.account

theorem Inbox.refersIn_congr {t : Tables} {i j : Inbox} (h : i.place = j.place) (hi : i.RefersIn t) : j.RefersIn t := by
  obtain ⟨-, haccount, hchannel, -⟩ := place_eq_iff.1 h
  rwa [RefersIn, haccount, hchannel] at hi

theorem Conversation.refersIn_congr {t : Tables} {c d : Conversation} (h : c.thread = d.thread) (hc : c.RefersIn t) :
    d.RefersIn t := by
  obtain ⟨-, haccount, hinbox, hcontact, hlink, -⟩ := thread_eq_iff.1 h
  rwa [RefersIn, haccount, hinbox, hcontact, hlink] at hc

theorem Message.refersIn_congr {t : Tables} {m n : Message} (h : m.record = n.record) (hm : m.RefersIn t) :
    n.RefersIn t := by
  obtain ⟨-, haccount, hinbox, hconversation, hsender, -⟩ := record_eq_iff.1 h
  rwa [RefersIn, haccount, hinbox, hconversation, hsender] at hm

/-- The file type goes with the payload. -/
def Attachment.Typed (a : Attachment) : Prop :=
  match a.payload with
  | .fallback _ => a.fileType = .contact
  | .location .. => a.fileType = .location
  | .file .. => a.fileType = .image ∨ a.fileType = .audio ∨ a.fileType = .video ∨ a.fileType = .file

namespace Tables

structure DistinctIds (t : Tables) : Prop where
  channelIds : (t.channels.map (·.id)).Nodup
  inboxIds : (t.inboxes.map (·.id)).Nodup
  contactIds : (t.contacts.map (·.id)).Nodup
  contactInboxIds : (t.contactInboxes.map (·.id)).Nodup
  conversationIds : (t.conversations.map (·.id)).Nodup
  messageIds : (t.messages.map (·.id)).Nodup
  attachmentIds : (t.attachments.map (·.id)).Nodup

/-- The rows of `new` are in order beside those of `t`. -/
structure Fits (new t : Tables) : Prop where
  digits : ∀ l ∈ new.contactInboxes, IsDigits l.sourceId
  inboxes : ∀ i ∈ new.inboxes, i.RefersIn t
  contactInboxes : ∀ l ∈ new.contactInboxes, l.RefersIn t
  conversations : ∀ c ∈ new.conversations, c.RefersIn t
  messages : ∀ m ∈ new.messages, m.RefersIn t
  attachments : ∀ a ∈ new.attachments, a.RefersIn t
  types : ∀ a ∈ new.attachments, a.Typed

structure Coherent (t : Tables) : Prop extends t.Fits t where
  /-- Links are unique by inbox and source id. -/
  links : (t.contactInboxes.map fun l => (l.inbox, l.sourceId)).Nodup
  /-- Contacts are unique by account and phone number. -/
  phones : (t.contacts.map fun c => (c.account, c.phoneNumber)).Nodup

structure Integrity (t : Tables) : Prop extends t.DistinctIds, t.Coherent

/-! ## What a look-up finds -/

variable {t t' t'' new : Tables}

theorem findInbox_eq_some {channel : Snowflake} {i : Inbox} (h : t.findInbox channel = some i) :
    i ∈ t.inboxes ∧ i.channel = channel :=
  ⟨List.mem_of_find?_eq_some h, by simpa using List.find?_some h⟩

theorem findContact_eq_some {id : Snowflake} {c : Contact} (h : t.findContact id = some c) :
    c ∈ t.contacts ∧ c.id = id :=
  ⟨List.mem_of_find?_eq_some h, by simpa using List.find?_some h⟩

theorem findContactInbox_eq_some {inbox : Snowflake} {source : String} {l : ContactInbox}
    (h : t.findContactInbox inbox source = some l) : l ∈ t.contactInboxes ∧ l.inbox = inbox ∧ l.sourceId = source :=
  ⟨List.mem_of_find?_eq_some h, by simpa using List.find?_some h⟩

theorem findContactByPhone_eq_some {account : Snowflake} {phone : String} {c : Contact}
    (h : t.findContactByPhone account phone = some c) :
    c ∈ t.contacts ∧ c.account = account ∧ c.phoneNumber = some phone :=
  ⟨List.mem_of_find?_eq_some h, by simpa using List.find?_some h⟩

theorem findMessage_eq_some {inbox : Snowflake} {source : String} {m : Message}
    (h : t.findMessage inbox source = some m) : m ∈ t.messages ∧ m.inbox = inbox ∧ m.sourceId = source :=
  ⟨List.mem_of_find?_eq_some h, by simpa using List.find?_some h⟩

theorem ne_of_findContactInbox {inbox : Snowflake} {source : String} (h : t.findContactInbox inbox source = none)
    {l : ContactInbox} (hl : l ∈ t.contactInboxes) : (l.inbox, l.sourceId) ≠ (inbox, source) := by
  intro heq
  obtain ⟨rfl, rfl⟩ := Prod.mk.inj heq
  have hl' := List.find?_eq_none.1 h l hl
  simp at hl'

theorem ne_of_findContactByPhone {account : Snowflake} {phone : String}
    (h : t.findContactByPhone account phone = none) {c : Contact} (hc : c ∈ t.contacts) :
    (c.account, c.phoneNumber) ≠ (account, some phone) := by
  intro heq
  obtain ⟨rfl, hphone⟩ := Prod.mk.inj heq
  have hc' := List.find?_eq_none.1 h c hc
  simp [hphone] at hc'

/-! ## Adding rows -/

/-- The tables without what may change about a row. -/
def core (t : Tables) : Tables :=
  { t with
    channels := t.channels.map Channel.line
    inboxes := t.inboxes.map Inbox.place
    accounts := []
    conversations := t.conversations.map Conversation.thread
    messages := t.records }

def append (t new : Tables) : Tables where
  channels := t.channels ++ new.channels
  inboxes := t.inboxes ++ new.inboxes
  accounts := t.accounts ++ new.accounts
  contacts := t.contacts ++ new.contacts
  contactInboxes := t.contactInboxes ++ new.contactInboxes
  conversations := t.conversations ++ new.conversations
  messages := t.messages ++ new.messages
  attachments := t.attachments ++ new.attachments

/-- In `t'` are the rows of `t`, followed by those of `new`. -/
def Adds (t new t' : Tables) : Prop := t'.core = (t.append new).core

def Grows (t t' : Tables) : Prop := ∃ new, t.Adds new t'

theorem append_core (t new : Tables) : (t.append new).core = t.core.append new.core := by
  simp [append, core, records]

theorem append_empty (t : Tables) : t.append {} = t := by simp [append]

theorem append_assoc (t t' t'' : Tables) : (t.append t').append t'' = t.append (t'.append t'') := by
  simp [append]

theorem Adds.of_core_eq (h : t'.core = t.core) : t.Adds {} t' := by
  rw [Adds, append_empty]
  exact h

theorem Grows.refl (t : Tables) : t.Grows t := ⟨{}, .of_core_eq rfl⟩

theorem Adds.trans {new' : Tables} (h : t.Adds new t') (h' : t'.Adds new' t'') : t.Adds (new.append new') t'' := by
  rw [Adds, ← append_assoc, append_core, ← h, ← append_core]
  exact h'

theorem Grows.trans (h : t.Grows t') (h' : t'.Grows t'') : t.Grows t'' := by
  obtain ⟨new, ha⟩ := h
  obtain ⟨new', ha'⟩ := h'
  exact ⟨new.append new', ha.trans ha'⟩

theorem map_eq_append_cases {α β : Type} {f : α → β} {l l' new : List α} {a : α}
    (h : l'.map f = l.map f ++ new.map f) (ha : a ∈ l') :
    (∃ b ∈ l, f b = f a) ∨ ∃ b ∈ new, f b = f a := by
  have hmem : f a ∈ l.map f ++ new.map f := h ▸ List.mem_map_of_mem ha
  rcases List.mem_append.1 hmem with hmem | hmem
  · exact .inl (List.mem_map.1 hmem)
  · exact .inr (List.mem_map.1 hmem)

theorem exists_of_map_eq_append {α β : Type} {f : α → β} {l l' new : List α} {a : α}
    (h : l'.map f = l.map f ++ new.map f) (ha : a ∈ l) : ∃ b ∈ l', f b = f a := by
  have hmem : f a ∈ l'.map f := h ▸ List.mem_append_left _ (List.mem_map_of_mem ha)
  exact List.mem_map.1 hmem

theorem map_eq_append_of {α β γ : Type} {f : α → β} {g : α → γ} {l l' new : List α}
    (hg : ∀ a b, f a = f b → g a = g b) (h : l'.map f = l.map f ++ new.map f) :
    l'.map g = l.map g ++ new.map g := by
  rw [← List.map_append] at h ⊢
  exact List.forall₂_eq_eq_eq ▸ List.forall₂_map_left_iff.2 (List.forall₂_map_right_iff.2
    ((List.forall₂_map_left_iff.1 (List.forall₂_map_right_iff.1 (List.forall₂_eq_eq_eq ▸ h))).imp hg))

namespace Adds

theorem lines (h : t.Adds new t') :
    t'.channels.map Channel.line = t.channels.map Channel.line ++ new.channels.map Channel.line :=
  (congrArg Tables.channels h).trans List.map_append

theorem places (h : t.Adds new t') :
    t'.inboxes.map Inbox.place = t.inboxes.map Inbox.place ++ new.inboxes.map Inbox.place :=
  (congrArg Tables.inboxes h).trans List.map_append

theorem contacts (h : t.Adds new t') : t'.contacts = t.contacts ++ new.contacts :=
  congrArg (fun t : Tables => t.contacts) h

theorem contactInboxes (h : t.Adds new t') : t'.contactInboxes = t.contactInboxes ++ new.contactInboxes :=
  congrArg (fun t : Tables => t.contactInboxes) h

theorem threads (h : t.Adds new t') :
    t'.conversations.map Conversation.thread =
      t.conversations.map Conversation.thread ++ new.conversations.map Conversation.thread :=
  (congrArg Tables.conversations h).trans List.map_append

theorem records (h : t.Adds new t') :
    t'.messages.map Message.record = t.messages.map Message.record ++ new.messages.map Message.record :=
  (congrArg Tables.messages h).trans List.map_append

theorem attachments (h : t.Adds new t') : t'.attachments = t.attachments ++ new.attachments :=
  congrArg (fun t : Tables => t.attachments) h

end Adds

theorem adds_message (t : Tables) (m : Message) :
    t.Adds { messages := [m] } { t with messages := t.messages ++ [m] } := by
  simp [Adds, append]

theorem adds_conversation (t : Tables) (c : Conversation) : t.Adds { conversations := [c] } (t.addConversation c) := by
  simp [Adds, append, addConversation]

theorem adds_attachment (t : Tables) (a : Attachment) : t.Adds { attachments := [a] } (t.addAttachment a) := by
  simp [Adds, append, addAttachment]

theorem adds_link (t : Tables) (l : ContactInbox) : t.Adds { contactInboxes := [l] } (t.addContactInbox l) := by
  simp [Adds, append, addContactInbox]

theorem adds_contact (t : Tables) (c : Contact) (l : ContactInbox) :
    t.Adds { contacts := [c], contactInboxes := [l] } ((t.addContact c).addContactInbox l) := by
  simp [Adds, append, addContact, addContactInbox]

/-! ## What stays when rows are added -/

namespace Grows

variable {i a c m : Snowflake} {l : ContactInbox}

theorem hasInbox (h : t.Grows t') (hi : t.HasInbox i a) : t'.HasInbox i a := by
  obtain ⟨new, ha⟩ := h
  obtain ⟨j, hj, rfl, rfl⟩ := hi
  obtain ⟨j', hj', heq⟩ := exists_of_map_eq_append ha.places hj
  obtain ⟨hid, haccount, -⟩ := Inbox.place_eq_iff.1 heq
  exact ⟨j', hj', hid, haccount⟩

theorem mem_contacts (h : t.Grows t') {c : Contact} (hc : c ∈ t.contacts) : c ∈ t'.contacts := by
  obtain ⟨new, ha⟩ := h
  rw [ha.contacts]
  exact List.mem_append_left _ hc

theorem mem_contactInboxes (h : t.Grows t') (hl : l ∈ t.contactInboxes) : l ∈ t'.contactInboxes := by
  obtain ⟨new, ha⟩ := h
  rw [ha.contactInboxes]
  exact List.mem_append_left _ hl

theorem hasLink {l : Snowflake} (h : t.Grows t') (hl : t.HasLink l i c) : t'.HasLink l i c := by
  obtain ⟨link, hlink, hrest⟩ := hl
  exact ⟨link, h.mem_contactInboxes hlink, hrest⟩

theorem hasConversation {v : Snowflake} (h : t.Grows t') (hv : t.HasConversation v i a c) :
    t'.HasConversation v i a c := by
  obtain ⟨new, ha⟩ := h
  obtain ⟨w, hw, rfl, rfl, rfl, rfl⟩ := hv
  obtain ⟨w', hw', heq⟩ := exists_of_map_eq_append ha.threads hw
  obtain ⟨hid, haccount, hinbox, hcontact, -⟩ := Conversation.thread_eq_iff.1 heq
  exact ⟨w', hw', hid, hinbox, haccount, hcontact⟩

theorem hasMessage (h : t.Grows t') (hm : t.HasMessage m i a) : t'.HasMessage m i a := by
  obtain ⟨new, ha⟩ := h
  obtain ⟨n, hn, rfl, rfl, rfl⟩ := hm
  obtain ⟨n', hn', heq⟩ := exists_of_map_eq_append ha.records hn
  obtain ⟨hid, haccount, hinbox, -⟩ := Message.record_eq_iff.1 heq
  exact ⟨n', hn', hid, hinbox, haccount⟩

theorem inbox {i : Inbox} (h : t.Grows t') (hi : i.RefersIn t) : i.RefersIn t' := by
  obtain ⟨new, ha⟩ := h
  obtain ⟨c, hc, hid, haccount⟩ := hi
  obtain ⟨c', hc', heq⟩ := exists_of_map_eq_append ha.lines hc
  obtain ⟨hid', haccount', -⟩ := Channel.line_eq_iff.1 heq
  exact ⟨c', hc', hid'.trans hid, haccount'.trans haccount⟩

theorem contactInbox (h : t.Grows t') (hl : l.RefersIn t) : l.RefersIn t' := by
  obtain ⟨i, hi, c, hc, rest⟩ := hl
  obtain ⟨new, ha⟩ := id h
  obtain ⟨i', hi', heq⟩ := exists_of_map_eq_append ha.places hi
  obtain ⟨hid, haccount, -⟩ := Inbox.place_eq_iff.1 heq
  exact ⟨i', hi', c, h.mem_contacts hc, by rwa [hid, haccount]⟩

theorem conversation {c : Conversation} (h : t.Grows t') (hc : c.RefersIn t) : c.RefersIn t' :=
  ⟨h.hasInbox hc.1, h.hasLink hc.2⟩

theorem message {m : Message} (h : t.Grows t') (hm : m.RefersIn t) : m.RefersIn t' := by
  obtain ⟨contact, hsender, hc⟩ := hm
  exact ⟨contact, hsender, h.hasConversation hc⟩

theorem attachment {a : Attachment} (h : t.Grows t') (ha : a.RefersIn t) : a.RefersIn t' := by
  obtain ⟨inbox, hm⟩ := ha
  exact ⟨inbox, h.hasMessage hm⟩

end Grows

theorem empty_fits (t : Tables) : Fits {} t := by
  constructor <;> exact fun _ h => nomatch h

theorem Fits.adds (h : t.Fits t) (ha : t.Adds new t') (hnew : new.Fits t') : t'.Fits t' := by
  have hg : t.Grows t' := ⟨new, ha⟩
  refine ⟨?_, fun i hi => ?_, ?_, fun c hc => ?_, fun m hm => ?_, ?_, ?_⟩
  · rw [ha.contactInboxes]
    exact List.forall_mem_append.2 ⟨h.digits, hnew.digits⟩
  · rcases map_eq_append_cases ha.places hi with ⟨j, hj, heq⟩ | ⟨j, hj, heq⟩
    · exact Inbox.refersIn_congr heq (hg.inbox (h.inboxes j hj))
    · exact Inbox.refersIn_congr heq (hnew.inboxes j hj)
  · rw [ha.contactInboxes]
    exact List.forall_mem_append.2 ⟨fun l hl => hg.contactInbox (h.contactInboxes l hl), hnew.contactInboxes⟩
  · rcases map_eq_append_cases ha.threads hc with ⟨d, hd, heq⟩ | ⟨d, hd, heq⟩
    · exact Conversation.refersIn_congr heq (hg.conversation (h.conversations d hd))
    · exact Conversation.refersIn_congr heq (hnew.conversations d hd)
  · rcases map_eq_append_cases ha.records hm with ⟨n, hn, heq⟩ | ⟨n, hn, heq⟩
    · exact Message.refersIn_congr heq (hg.message (h.messages n hn))
    · exact Message.refersIn_congr heq (hnew.messages n hn)
  · rw [ha.attachments]
    exact List.forall_mem_append.2 ⟨fun a ha => hg.attachment (h.attachments a ha), hnew.attachments⟩
  · rw [ha.attachments]
    exact List.forall_mem_append.2 ⟨h.types, hnew.types⟩

theorem Coherent.adds (h : t.Coherent) (ha : t.Adds new t') (hnew : new.Fits t')
    (hlinks : (new.contactInboxes.map fun l => (l.inbox, l.sourceId)).Nodup)
    (hphones : (new.contacts.map fun c => (c.account, c.phoneNumber)).Nodup)
    (hl : ∀ l ∈ new.contactInboxes, ∀ l' ∈ t.contactInboxes, (l'.inbox, l'.sourceId) ≠ (l.inbox, l.sourceId))
    (hc : ∀ c ∈ new.contacts, ∀ c' ∈ t.contacts, (c'.account, c'.phoneNumber) ≠ (c.account, c.phoneNumber)) :
    t'.Coherent := by
  refine ⟨h.toFits.adds ha hnew, ?_, ?_⟩
  · rw [ha.contactInboxes, List.map_append, List.nodup_append]
    refine ⟨h.links, hlinks, fun k hk k' hk' => ?_⟩
    obtain ⟨l', hl', rfl⟩ := List.mem_map.1 hk
    obtain ⟨l, hmem, rfl⟩ := List.mem_map.1 hk'
    exact hl l hmem l' hl'
  · rw [ha.contacts, List.map_append, List.nodup_append]
    refine ⟨h.phones, hphones, fun k hk k' hk' => ?_⟩
    obtain ⟨c', hc', rfl⟩ := List.mem_map.1 hk
    obtain ⟨c, hmem, rfl⟩ := List.mem_map.1 hk'
    exact hc c hmem c' hc'

/-- Unless a contact is linked, nothing can break the uniqueness of links and contacts. -/
theorem Coherent.adds_unlinked (h : t.Coherent) (ha : t.Adds new t') (hnew : new.Fits t')
    (hcontacts : new.contacts = []) (hlinks : new.contactInboxes = []) : t'.Coherent := by
  refine h.adds ha hnew ?_ ?_ ?_ ?_ <;> simp [hcontacts, hlinks]

/-! ## Ids of rows, by who makes them -/

/-- The ids of the rows that deliveries make. -/
def made (t : Tables) : Multiset Snowflake :=
  t.conversations.map (·.id) + t.messages.map (·.id) + t.attachments.map (·.id)

/-- The ids of the rows that the store makes. -/
def kept (t : Tables) : Multiset Snowflake :=
  t.channels.map (·.id) + t.inboxes.map (·.id) + t.contacts.map (·.id) + t.contactInboxes.map (·.id)

theorem Adds.made (h : t.Adds new t') : t'.made = t.made + new.made := by
  have hc := map_eq_append_of (fun _ _ heq => (Conversation.thread_eq_iff.1 heq).1) h.threads
  have hm := map_eq_append_of (fun _ _ heq => (Message.record_eq_iff.1 heq).1) h.records
  simp only [Tables.made, hc, hm, h.attachments, List.map_append, ← Multiset.coe_add]
  ac_rfl

theorem Adds.kept (h : t.Adds new t') : t'.kept = t.kept + new.kept := by
  have hc := map_eq_append_of (fun _ _ heq => (Channel.line_eq_iff.1 heq).1) h.lines
  have hi := map_eq_append_of (fun _ _ heq => (Inbox.place_eq_iff.1 heq).1) h.places
  simp only [Tables.kept, hc, hi, h.contacts, h.contactInboxes, List.map_append, ← Multiset.coe_add]
  ac_rfl

theorem distinctIds_of_nodup (hmade : t.made.Nodup) (hkept : t.kept.Nodup) : t.DistinctIds := by
  simp only [made, kept, Multiset.nodup_add, Multiset.coe_nodup] at hmade hkept
  obtain ⟨⟨hc, hm, -⟩, ha, -⟩ := hmade
  obtain ⟨⟨⟨hch, hi, -⟩, hco, -⟩, hl, -⟩ := hkept
  exact ⟨hch, hi, hco, hl, hc, hm, ha⟩

end Tables

end Intake
