import Intake.Proofs.Integrity.Tables
import Intake.Proofs.Tenants.Outside
import Intake.Proofs.Tenants.Renaming
import Mathlib.Data.List.Find

/-!
# The rows of one tenant

What a delivery finds and changes is within its target (`Tables.within`): each look-up that it makes gives the same
among the target's rows alone, and what it adds is added there. So two stores whose rows within the target are alike
answer it alike.
-/

namespace Intake

theorem List.find?_filter_of {α : Type} {p q : α → Bool} {l : List α} (h : ∀ a ∈ l, p a = true → q a = true) :
    (l.filter q).find? p = l.find? p := by
  rw [List.find?_filter]
  refine List.find?_congr fun a ha => ?_
  cases hp : p a with
  | false => simp
  | true => simp [h a ha hp]

theorem List.filter_filter_of {α : Type} {p q : α → Bool} {l : List α} (h : ∀ a ∈ l, p a = true → q a = true) :
    (l.filter q).filter p = l.filter p := by
  rw [List.filter_filter]
  refine List.filter_congr fun a ha => ?_
  cases hp : p a with
  | false => simp
  | true => simp [h a ha hp]

theorem List.filter_eq_of_filter_eq {α : Type} {p q q' : α → Bool} {l l' : List α} (h : l'.filter q' = l.filter q)
    (hq : ∀ a ∈ l, p a = true → q a = true) (hq' : ∀ a ∈ l', p a = true → q' a = true) : l'.filter p = l.filter p := by
  rw [← filter_filter_of hq, ← filter_filter_of hq', h]

theorem List.Forall₂.find? {α β : Type} {R : α → β → Prop} {p : α → Bool} {q : β → Bool} {l : List α} {l' : List β}
    (h : List.Forall₂ R l l') (hpq : ∀ a b, R a b → p a = q b) : Option.Rel R (l.find? p) (l'.find? q) := by
  induction h with
  | nil => exact .none
  | @cons a b l l' hab _ ih =>
    rw [List.find?_cons, List.find?_cons, hpq a b hab]
    cases q b with
    | true => exact .some hab
    | false => exact ih

/-- Every id of a row stands for itself. -/
def Renaming.rows (t : Tables) : Renaming where
  store i j := i = j ∧ i ∈ t.kept
  made i j := i = j ∧ i ∈ t.made

namespace Tables

variable {t t' : Tables} {target : ResolvedChannel} {ρ ρ' : Renaming}

/-- The rows of some inboxes, and the contacts and attachments of some accounts. -/
def part (t : Tables) (accounts inboxes : Snowflake → Bool) : Tables :=
  { t with
    contacts := t.contacts.filter fun c => accounts c.account
    contactInboxes := t.contactInboxes.filter fun l => inboxes l.inbox
    conversations := t.conversations.filter fun c => inboxes c.inbox
    messages := t.messages.filter fun m => inboxes m.inbox
    attachments := t.attachments.filter fun a => accounts a.account }

/-- The rows of the target's inbox and account. -/
def within (t : Tables) (target : ResolvedChannel) : Tables :=
  t.part (· = target.inbox.account) (· = target.inbox.id)

/-! ## Look-ups within the target -/

theorem within_findMessage (t : Tables) (target : ResolvedChannel) (source : String) :
    (t.within target).findMessage target.inbox.id source = t.findMessage target.inbox.id source :=
  List.find?_filter_of fun _ _ h => (Bool.and_eq_true_iff.1 h).1

theorem within_findContactInbox (t : Tables) (target : ResolvedChannel) (source : String) :
    (t.within target).findContactInbox target.inbox.id source = t.findContactInbox target.inbox.id source :=
  List.find?_filter_of fun _ _ h => (Bool.and_eq_true_iff.1 h).1

theorem within_findContactByPhone (t : Tables) (target : ResolvedChannel) (phone : String) :
    (t.within target).findContactByPhone target.inbox.account phone =
      t.findContactByPhone target.inbox.account phone :=
  List.find?_filter_of fun _ _ h => (Bool.and_eq_true_iff.1 h).1

theorem Integrity.within_findContact (h : t.Integrity) (hi : t.HasInbox target.inbox.id target.inbox.account)
    {l : ContactInbox} (hl : l ∈ t.contactInboxes) (hinbox : l.inbox = target.inbox.id) :
    ∃ c, (t.within target).findContact l.contact = some c ∧ t.findContact l.contact = some c := by
  obtain ⟨i, hmem, c, hc, hid, hcid, haccount, -⟩ := h.contactInboxes l hl
  have hown : i.account = target.inbox.account := h.inbox_unique ⟨i, hmem, hid.trans hinbox, rfl⟩ hi
  have hsame : (t.within target).findContact l.contact = t.findContact l.contact := by
    refine List.find?_filter_of fun d hd hdid => ?_
    obtain rfl : d = c := List.inj_on_of_nodup_map h.contactIds hd hc ((by simpa using hdid : d.id = _).trans hcid.symm)
    simpa using haccount.trans hown
  obtain ⟨d, hd⟩ : ∃ d, t.findContact l.contact = some d :=
    Option.isSome_iff_exists.1 (List.find?_isSome.2 ⟨c, hc, by simpa using hcid⟩)
  exact ⟨d, hsame.trans hd, hd⟩

theorem Integrity.within_findConversation (h : t.Integrity) {link contact : Snowflake}
    (hl : t.HasLink link target.inbox.id contact) (filter : ConversationFilter) :
    (t.within target).findConversation link filter = t.findConversation link filter := by
  rw [findConversation, findConversation, within, part, List.filter_filter]
  congr 1
  refine List.filter_congr fun c hc => ?_
  by_cases hlink : c.contactInbox = link
  · have hinbox : c.inbox = target.inbox.id := (h.link_unique (hlink ▸ (h.conversations c hc).2) hl).1
    simp [hinbox]
  · simp [hlink]

theorem findConversation_eq_none_iff {link : Snowflake} {filter : ConversationFilter} :
    t.findConversation link filter = none ↔
      ∀ c ∈ t.conversations, ¬ (c.contactInbox = link ∧ filter.admits c = true) := by
  have hnone : ∀ l : List Conversation, Conversation.latest? l = none ↔ l = [] := by
    intro l
    cases l <;> simp [Conversation.latest?]
  rw [findConversation, hnone, List.filter_eq_nil_iff]
  simp

theorem findConversation_add {c : Conversation} {filter : ConversationFilter}
    (hnone : t.findConversation c.contactInbox filter = none) (hc : c.status = .open) (link : Snowflake) :
    (t.addConversation c).findConversation link filter =
      if c.contactInbox = link then some c else t.findConversation link filter := by
  have hadmits : filter.admits c = true := by
    cases filter <;> simp [ConversationFilter.admits, Conversation.isResolved, hc]
  rw [findConversation, addConversation, List.filter_append]
  split
  · next hlink =>
    have hold : (t.conversations.filter fun d => d.contactInbox = link && filter.admits d) = [] := by
      rw [List.filter_eq_nil_iff]
      intro d hd hboth
      exact findConversation_eq_none_iff.1 hnone d hd (by simpa [hlink] using hboth)
    rw [hold, List.filter_cons, if_pos (by simp [hlink, hadmits])]
    rfl
  · next hlink =>
    rw [List.filter_cons, if_neg (by simp [hlink]), List.filter_nil, List.append_nil]
    rfl

/-! ## Changes within the target -/

theorem within_addMessage {m : Message} (hm : m.inbox = target.inbox.id) :
    Tables.within { t with messages := t.messages ++ [m] } target =
      { t.within target with messages := (t.within target).messages ++ [m] } := by
  simp [within, part, hm]

theorem within_addConversation {c : Conversation} (hc : c.inbox = target.inbox.id) :
    (t.addConversation c).within target = (t.within target).addConversation c := by
  simp [within, part, addConversation, hc]

theorem within_addContact {c : Contact} (hc : c.account = target.inbox.account) :
    (t.addContact c).within target = (t.within target).addContact c := by
  simp [within, part, addContact, hc]

theorem within_addContactInbox {l : ContactInbox} (hl : l.inbox = target.inbox.id) :
    (t.addContactInbox l).within target = (t.within target).addContactInbox l := by
  simp [within, part, addContactInbox, hl]

theorem within_addAttachment {a : Attachment} (ha : a.account = target.inbox.account) :
    (t.addAttachment a).within target = (t.within target).addAttachment a := by
  simp [within, part, addAttachment, ha]

theorem Integrity.within_updateStatus (h : t.Integrity) {message account : Snowflake}
    (hm : t.HasMessage message target.inbox.id account) (status : MessageStatus) (e : Option String) :
    ∃ t', t.updateStatus message status e = .ok t' ∧
      t'.within target = { t.within target with
        messages := (t.within target).messages.map fun m => if m.id = message then m.applyStatus status e else m } := by
  obtain ⟨m, hmem, hid, -, -⟩ := hm
  have hany : (t.messages.any (·.id = message)) = true := List.any_eq_true.2 ⟨m, hmem, by simpa using hid⟩
  rw [updateStatus, if_pos hany]
  refine ⟨_, rfl, ?_⟩
  have hmap := modifyFirst_of_id h.messageIds message fun m => m.applyStatus status e
  have hfilter : (t.messages.map fun m => if m.id = message then m.applyStatus status e else m).filter
      (·.inbox = target.inbox.id) = (t.messages.filter (·.inbox = target.inbox.id)).map
        fun m => if m.id = message then m.applyStatus status e else m := by
    rw [List.filter_map]
    congr 1
    refine List.filter_congr fun m _ => ?_
    change decide ((if m.id = message then m.applyStatus status e else m).inbox = _) = _
    split <;> rfl
  rw [within, part, hmap, hfilter]
  rfl

/-! ## Tables that are alike -/

structure Like (ρ : Renaming) (t t' : Tables) : Prop where
  contacts : List.Forall₂ (Contact.Like ρ) t.contacts t'.contacts
  contactInboxes : List.Forall₂ (ContactInbox.Like ρ) t.contactInboxes t'.contactInboxes
  conversations : List.Forall₂ (Conversation.Like ρ) t.conversations t'.conversations
  messages : List.Forall₂ (Message.Like ρ) t.messages t'.messages
  attachments : List.Forall₂ (Attachment.Like ρ) t.attachments t'.attachments

namespace Like

theorem mono (h : t.Like ρ t') (hle : ρ ≤ ρ') : t.Like ρ' t' where
  contacts := h.contacts.imp fun _ _ hc => hc.mono hle
  contactInboxes := h.contactInboxes.imp fun _ _ hl => hl.mono hle
  conversations := h.conversations.imp fun _ _ hc => hc.mono hle
  messages := h.messages.imp fun _ _ hm => hm.mono hle
  attachments := h.attachments.imp fun _ _ ha => ha.mono hle

theorem part (h : t.Like ρ t') (accounts inboxes : Snowflake → Bool) :
    (t.part accounts inboxes).Like ρ (t'.part accounts inboxes) where
  contacts := List.rel_filter (fun _ _ hc => by simp [hc.account]) h.contacts
  contactInboxes := List.rel_filter (fun _ _ hl => by simp [hl.inbox]) h.contactInboxes
  conversations := List.rel_filter (fun _ _ hc => by simp [hc.inbox]) h.conversations
  messages := List.rel_filter (fun _ _ hm => by simp [hm.inbox]) h.messages
  attachments := List.rel_filter (fun _ _ ha => by simp [ha.account]) h.attachments

theorem findMessage (h : t.Like ρ t') (inbox : Snowflake) (source : String) :
    Option.Rel (Message.Like ρ) (t.findMessage inbox source) (t'.findMessage inbox source) :=
  List.Forall₂.find? h.messages fun _ _ hm => by rw [hm.inbox, hm.sourceId]

theorem findContactInbox (h : t.Like ρ t') (inbox : Snowflake) (source : String) :
    Option.Rel (ContactInbox.Like ρ) (t.findContactInbox inbox source) (t'.findContactInbox inbox source) :=
  List.Forall₂.find? h.contactInboxes fun _ _ hl => by rw [hl.inbox, hl.sourceId]

theorem findContactByPhone (h : t.Like ρ t') (account : Snowflake) (phone : String) :
    Option.Rel (Contact.Like ρ) (t.findContactByPhone account phone) (t'.findContactByPhone account phone) :=
  List.Forall₂.find? h.contacts fun _ _ hc => by rw [hc.account, hc.phoneNumber]

theorem findContact (h : t.Like ρ t') (hρ : Relator.BiUnique ρ.store) {x x' : Snowflake} (hx : ρ.store x x') :
    Option.Rel (Contact.Like ρ) (t.findContact x) (t'.findContact x') := by
  refine List.Forall₂.find? h.contacts fun c c' hc => ?_
  have hiff : c.id = x ↔ c'.id = x' := by
    constructor
    · rintro rfl
      exact hρ.2 hc.id hx
    · rintro rfl
      exact hρ.1 hc.id hx
  simp [hiff]

theorem updateStatus (h : t.Like ρ t') (hρ : Relator.BiUnique ρ.made) {x x' : Snowflake} (hx : ρ.made x x')
    (status : MessageStatus) (e : Option String) :
    Tables.Like ρ
      { t with messages := t.messages.map fun m => if m.id = x then m.applyStatus status e else m }
      { t' with messages := t'.messages.map fun m => if m.id = x' then m.applyStatus status e else m } := by
  refine { h with messages := List.rel_map (fun m m' hm => ?_) h.messages }
  by_cases hid : m.id = x
  · have hid' : m'.id = x' := hρ.2 (hid ▸ hm.id) hx
    rw [if_pos hid, if_pos hid']
    exact hm.applyStatus status e
  · have hid' : m'.id ≠ x' := fun heq => hid (hρ.1 (heq ▸ hm.id) hx)
    rw [if_neg hid, if_neg hid']
    exact hm

theorem addMessage (h : t.Like ρ t') {m m' : Message} (hm : m.Like ρ m') :
    Tables.Like ρ { t with messages := t.messages ++ [m] } { t' with messages := t'.messages ++ [m'] } :=
  { h with messages := List.rel_append h.messages (.cons hm .nil) }

theorem addConversation (h : t.Like ρ t') {c c' : Conversation} (hc : c.Like ρ c') :
    (t.addConversation c).Like ρ (t'.addConversation c') :=
  { h with conversations := List.rel_append h.conversations (.cons hc .nil) }

theorem addContact (h : t.Like ρ t') {c c' : Contact} (hc : c.Like ρ c') :
    (t.addContact c).Like ρ (t'.addContact c') :=
  { h with contacts := List.rel_append h.contacts (.cons hc .nil) }

theorem addContactInbox (h : t.Like ρ t') {l l' : ContactInbox} (hl : l.Like ρ l') :
    (t.addContactInbox l).Like ρ (t'.addContactInbox l') :=
  { h with contactInboxes := List.rel_append h.contactInboxes (.cons hl .nil) }

theorem addAttachment (h : t.Like ρ t') {a a' : Attachment} (ha : a.Like ρ a') :
    (t.addAttachment a).Like ρ (t'.addAttachment a') :=
  { h with attachments := List.rel_append h.attachments (.cons ha .nil) }

end Like

/-- Every row is like itself, and so are the rows that it refers to. -/
theorem Coherent.like_rows (h : t.Coherent) : t.Like (.rows t) t := by
  have hcontact : ∀ c ∈ t.contacts, c.id ∈ t.kept := fun c hc => by
    simpa [kept] using .inr (.inr (.inl ⟨c, hc, rfl⟩))
  have hlink : ∀ l i c, t.HasLink l i c → l ∈ t.kept ∧ c ∈ t.kept := by
    rintro _ _ _ ⟨l, hl, rfl, -, rfl⟩
    obtain ⟨i, -, c, hc, -, hid, -⟩ := h.contactInboxes l hl
    exact ⟨by simpa [kept] using .inr (.inr (.inr ⟨l, hl, rfl⟩)), hid ▸ hcontact c hc⟩
  have hconversation : ∀ v i a c, t.HasConversation v i a c → v ∈ t.made ∧ c ∈ t.kept := by
    rintro _ _ _ _ ⟨v, hv, rfl, -, -, rfl⟩
    exact ⟨by simpa [made] using .inl ⟨v, hv, rfl⟩, (hlink _ _ _ (h.conversations v hv).2).2⟩
  have hmessage : ∀ m ∈ t.messages, m.id ∈ t.made := fun m hm => by
    simpa [made] using .inr (.inl ⟨m, hm, rfl⟩)
  refine ⟨?_, ?_, ?_, ?_, ?_⟩ <;> refine List.forall₂_same.2 fun row hrow => ?_
  · exact ⟨⟨rfl, hcontact row hrow⟩, rfl, rfl, rfl⟩
  · obtain ⟨hl, hc⟩ := hlink row.id row.inbox row.contact ⟨row, hrow, rfl, rfl, rfl⟩
    exact ⟨⟨rfl, hl⟩, ⟨rfl, hc⟩, rfl, rfl⟩
  · obtain ⟨hl, hc⟩ := hlink _ _ _ (h.conversations row hrow).2
    obtain ⟨hv, -⟩ := hconversation row.id row.inbox row.account row.contact ⟨row, hrow, rfl, rfl, rfl, rfl⟩
    exact ⟨⟨rfl, hv⟩, rfl, rfl, ⟨rfl, hc⟩, ⟨rfl, hl⟩, rfl⟩
  · obtain ⟨contact, hsender, hv⟩ := h.messages row hrow
    obtain ⟨hv, hc⟩ := hconversation _ _ _ _ hv
    have hrel : Option.Rel (Renaming.rows t).store row.sender row.sender := by
      rw [hsender]
      exact .some ⟨rfl, hc⟩
    exact ⟨⟨rfl, hmessage row hrow⟩, rfl, rfl, ⟨rfl, hv⟩, hrel, rfl, rfl, rfl, rfl, rfl, rfl⟩
  · obtain ⟨inbox, m, hm, hid, -⟩ := h.attachments row hrow
    have ha : row.id ∈ t.made := by simpa [made] using .inr (.inr ⟨row, hrow, rfl⟩)
    exact ⟨⟨rfl, ha⟩, ⟨rfl, hid ▸ hmessage m hm⟩, rfl, rfl, rfl⟩

end Tables

end Intake
