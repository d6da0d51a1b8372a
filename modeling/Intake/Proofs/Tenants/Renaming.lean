import Intake.Delivery.Run
import Mathlib.Data.List.Forall2
import Mathlib.Logic.Relator

/-!
# Alike up to the choice of ids

Two runs of one delivery make different ids and read different clocks. A `Renaming` says which ids of one run stand for
which of the other; it grows as ids are made (`≤`), and what is alike stays alike. Rows, outcomes and reports are alike
if they agree up to the renaming and but for the moments of creation.
-/

namespace Intake

/-- Which ids stand for each other, among those that stores make and among those that deliveries make. -/
structure Renaming where
  store : Snowflake → Snowflake → Prop
  made : Snowflake → Snowflake → Prop

namespace Renaming

instance : LE Renaming :=
  ⟨fun ρ ρ' => (∀ i j, ρ.store i j → ρ'.store i j) ∧ ∀ i j, ρ.made i j → ρ'.made i j⟩

variable {ρ ρ₁ ρ₂ ρ₃ : Renaming}

theorem le_refl (ρ : Renaming) : ρ ≤ ρ := ⟨fun _ _ h => h, fun _ _ h => h⟩

theorem le_trans (h : ρ₁ ≤ ρ₂) (h' : ρ₂ ≤ ρ₃) : ρ₁ ≤ ρ₃ :=
  ⟨fun i j hij => h'.1 i j (h.1 i j hij), fun i j hij => h'.2 i j (h.2 i j hij)⟩

/-- No id stands for two, and no two for one. -/
structure OneToOne (ρ : Renaming) : Prop where
  store : Relator.BiUnique ρ.store
  made : Relator.BiUnique ρ.made

/-- One more pair of a store's ids. -/
def withStore (ρ : Renaming) (i j : Snowflake) : Renaming := { ρ with store := fun a b => ρ.store a b ∨ a = i ∧ b = j }

/-- One more pair of ids that deliveries make. -/
def withMade (ρ : Renaming) (i j : Snowflake) : Renaming := { ρ with made := fun a b => ρ.made a b ∨ a = i ∧ b = j }

theorem le_withStore (ρ : Renaming) (i j : Snowflake) : ρ ≤ ρ.withStore i j := ⟨fun _ _ => .inl, fun _ _ h => h⟩

theorem le_withMade (ρ : Renaming) (i j : Snowflake) : ρ ≤ ρ.withMade i j := ⟨fun _ _ h => h, fun _ _ => .inl⟩

theorem biUnique_insert {R : Snowflake → Snowflake → Prop} {i j : Snowflake} (h : Relator.BiUnique R)
    (hi : ∀ b, ¬ R i b) (hj : ∀ a, ¬ R a j) : Relator.BiUnique fun a b => R a b ∨ a = i ∧ b = j := by
  constructor
  · rintro a c b (hab | ⟨rfl, rfl⟩) (hcb | ⟨rfl, hb⟩)
    · exact h.1 hab hcb
    · exact absurd (hb ▸ hab) (hj a)
    · exact absurd hcb (hj c)
    · rfl
  · rintro a b c (hab | ⟨rfl, rfl⟩) (hac | ⟨ha, rfl⟩)
    · exact h.2 hab hac
    · exact absurd (ha ▸ hab) (hi b)
    · exact absurd hac (hi c)
    · rfl

end Renaming

variable {ρ ρ' : Renaming}

/-! ## Rows -/

structure Contact.Like (ρ : Renaming) (c d : Contact) : Prop where
  id : ρ.store c.id d.id
  account : c.account = d.account
  name : c.name = d.name
  phoneNumber : c.phoneNumber = d.phoneNumber

structure ContactInbox.Like (ρ : Renaming) (l k : ContactInbox) : Prop where
  id : ρ.store l.id k.id
  contact : ρ.store l.contact k.contact
  inbox : l.inbox = k.inbox
  sourceId : l.sourceId = k.sourceId

structure Conversation.Like (ρ : Renaming) (c d : Conversation) : Prop where
  id : ρ.made c.id d.id
  account : c.account = d.account
  inbox : c.inbox = d.inbox
  contact : ρ.store c.contact d.contact
  contactInbox : ρ.store c.contactInbox d.contactInbox
  status : c.status = d.status

structure Message.Like (ρ : Renaming) (m n : Message) : Prop where
  id : ρ.made m.id n.id
  account : m.account = n.account
  inbox : m.inbox = n.inbox
  conversation : ρ.made m.conversation n.conversation
  sender : Option.Rel ρ.store m.sender n.sender
  direction : m.direction = n.direction
  content : m.content = n.content
  sourceId : m.sourceId = n.sourceId
  inReplyTo : m.inReplyTo = n.inReplyTo
  status : m.status = n.status
  externalError : m.externalError = n.externalError

structure Attachment.Like (ρ : Renaming) (a b : Attachment) : Prop where
  id : ρ.made a.id b.id
  message : ρ.made a.message b.message
  account : a.account = b.account
  fileType : a.fileType = b.fileType
  payload : a.payload = b.payload

structure ResolvedContact.Like (ρ : Renaming) (c d : ResolvedContact) : Prop where
  contact : Contact.Like ρ c.contact d.contact
  contactInbox : ContactInbox.Like ρ c.contactInbox d.contactInbox

theorem Contact.Like.mono {c d : Contact} (h : Contact.Like ρ c d) (hle : ρ ≤ ρ') : Contact.Like ρ' c d :=
  { h with id := hle.1 _ _ h.id }

theorem ContactInbox.Like.mono {l k : ContactInbox} (h : ContactInbox.Like ρ l k) (hle : ρ ≤ ρ') :
    ContactInbox.Like ρ' l k :=
  { h with
    id := hle.1 _ _ h.id
    contact := hle.1 _ _ h.contact }

theorem Conversation.Like.mono {c d : Conversation} (h : Conversation.Like ρ c d) (hle : ρ ≤ ρ') :
    Conversation.Like ρ' c d :=
  { h with
    id := hle.2 _ _ h.id
    contact := hle.1 _ _ h.contact
    contactInbox := hle.1 _ _ h.contactInbox }

theorem Option.Rel.mono {α β : Type} {R S : α → β → Prop} (h : ∀ a b, R a b → S a b) {x : Option α} {y : Option β}
    (hx : Option.Rel R x y) : Option.Rel S x y := by
  cases hx with
  | some hab => exact .some (h _ _ hab)
  | none => exact .none

theorem Option.Rel.isSome_eq {α β : Type} {R : α → β → Prop} {x : Option α} {y : Option β} (h : Option.Rel R x y) :
    x.isSome = y.isSome := by
  cases h <;> rfl

theorem Option.Rel.exists_of_some {α β : Type} {R : α → β → Prop} {x : Option α} {y : Option β} {a : α}
    (h : Option.Rel R x y) (hx : x = some a) : ∃ b, y = some b ∧ R a b := by
  subst hx
  cases h with
  | some hab => exact ⟨_, rfl, hab⟩

theorem Option.Rel.eq_none {α β : Type} {R : α → β → Prop} {x : Option α} {y : Option β} (h : Option.Rel R x y)
    (hx : x = none) : y = none := by
  subst hx
  cases h
  rfl

theorem Message.Like.mono {m n : Message} (h : Message.Like ρ m n) (hle : ρ ≤ ρ') : Message.Like ρ' m n :=
  { h with
    id := hle.2 _ _ h.id
    conversation := hle.2 _ _ h.conversation
    sender := Option.Rel.mono hle.1 h.sender }

theorem Attachment.Like.mono {a b : Attachment} (h : Attachment.Like ρ a b) (hle : ρ ≤ ρ') : Attachment.Like ρ' a b :=
  { h with
    id := hle.2 _ _ h.id
    message := hle.2 _ _ h.message }

theorem ResolvedContact.Like.mono {c d : ResolvedContact} (h : ResolvedContact.Like ρ c d) (hle : ρ ≤ ρ') :
    ResolvedContact.Like ρ' c d :=
  ⟨h.contact.mono hle, h.contactInbox.mono hle⟩

theorem Message.Like.applyStatus {m n : Message} (h : Message.Like ρ m n) (status : MessageStatus)
    (e : Option String) : Message.Like ρ (m.applyStatus status e) (n.applyStatus status e) :=
  { h with
    status := rfl
    externalError := congrArg (e <|> ·) h.externalError }

/-! ## Outcomes -/

def EventOutcome.Like (ρ : Renaming) : EventOutcome → EventOutcome → Prop
  | messageCreated s ms n, messageCreated s' ms' n' => s = s' ∧ List.Forall₂ ρ.made ms ms' ∧ n = n'
  | contactResolved s c, contactResolved s' c' => s = s' ∧ ρ.store c c'
  | o, o' => o = o'

structure IngestReport.Like (ρ : Renaming) (r r' : IngestReport) : Prop where
  channel : r.channel = r'.channel
  skipped : r.skipped = r'.skipped
  outcomes : List.Forall₂ (EventOutcome.Like ρ) r.outcomes r'.outcomes

theorem EventOutcome.Like.mono {o o' : EventOutcome} (h : EventOutcome.Like ρ o o') (hle : ρ ≤ ρ') :
    EventOutcome.Like ρ' o o' := by
  cases o <;> cases o' <;> first
    | exact h
    | exact ⟨h.1, h.2.1.imp hle.2, h.2.2⟩
    | exact ⟨h.1, hle.1 _ _ h.2⟩

theorem IngestReport.Like.mono {r r' : IngestReport} (h : IngestReport.Like ρ r r') (hle : ρ ≤ ρ') :
    IngestReport.Like ρ' r r' :=
  { h with outcomes := h.outcomes.imp fun _ _ ho => ho.mono hle }

end Intake
