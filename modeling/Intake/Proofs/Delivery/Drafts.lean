import Intake.Delivery.Ingest
import Intake.Proofs.Program.Exchange

/-!
# Which messages an event is made into

`messageIds` lists the source ids of the messages of one event. The drafts of the event are for these, in this order,
whatever replies the delivery gets (`drafts_keys`). The first is the event's own id, and no two are equal.
-/

namespace Intake.Ingest

/-- The messages of cards, the first of them with the given index. -/
def cardIds (source : String) (index : Nat) (cards : List ContactCard) : List String :=
  (List.range' index cards.length).map (cardSourceId source)

def messageIds (source : String) (m : InboundMessage) : List String :=
  match m.content with
  | .contacts (card :: cards) => cardIds source 0 (card :: cards)
  | _ => [source]

/-- What these messages say. -/
def messageContents (m : InboundMessage) : List String :=
  match m.content with
  | .contacts (card :: cards) => (card :: cards).map fun card => card.name.getD MessageContent.placeholder
  | content => [content.textOrPlaceholder]

variable {source : String} {m : InboundMessage}

theorem ne_cardSourceId_succ (k : Nat) : source ≠ source ++ ":" ++ toString k := by
  intro h
  have hlen := congrArg String.length h
  rw [String.length_append, String.length_append, show ":".length = 1 from rfl] at hlen
  omega

theorem cardSourceId_inj {i j : Nat} (h : cardSourceId source i = cardSourceId source j) : i = j := by
  rw [cardSourceId, cardSourceId] at h
  by_cases hi : i = 0
  · by_cases hj : j = 0
    · rw [hi, hj]
    · rw [if_pos hi, if_neg hj] at h
      exact absurd h (ne_cardSourceId_succ j)
  · by_cases hj : j = 0
    · rw [if_neg hi, if_pos hj] at h
      exact absurd h.symm (ne_cardSourceId_succ i)
    · rw [if_neg hi, if_neg hj] at h
      exact Digits.toString_inj ((String.append_right_inj _).1 h)

theorem cardIds_nodup (source : String) (index : Nat) (cards : List ContactCard) :
    (cardIds source index cards).Nodup := by
  have hn : (List.range' index cards.length).Nodup := List.nodup_range'
  exact List.pairwise_map.2 (hn.imp fun h he => h (cardSourceId_inj he))

theorem messageIds_nodup (source : String) (m : InboundMessage) : (messageIds source m).Nodup := by
  unfold messageIds
  split
  · exact cardIds_nodup ..
  · exact List.pairwise_singleton _ _

theorem messageIds_eq_cons (source : String) (m : InboundMessage) : ∃ ids, messageIds source m = source :: ids := by
  unfold messageIds
  split
  · exact ⟨_, rfl⟩
  · exact ⟨[], rfl⟩

theorem mem_messageIds_self (source : String) (m : InboundMessage) : source ∈ messageIds source m := by
  obtain ⟨ids, h⟩ := messageIds_eq_cons source m
  rw [h]
  exact List.mem_cons_self

theorem mem_messageIds_contacts {cards : List ContactCard} {id : String} (hm : m.content = .contacts cards)
    (hne : cards ≠ []) : id ∈ messageIds source m ↔ ∃ k < cards.length, id = cardSourceId source k := by
  obtain ⟨card, rest, rfl⟩ := List.exists_cons_of_ne_nil hne
  simp [messageIds, hm, cardIds, List.mem_range'_1, eq_comm]

def Draft.key (d : Draft) : Snowflake × String := d.message.key

section Drafter

variable {inbox : Inbox} {conversation : Conversation} {contact : Contact} {replyTo : Option String} {content : String}
  {t : List Exchange} {record : Message}

theorem drafter_yields (h : (drafter inbox conversation contact replyTo content source).Yields t record) :
    ∃ id time, record = .incoming id inbox.account inbox.id conversation.id contact.id content source replyTo time := by
  obtain ⟨t₁, id, t₂, rfl, -, h⟩ := Program.yields_bind.1 h
  obtain ⟨t₃, now, t₄, rfl, -, -, rfl⟩ := Program.yields_bind.1 h
  exact ⟨id, now, rfl⟩

theorem drafter_key (h : (drafter inbox conversation contact replyTo content source).Yields t record) :
    record.key = (inbox.id, source) := by
  obtain ⟨id, time, rfl⟩ := drafter_yields h
  rfl

end Drafter

variable {draft : Drafter} {inbox : Snowflake}

theorem draftCards_keys (hd : ∀ content source t m, (draft content source).Yields t m → m.key = (inbox, source))
    {index : Nat} {cards : List ContactCard} {t : List Exchange} {ds : List Draft}
    (h : (draftCards draft source index cards).Yields t ds) :
    ds.map Draft.key = (cardIds source index cards).map (Prod.mk inbox) := by
  induction cards generalizing index t ds with
  | nil =>
    obtain ⟨-, rfl⟩ := h
    rfl
  | cons card cards ih =>
    obtain ⟨t₁, m, t₂, rfl, hm, h⟩ := Program.yields_bind.1 h
    obtain ⟨t₃, as, t₄, rfl, -, h⟩ := Program.yields_bind.1 h
    obtain ⟨t₅, rest, t₆, rfl, hrest, -, rfl⟩ := Program.yields_bind.1 h
    rw [List.map_cons, ih hrest]
    exact congrArg (· :: _) (hd _ _ _ _ hm)

theorem drafts_keys (hd : ∀ content source t m, (draft content source).Yields t m → m.key = (inbox, source))
    {channel : Channel} {t : List Exchange} {ds : List Draft}
    (h : (drafts draft channel source m).Yields t ds) :
    ds.map Draft.key = (messageIds source m).map (Prod.mk inbox) := by
  unfold drafts at h
  split at h
  · next card cards hm =>
    rw [messageIds, hm]
    exact draftCards_keys hd h
  · next hm =>
    rw [messageIds]
    split
    · next card cards hc => exact absurd hc (hm card cards)
    · obtain ⟨t₁, record, t₂, rfl, hrec, h⟩ := Program.yields_bind.1 h
      obtain ⟨t₃, as, t₄, rfl, -, -, rfl⟩ := Program.yields_bind.1 h
      exact congrArg (· :: []) (hd _ _ _ _ hrec)

theorem draftCards_forall {P : Message → Prop} {index : Nat} {cards : List ContactCard}
    (hd : ∀ card ∈ cards, ∀ source t m,
      (draft (card.name.getD MessageContent.placeholder) source).Yields t m → P m)
    {t : List Exchange} {ds : List Draft} (h : (draftCards draft source index cards).Yields t ds) :
    ∀ d ∈ ds, P d.message := by
  induction cards generalizing index t ds with
  | nil =>
    obtain ⟨-, rfl⟩ := h
    exact nofun
  | cons card cards ih =>
    obtain ⟨hcard, hcards⟩ := List.forall_mem_cons.1 hd
    obtain ⟨t₁, m, t₂, rfl, hm, h⟩ := Program.yields_bind.1 h
    obtain ⟨t₃, as, t₄, rfl, -, h⟩ := Program.yields_bind.1 h
    obtain ⟨t₅, rest, t₆, rfl, hrest, -, rfl⟩ := Program.yields_bind.1 h
    exact List.forall_mem_cons.2 ⟨hcard _ _ _ hm, ih hcards hrest⟩

/-- What holds of every message that is made of the event's contents holds of the drafts' messages. -/
theorem drafts_forall {P : Message → Prop}
    (hd : ∀ content ∈ messageContents m, ∀ source t m, (draft content source).Yields t m → P m)
    {channel : Channel} {t : List Exchange} {ds : List Draft} (h : (drafts draft channel source m).Yields t ds) :
    ∀ d ∈ ds, P d.message := by
  unfold drafts at h
  split at h
  · next card cards hm =>
    rw [messageContents, hm] at hd
    exact draftCards_forall (List.forall_mem_map.1 hd) h
  · next hm =>
    obtain ⟨t₁, record, t₂, rfl, hrec, h⟩ := Program.yields_bind.1 h
    obtain ⟨t₃, as, t₄, rfl, -, -, rfl⟩ := Program.yields_bind.1 h
    rw [messageContents] at hd
    split at hd
    · next card cards hc => exact absurd hc (hm card cards)
    · exact List.forall_mem_singleton.2 (hd _ List.mem_cons_self _ _ _ hrec)

end Intake.Ingest
