import Intake.Proofs.Delivery.Handle
import Intake.Proofs.Guard.Claims

/-!
# Events that share an id

The messages of cards have ids that are made from the id of their event, and a provider may use such an id for another
event. Ids made from different ids are never equal, since what follows the last colon is a number
(`cardSourceId_inj_of_pos`). So two events share an id only if one has the id of a card of the other
(`IncomingEvent.disjoint_ids_iff`).
-/

namespace Intake

namespace Ingest

variable {source source' id : String} {m : InboundMessage}

theorem colon_notMem_toString (n : Nat) : ':' ∉ (toString n).toList := by
  intro h
  rw [Digits.toList_toString] at h
  exact absurd (Nat.isDigit_of_mem_toDigits (by decide) (by decide) h) (by decide)

theorem cardSourceId_inj_of_pos {i j : Nat} (hi : 0 < i) (hj : 0 < j)
    (h : cardSourceId source i = cardSourceId source' j) : source = source' ∧ i = j := by
  rw [cardSourceId, if_neg (Nat.ne_of_gt hi), cardSourceId, if_neg (Nat.ne_of_gt hj)] at h
  have hchars := congrArg (fun s : String => s.toList.reverse) h
  simp only [String.toList_append, List.reverse_append, List.append_assoc] at hchars
  obtain ⟨hindex, hsource⟩ := Guard.append_colon_inj (mt List.mem_reverse.1 (colon_notMem_toString i))
    (mt List.mem_reverse.1 (colon_notMem_toString j)) hchars
  exact ⟨String.toList_inj.1 (List.reverse_inj.1 hsource),
    Digits.toString_inj (String.toList_inj.1 (List.reverse_inj.1 hindex))⟩

/-- A message has the id of its event, or that of a later card. -/
theorem mem_messageIds_iff : id ∈ messageIds source m ↔
    id = source ∨ ∃ cards i, m.content = .contacts cards ∧ 0 < i ∧ i < cards.length ∧ id = cardSourceId source i := by
  constructor
  · intro h
    by_cases hcards : ∃ cards, m.content = .contacts cards ∧ cards ≠ []
    · obtain ⟨cards, hm, hne⟩ := hcards
      obtain ⟨i, hi, rfl⟩ := (mem_messageIds_contacts hm hne).1 h
      rcases Nat.eq_zero_or_pos i with rfl | hpos
      · exact .inl rfl
      · exact .inr ⟨cards, i, hm, hpos, hi, rfl⟩
    · unfold messageIds at h
      split at h
      · next card cards hm => exact absurd ⟨_, hm, List.cons_ne_nil card cards⟩ hcards
      · exact .inl (List.mem_singleton.1 h)
  · rintro (rfl | ⟨cards, i, hm, -, hi, rfl⟩)
    · exact mem_messageIds_self id m
    · have hne : cards ≠ [] := List.ne_nil_of_length_pos (Nat.lt_of_le_of_lt (Nat.zero_le i) hi)
      exact (mem_messageIds_contacts hm hne).2 ⟨i, hi, rfl⟩

end Ingest

namespace IncomingEvent

open Ingest

/-- The source ids of the messages that the event is made into: none if it is not accepted. -/
def ids (e : IncomingEvent) : List String :=
  match e.accepted? with
  | some m => messageIds e.sourceId m
  | none => []

/-- Both are accepted, and the other has the id of a card of this event after the first. -/
def Shadows (e e' : IncomingEvent) : Prop :=
  ∃ m m' cards i, e.Accepted m ∧ e'.Accepted m' ∧ m.content = .contacts cards ∧ 0 < i ∧ i < cards.length ∧
    e'.sourceId = cardSourceId e.sourceId i

variable {e e' : IncomingEvent} {m : InboundMessage} {id : String}

theorem ids_of_accepted (hm : e.Accepted m) : e.ids = messageIds e.sourceId m := by
  rw [ids, accepted?_eq_some_iff.2 hm]

theorem mem_ids_iff : id ∈ e.ids ↔ ∃ m, e.Accepted m ∧ id ∈ messageIds e.sourceId m := by
  constructor
  · intro h
    unfold ids at h
    split at h
    · next m hm => exact ⟨m, accepted?_eq_some_iff.1 hm, h⟩
    · cases h
  · rintro ⟨m, hm, hid⟩
    rwa [ids_of_accepted hm]

theorem Accepted.mem_ids (hm : e.Accepted m) : e.sourceId ∈ e.ids :=
  mem_ids_iff.2 ⟨m, hm, mem_messageIds_self e.sourceId m⟩

theorem ids_of_not_accepted (hn : ∀ m, ¬e.Accepted m) : e.ids = [] := by
  refine List.eq_nil_iff_forall_not_mem.2 fun _ hid => ?_
  obtain ⟨m, hm, -⟩ := mem_ids_iff.1 hid
  exact hn m hm

theorem Shadows.mem_ids (h : e.Shadows e') : e'.sourceId ∈ e.ids ∧ e'.sourceId ∈ e'.ids := by
  obtain ⟨m, m', cards, i, hm, hm', hcards, hpos, hi, heq⟩ := h
  exact ⟨mem_ids_iff.2 ⟨m, hm, mem_messageIds_iff.2 (.inr ⟨cards, i, hcards, hpos, hi, heq⟩)⟩, hm'.mem_ids⟩

theorem shadows_iff (hne : e.sourceId ≠ e'.sourceId) : e.Shadows e' ↔ e'.sourceId ∈ e.ids ∧ e'.sourceId ∈ e'.ids := by
  refine ⟨Shadows.mem_ids, fun ⟨h, h'⟩ => ?_⟩
  obtain ⟨m, hm, hid⟩ := mem_ids_iff.1 h
  obtain ⟨m', hm', -⟩ := mem_ids_iff.1 h'
  rcases mem_messageIds_iff.1 hid with heq | ⟨cards, i, hcards, hpos, hi, heq⟩
  · exact absurd heq.symm hne
  · exact ⟨m, m', cards, i, hm, hm', hcards, hpos, hi, heq⟩

theorem disjoint_ids_iff (hne : e.sourceId ≠ e'.sourceId) :
    (∀ id ∈ e'.ids, id ∉ e.ids) ↔ ¬e.Shadows e' ∧ ¬e'.Shadows e := by
  constructor
  · intro h
    refine ⟨fun hs => ?_, fun hs => ?_⟩
    · obtain ⟨hid, hid'⟩ := hs.mem_ids
      exact h _ hid' hid
    · obtain ⟨hid', hid⟩ := hs.mem_ids
      exact h _ hid' hid
  · rintro ⟨hs, hs'⟩ id hid' hid
    obtain ⟨m, hm, hmem⟩ := mem_ids_iff.1 hid
    obtain ⟨m', hm', hmem'⟩ := mem_ids_iff.1 hid'
    rcases mem_messageIds_iff.1 hmem with rfl | ⟨cards, i, hcards, hpos, hi, rfl⟩
    · exact hs' ((shadows_iff hne.symm).2 ⟨hid', hid⟩)
    · rcases mem_messageIds_iff.1 hmem' with heq | ⟨cards', j, hcards', hpos', hj, heq⟩
      · exact hs ((shadows_iff hne).2 ⟨heq ▸ hid, hm'.mem_ids⟩)
      · exact hne (cardSourceId_inj_of_pos hpos hpos' heq).1

end IncomingEvent

end Intake
