import Intake.Proofs.Webhook.Business
import Intake.Proofs.Webhook.Gupshup
import Intake.Proofs.Webhook.Tidy

/-!
# Events are well-formed

Whatever a delivery says, the events that are read from it have one form: texts are tidy where they are given at all,
and what a message contains is what its subtype announces. Both kinds of adapters are held to the same definition, and
each reader of a part is shown to give a part that is well-formed.
-/

namespace Intake

open Text

structure Sender.WellFormed (s : Sender) : Prop where
  phone : Tidy s.phone
  name : ∀ name ∈ s.name, Tidy name

structure MediaDescriptor.WellFormed (m : MediaDescriptor) : Prop where
  source : Tidy m.source.text
  contentType : ∀ type ∈ m.contentType, Tidy type
  caption : ∀ caption ∈ m.caption, Tidy caption
  filename : ∀ name ∈ m.filename, Tidy name

structure GeoLocation.WellFormed (l : GeoLocation) : Prop where
  name : ∀ name ∈ l.name, Tidy name
  address : ∀ address ∈ l.address, Tidy address
  url : ∀ url ∈ l.url, Tidy url

structure ContactCard.WellFormed (c : ContactCard) : Prop where
  name : ∀ name ∈ c.name, Tidy name
  phones : ∀ phone ∈ c.phones, Tidy phone

def MessageContent.WellFormed : MessageContent → Prop
  | text body => Tidy body
  | media m => m.WellFormed
  | location l => l.WellFormed
  | contacts cards => ∀ c ∈ cards, c.WellFormed
  | empty => True

/-- What a message of that subtype may contain. -/
def MessageSubtype.Carries (s : MessageSubtype) (c : MessageContent) : Prop :=
  match s with
  | text | button | interactive => (∃ body, c = .text body) ∨ c = .empty
  | image | document | video | audio => (∃ m, c = .media m) ∨ c = .empty
  | location => (∃ l, c = .location l) ∨ c = .empty
  | contacts => ∃ cards, c = .contacts cards
  | reaction | unsupported _ => c = .empty

structure InboundMessage.WellFormed (m : InboundMessage) : Prop where
  content : m.content.WellFormed
  carries : m.subtype.Carries m.content
  replyTo : ∀ source ∈ m.replyTo, Tidy source

/-- A report has no sender, and a contact card is known by its sender's number. -/
def EventBody.WellFormed (sourceId : String) (sender : Option Sender) : EventBody → Prop
  | message m => m.WellFormed
  | status _ => sender = none
  | contactCard => sender.map (·.phone) = some sourceId

structure IncomingEvent.WellFormed (provider : Provider) (e : IncomingEvent) : Prop where
  provider : e.provider = provider
  sender : ∀ s ∈ e.sender, s.WellFormed
  body : e.body.WellFormed e.sourceId e.sender

theorem IncomingEvent.WellFormed.card_sourceId {provider : Provider} {e : IncomingEvent} (h : e.WellFormed provider)
    (hb : e.body = .contactCard) : Tidy e.sourceId := by
  have hbody := h.body
  rw [hb] at hbody
  obtain ⟨s, hs, hphone⟩ := Option.map_eq_some_iff.1 hbody
  exact hphone ▸ (h.sender s hs).phone

namespace Webhook

open Json Record

theorem tidy_of_bind {o : Option String} {s : String} (h : s ∈ o.bind nonBlank) : Tidy s := by
  obtain ⟨t, -, ht⟩ := Option.bind_eq_some_iff.1 h
  exact tidy_of_nonBlank ht

theorem mem_orElse {α : Type} {o o' : Option α} {a : α} (h : a ∈ (o <|> o')) : a ∈ o ∨ a ∈ o' := by
  cases o with
  | none => exact .inr h
  | some b => exact .inl h

/-! ## Contents -/

theorem textContent_cases (body : Option String) :
    (∃ t, textContent body = .text t ∧ Tidy t) ∨ textContent body = .empty := by
  rw [textContent]
  cases ht : body.bind nonBlank with
  | none => exact .inr rfl
  | some t => exact .inl ⟨t, rfl, tidy_of_bind ht⟩

variable {j : Json}

theorem place_wellFormed {l : GeoLocation} (h : place.decode j = some l) : l.WellFormed := by
  obtain ⟨_, latitude, _, _, h⟩ := ReadsFrom.of_required (readsFrom_of_decode h)
  obtain ⟨_, longitude, _, _, h⟩ := ReadsFrom.of_required h
  obtain ⟨name, _, h⟩ := ReadsFrom.of_optional h
  obtain ⟨address, _, h⟩ := ReadsFrom.of_optional h
  obtain ⟨url, _, h⟩ := ReadsFrom.of_optional h
  obtain rfl := ReadsFrom.of_pure h
  exact ⟨fun _ => tidy_of_bind, fun _ => tidy_of_bind, fun _ => tidy_of_bind⟩

theorem cardName_tidy {name : Option String} (h : cardName.decode j = some name) : ∀ s ∈ name, Tidy s := by
  obtain ⟨formatted, _, h⟩ := ReadsFrom.of_optional (readsFrom_of_decode h)
  obtain ⟨first, _, h⟩ := ReadsFrom.of_optional h
  obtain ⟨last, _, h⟩ := ReadsFrom.of_optional h
  obtain rfl := ReadsFrom.of_pure h
  intro s hs
  rcases mem_orElse hs with hs | hs
  · exact tidy_of_bind hs
  · exact tidy_of_nonBlank hs

theorem card_wellFormed {c : ContactCard} (h : card.decode j = some c) : c.WellFormed := by
  obtain ⟨name, hname, h⟩ := ReadsFrom.of_optional (readsFrom_of_decode h)
  obtain ⟨phones, _, h⟩ := ReadsFrom.of_defaulted h
  obtain rfl := ReadsFrom.of_pure h
  refine ⟨fun s hs => ?_, fun phone hphone => ?_⟩
  · rcases nullable_cases hname with ⟨_, name, -, hread, rfl⟩ | ⟨rfl, -⟩
    · exact cardName_tidy hread s hs
    · cases hs
  · obtain ⟨o, -, ho⟩ := List.mem_filterMap.1 hphone
    exact tidy_of_bind ho

theorem cards_wellFormed {cards : List ContactCard} (h : list? card.decode j = some cards) :
    ∀ c ∈ cards, c.WellFormed :=
  forall_of_list? h fun _ _ => card_wellFormed

/-- Text content, whatever is read, goes with the subtypes that are about text. -/
theorem textContent_carried {s : MessageSubtype} (hs : s = .text ∨ s = .button ∨ s = .interactive)
    (body : Option String) : s.Carries (textContent body) ∧ (textContent body).WellFormed := by
  rcases textContent_cases body with ⟨t, ht, htidy⟩ | hempty
  · rw [ht]
    refine ⟨?_, htidy⟩
    rcases hs with rfl | rfl | rfl <;> exact .inl ⟨t, rfl⟩
  · rw [hempty]
    refine ⟨?_, trivial⟩
    rcases hs with rfl | rfl | rfl <;> exact .inr rfl

theorem media_carried {s : MessageSubtype} {c : MessageContent}
    (hs : s = .image ∨ s = .document ∨ s = .video ∨ s = .audio)
    (hc : (∃ d, c = .media d ∧ d.WellFormed) ∨ c = .empty) : s.Carries c ∧ c.WellFormed := by
  rcases hc with ⟨d, rfl, hd⟩ | rfl
  · refine ⟨?_, hd⟩
    rcases hs with rfl | rfl | rfl | rfl <;> exact .inl ⟨d, rfl⟩
  · refine ⟨?_, trivial⟩
    rcases hs with rfl | rfl | rfl | rfl <;> exact .inr rfl

/-! ## Business values -/

namespace MediaRef

theorem source?_tidy {m : MediaRef} {source : MediaSource} (h : m.source? = some source) : Tidy source.text := by
  rcases mem_orElse h with h | h <;> obtain ⟨s, hs, rfl⟩ := Option.map_eq_some_iff.1 h <;> exact tidy_of_bind hs

theorem content_cases (m : MediaRef) : (∃ d, m.content = .media d ∧ d.WellFormed) ∨ m.content = .empty := by
  rw [content]
  split
  · exact .inr rfl
  · next source hs =>
    refine .inl ⟨_, rfl, source?_tidy hs, ?_, ?_, ?_⟩ <;> exact fun _ => tidy_of_bind

end MediaRef

namespace MessageEntry

variable {m : MessageEntry}

/-- The parts of a message that were checked when it was read. -/
structure Read (m : MessageEntry) : Prop where
  location : ∀ l ∈ m.location, l.WellFormed
  contacts : ∀ cards ∈ m.contacts, ∀ c ∈ cards, c.WellFormed
  replyTo : ∀ source ∈ m.replyTo, Tidy source

theorem read_of_decode (h : MessageEntry.record.decode j = some m) : m.Read := by
  have h := readsFrom_of_decode h
  iterate 9 obtain ⟨_, _, h⟩ := ReadsFrom.next h
  obtain ⟨location, hlocation, h⟩ := ReadsFrom.of_optional h
  obtain ⟨contacts, hcontacts, h⟩ := ReadsFrom.of_optional h
  iterate 4 obtain ⟨_, _, h⟩ := ReadsFrom.next h
  obtain rfl := ReadsFrom.of_pure h
  refine ⟨fun l hl => ?_, fun cards hcards => ?_, fun _ => tidy_of_bind⟩
  · rcases nullable_cases hlocation with ⟨_, l', -, hread, rfl⟩ | ⟨rfl, -⟩
    · cases hl
      exact place_wellFormed hread
    · cases hl
  · rcases nullable_cases hcontacts with ⟨_, cards', -, hread, rfl⟩ | ⟨rfl, -⟩
    · cases hcards
      exact cards_wellFormed hread
    · cases hcards

theorem content_carried (h : m.Read) : m.subtype.Carries m.content ∧ m.content.WellFormed := by
  have hmedia : ∀ ref : Option MediaRef, (∃ d, (ref.map MediaRef.content).getD .empty = .media d ∧ d.WellFormed) ∨
      (ref.map MediaRef.content).getD .empty = .empty := by
    intro ref
    cases ref with
    | none => exact .inr rfl
    | some ref => exact ref.content_cases
  rw [content]
  cases m.subtype with
  | text => exact textContent_carried (.inl rfl) m.text
  | button => exact textContent_carried (.inr (.inl rfl)) m.button
  | interactive => exact textContent_carried (.inr (.inr rfl)) m.interactive
  | image => exact media_carried (.inl rfl) (hmedia m.image)
  | document => exact media_carried (.inr (.inl rfl)) (hmedia m.document)
  | video => exact media_carried (.inr (.inr (.inl rfl))) (hmedia m.video)
  | audio => exact media_carried (.inr (.inr (.inr rfl))) (hmedia (m.audio <|> m.voice))
  | location =>
    cases hl : m.location with
    | none => exact ⟨.inr rfl, trivial⟩
    | some l => exact ⟨.inl ⟨l, rfl⟩, h.location l hl⟩
  | contacts =>
    refine ⟨⟨_, rfl⟩, ?_⟩
    cases hc : m.contacts with
    | none => exact List.forall_mem_nil _
    | some cards => exact h.contacts cards hc
  | reaction | unsupported => exact ⟨rfl, trivial⟩

end MessageEntry

theorem Person.name?_tidy {p : Person} {name : String} (h : name ∈ p.name?) : Tidy name := tidy_of_bind h

namespace BusinessValue

variable {v : BusinessValue} {provider : Provider} {e : IncomingEvent}

theorem firstWaId?_tidy {id : String} (h : id ∈ v.firstWaId?) : Tidy id := by
  obtain ⟨p, -, hp⟩ := List.exists_of_findSome?_eq_some h
  exact tidy_of_bind hp

theorem profileName?_tidy {waId : Option String} {name : String} (h : name ∈ v.profileName? waId) : Tidy name := by
  obtain ⟨p, -, hp⟩ := Option.bind_eq_some_iff.1 h
  exact Person.name?_tidy hp

theorem events_wellFormed (h : e ∈ v.events provider) : e.WellFormed provider := by
  rw [events, List.mem_append, List.mem_append] at h
  rcases h with (h | h) | h
  · obtain ⟨raw, -, he⟩ := List.mem_filterMap.1 h
    obtain ⟨m, hm, rfl⟩ := Option.map_eq_some_iff.1 he
    have hread := MessageEntry.read_of_decode hm
    obtain ⟨hcarries, hcontent⟩ := MessageEntry.content_carried hread
    refine ⟨rfl, fun s hs => ?_, hcontent, hcarries, hread.replyTo⟩
    obtain ⟨phone, hphone, rfl⟩ := Option.map_eq_some_iff.1 hs
    exact ⟨(mem_orElse hphone).elim tidy_of_bind firstWaId?_tidy, fun _ => profileName?_tidy⟩
  · obtain ⟨raw, -, he⟩ := List.mem_filterMap.1 h
    obtain ⟨r, -, rfl⟩ := Option.map_eq_some_iff.1 he
    refine ⟨rfl, fun s hs => ?_, rfl⟩
    cases hs
  · split at h
    · obtain ⟨p, -, he⟩ := List.mem_filterMap.1 h
      obtain ⟨waId, hid, rfl⟩ := Option.map_eq_some_iff.1 he
      refine ⟨rfl, fun s hs => ?_, rfl⟩
      cases hs
      exact ⟨tidy_of_bind hid, fun _ => Person.name?_tidy⟩
    · cases h

end BusinessValue

/-! ## Gupshup -/

namespace GupshupEnvelope

variable {m : Inbound} {payload : Json} {urlPhoneNumber : Option String} {e : IncomingEvent}

namespace Inbound

theorem media_cases {c : MessageContent} (h : media.decode j = some c) :
    (∃ d, c = .media d ∧ d.WellFormed) ∨ c = .empty := by
  obtain ⟨url, _, h⟩ := ReadsFrom.of_optional (readsFrom_of_decode h)
  obtain ⟨caption, _, h⟩ := ReadsFrom.of_optional h
  obtain ⟨contentType, _, h⟩ := ReadsFrom.of_optional h
  obtain ⟨name, _, h⟩ := ReadsFrom.of_optional h
  obtain rfl := ReadsFrom.of_pure h
  split
  · exact .inr rfl
  · next url hurl =>
    refine .inl ⟨_, rfl, tidy_of_bind hurl, ?_, ?_, ?_⟩ <;> exact fun _ => tidy_of_bind

theorem cards_wellFormed {cs : List ContactCard} (h : cards.decode j = some cs) : ∀ c ∈ cs, c.WellFormed := by
  rw [← bind_pure cards] at h
  obtain ⟨cs', hcs, h⟩ := ReadsFrom.of_defaulted (readsFrom_of_decode h)
  obtain rfl := ReadsFrom.of_pure h
  cases hp : j.part? 0 "contacts" with
  | none =>
    rw [hp] at hcs
    cases hcs
    exact List.forall_mem_nil _
  | some x =>
    rw [hp] at hcs
    exact Webhook.cards_wellFormed hcs

theorem content?_carried {s : MessageSubtype} {c : MessageContent} (h : content? s j = some c) :
    s.Carries c ∧ c.WellFormed := by
  cases s with
  | text =>
    obtain ⟨body, -, rfl⟩ := Option.map_eq_some_iff.1 h
    exact textContent_carried (.inl rfl) body
  | button =>
    obtain ⟨body, -, rfl⟩ := Option.map_eq_some_iff.1 h
    exact textContent_carried (.inr (.inl rfl)) body
  | interactive =>
    obtain ⟨body, -, rfl⟩ := Option.map_eq_some_iff.1 h
    exact textContent_carried (.inr (.inr rfl)) body
  | image => exact media_carried (.inl rfl) (media_cases h)
  | document => exact media_carried (.inr (.inl rfl)) (media_cases h)
  | video => exact media_carried (.inr (.inr (.inl rfl))) (media_cases h)
  | audio => exact media_carried (.inr (.inr (.inr rfl))) (media_cases h)
  | location =>
    obtain ⟨l, hl, rfl⟩ := Option.map_eq_some_iff.1 h
    exact ⟨.inl ⟨l, rfl⟩, place_wellFormed hl⟩
  | contacts =>
    obtain ⟨cs, hcs, rfl⟩ := Option.map_eq_some_iff.1 h
    exact ⟨⟨cs, rfl⟩, cards_wellFormed hcs⟩
  | reaction | unsupported =>
    cases h
    exact ⟨rfl, trivial⟩

theorem phone?_tidy {phone : String} (h : phone ∈ m.phone? urlPhoneNumber) : Tidy phone := by
  rcases mem_orElse h with h | h
  · exact tidy_of_bind h
  · exact (mem_orElse h).elim tidy_of_bind tidy_of_bind

theorem replyTo?_tidy {source : String} (h : source ∈ m.replyTo?) : Tidy source := by
  obtain ⟨context, -, hs⟩ := Option.bind_eq_some_iff.1 h
  exact (mem_orElse hs).elim tidy_of_bind tidy_of_bind

end Inbound

theorem messageEvent?_wellFormed (h : messageEvent? payload urlPhoneNumber = some e) : e.WellFormed .gupshup := by
  obtain ⟨m, -, h⟩ := Option.bind_eq_some_iff.1 h
  obtain ⟨sourceId, -, h⟩ := Option.bind_eq_some_iff.1 h
  obtain ⟨content, hcontent, h⟩ := Option.bind_eq_some_iff.1 h
  cases h
  obtain ⟨hcarries, hwf⟩ := Inbound.content?_carried hcontent
  refine ⟨rfl, fun s hs => ?_, hwf, hcarries, fun _ => Inbound.replyTo?_tidy⟩
  obtain ⟨phone, hphone, rfl⟩ := Option.map_eq_some_iff.1 hs
  exact ⟨Inbound.phone?_tidy hphone, fun _ => tidy_of_bind⟩

theorem statusEvent?_wellFormed (h : statusEvent? payload = some e) : e.WellFormed .gupshup := by
  obtain ⟨r, -, h⟩ := Option.bind_eq_some_iff.1 h
  obtain ⟨_, -, h⟩ := Option.bind_eq_some_iff.1 h
  obtain ⟨sourceId, -, h⟩ := Option.bind_eq_some_iff.1 h
  cases h
  refine ⟨rfl, fun s hs => ?_, rfl⟩
  cases hs

theorem events_wellFormed {g : GupshupEnvelope} (h : e ∈ g.events urlPhoneNumber) : e.WellFormed .gupshup := by
  rcases mem_events h with h | h
  · exact messageEvent?_wellFormed h
  · exact statusEvent?_wellFormed h

end GupshupEnvelope

/-! ## All providers -/

theorem normalize_wellFormed {provider : Provider} {payload : Json} {ctx : Context} {e : IncomingEvent}
    (h : e ∈ normalize provider payload ctx) : e.WellFormed provider := by
  rcases normalize_cases h with ⟨rfl, g, hg⟩ | ⟨-, v, hv⟩
  · exact GupshupEnvelope.events_wellFormed hg
  · exact BusinessValue.events_wellFormed hv

end Webhook

end Intake
