import Intake.Proofs.Webhook.Related

/-!
# Business values in a payload

`cloudValues` are the values of a cloud payload in document order, as they stand in the payload. The envelope that is
read from the payload holds exactly these (`CloudEnvelope.forall₂_values`), and a value's own parts are found in the
same way (`BusinessValue.of_decode`), the ids of its events among them (`events_id`). What holds between two payloads
that are written alike is passed on by `decode_like`.
-/

namespace Intake.Webhook

open Json Record

/-- The business values of a cloud payload, `entry[].changes[].value`. -/
def cloudValues (payload : Json) : List Json :=
  (payload.itemsAt 1 "entry").flatMap fun entry => (entry.itemsAt 0 "changes").filterMap (·.part? 1 "value")

/-- The number id in the metadata of a business value. -/
def numberIdOf? (value : Json) : Option String :=
  ((value.part? 0 "metadata").bind (·.part? 1 "phone_number_id")).bind scalar?

/-- The id in a person's record, unless it is blank. -/
def waIdOf? (person : Json) : Option String := ((person.part? 0 "wa_id").bind scalar?).bind Text.nonBlank

variable {payload j j' : Json} {v v' : BusinessValue} {p : Person}

theorem Person.waId_of_decode (h : Person.record.decode j = some p) : p.waId.bind Text.nonBlank = waIdOf? j := by
  obtain ⟨waId, hw, h⟩ := ReadsFrom.of_defaulted (readsFrom_of_decode h)
  obtain ⟨profile, -, h⟩ := ReadsFrom.of_defaulted h
  obtain rfl := ReadsFrom.of_pure h
  rw [waIdOf?, ← eq_bind_of_nullable rfl hw]

theorem Metadata.phoneNumberId_of_decode {m : Metadata} (h : Metadata.record.decode j = some m) :
    m.phoneNumberId = (j.part? 1 "phone_number_id").bind scalar? := by
  obtain ⟨display, -, h⟩ := ReadsFrom.of_defaulted (readsFrom_of_decode h)
  obtain ⟨id, hid, h⟩ := ReadsFrom.of_defaulted h
  obtain rfl := ReadsFrom.of_pure h
  exact eq_bind_of_nullable rfl hid

theorem BusinessValue.of_decode (h : BusinessValue.record.decode j = some v) :
    v.phoneNumberId? = numberIdOf? j ∧
      List.Forall₂ (fun x p => Person.record.decode x = some p) (j.itemsAt 1 "contacts") v.people ∧
      v.messages = j.itemsAt 2 "messages" ∧ v.statuses = j.itemsAt 3 "statuses" := by
  obtain ⟨metadata, hm, h⟩ := ReadsFrom.of_defaulted (readsFrom_of_decode h)
  obtain ⟨people, hp, h⟩ := ReadsFrom.of_defaulted h
  obtain ⟨messages, hmessages, h⟩ := ReadsFrom.of_defaulted h
  obtain ⟨statuses, hstatuses, h⟩ := ReadsFrom.of_defaulted h
  obtain rfl := ReadsFrom.of_pure h
  refine ⟨?_, forall₂_of_itemsAt hp, (itemsAt_of_list? hmessages).symm, (itemsAt_of_list? hstatuses).symm⟩
  rw [phoneNumberId?, numberIdOf?]
  rcases nullable_cases hm with ⟨m, md, hpart, hmd, rfl⟩ | ⟨rfl, hpart | hpart⟩
  · rw [hpart]
    exact Metadata.phoneNumberId_of_decode hmd
  · rw [hpart]
    rfl
  · rw [hpart]
    rfl

theorem MessageEntry.id_of_decode {m : MessageEntry} (h : MessageEntry.record.decode j = some m) :
    (j.part? 0 "id").bind scalar? = some m.id := by
  obtain ⟨id, text, hid, htext, h⟩ := ReadsFrom.of_required (readsFrom_of_decode h)
  rw [hid, Option.bind_some, htext]
  -- The other fields do not change the id.
  iterate 14 obtain ⟨_, _, h⟩ := ReadsFrom.next h
  obtain rfl := ReadsFrom.of_pure h
  rfl

theorem StatusEntry.id_of_decode {r : StatusEntry} (h : StatusEntry.record.decode j = some r) :
    (j.part? 0 "id").bind scalar? = some r.id := by
  obtain ⟨id, text, hid, htext, h⟩ := ReadsFrom.of_required (readsFrom_of_decode h)
  obtain ⟨_, status, _, _, h⟩ := ReadsFrom.of_required h
  obtain ⟨errors, _, h⟩ := ReadsFrom.of_defaulted h
  obtain rfl := ReadsFrom.of_pure h
  rw [hid, Option.bind_some, htext]

namespace BusinessValue

variable {provider : Provider} {e : IncomingEvent}

theorem messageEvents_id (h : e ∈ v.messageEvents provider) :
    (∃ m, e.body = .message m) ∧ (e.raw.part? 0 "id").bind scalar? = some e.sourceId := by
  obtain ⟨raw, -, he⟩ := List.mem_filterMap.1 h
  obtain ⟨m, hm, rfl⟩ := Option.map_eq_some_iff.1 he
  exact ⟨⟨_, rfl⟩, MessageEntry.id_of_decode hm⟩

theorem statusEvents_id (h : e ∈ v.statusEvents provider) :
    (∃ r, e.body = .status r) ∧ (e.raw.part? 0 "id").bind scalar? = some e.sourceId := by
  obtain ⟨raw, -, he⟩ := List.mem_filterMap.1 h
  obtain ⟨r, hr, rfl⟩ := Option.map_eq_some_iff.1 he
  exact ⟨⟨_, rfl⟩, StatusEntry.id_of_decode hr⟩

theorem cardEvents_card (h : e ∈ v.cardEvents provider) : e.body = .contactCard ∧ ∃ p : Person, e.raw = p.toJson := by
  obtain ⟨p, -, he⟩ := List.mem_filterMap.1 h
  obtain ⟨waId, -, rfl⟩ := Option.map_eq_some_iff.1 he
  exact ⟨rfl, p, rfl⟩

theorem events_id (h : e ∈ v.events provider) :
    (e.raw.part? 0 "id").bind scalar? = some e.sourceId ∨ e.body = .contactCard ∧ ∃ p : Person, e.raw = p.toJson := by
  rw [events, List.mem_append, List.mem_append] at h
  rcases h with (h | h) | h
  · exact .inl (messageEvents_id h).2
  · exact .inl (statusEvents_id h).2
  · split at h
    · exact .inr (cardEvents_card h)
    · cases h

end BusinessValue

/-! ## The envelope -/

theorem CloudEnvelope.value_of_change (h : CloudEnvelope.change.decode j = some v) :
    ∃ value, j.part? 1 "value" = some value ∧ BusinessValue.record.decode value = some v := by
  obtain ⟨-, -, h⟩ := ReadsFrom.of_defaulted (readsFrom_of_decode h)
  rw [← bind_pure (Record.required "value" BusinessValue.record.decode)] at h
  obtain ⟨value, v', hvalue, hv, h⟩ := ReadsFrom.of_required h
  obtain rfl := ReadsFrom.of_pure h
  exact ⟨value, hvalue, hv⟩

theorem CloudEnvelope.changes_of_entry {vs : List BusinessValue} (h : CloudEnvelope.entry.decode j = some vs) :
    List.Forall₂ (fun change v => CloudEnvelope.change.decode change = some v) (j.itemsAt 0 "changes") vs := by
  rw [← bind_pure CloudEnvelope.entry] at h
  obtain ⟨vs', hvs, h⟩ := ReadsFrom.of_defaulted (readsFrom_of_decode h)
  obtain rfl := ReadsFrom.of_pure h
  exact forall₂_of_itemsAt hvs

theorem CloudEnvelope.forall₂_values {e : CloudEnvelope} (h : CloudEnvelope.record.decode payload = some e) :
    List.Forall₂ (fun value v => BusinessValue.record.decode value = some v) (cloudValues payload) e.values := by
  obtain ⟨-, -, h⟩ := ReadsFrom.of_defaulted (readsFrom_of_decode h)
  obtain ⟨entries, hentries, h⟩ := ReadsFrom.of_defaulted h
  obtain rfl := ReadsFrom.of_pure h
  rw [cloudValues, List.flatMap_def]
  refine List.rel_flatten (List.forall₂_map_left_iff.2 ((forall₂_of_itemsAt hentries).imp ?_))
  intro entry vs hvs
  have hread : List.Forall₂ (fun value v => BusinessValue.record.decode value = some v)
      ((entry.itemsAt 0 "changes").filterMap (·.part? 1 "value")) (vs.filterMap some) := by
    refine List.rel_filterMap ?_ (changes_of_entry hvs)
    intro change v hv
    obtain ⟨value, hvalue, hv⟩ := value_of_change hv
    simp only [hvalue]
    exact .some hv
  rwa [List.filterMap_some] at hread

/-! ## Related values -/

namespace BusinessValue

/-- The values agree but for their messages and reports, which are related. -/
structure Like (M S : List Json → List Json → Prop) (v v' : BusinessValue) : Prop where
  metadata : v.metadata = v'.metadata
  people : v.people = v'.people
  messages : M v.messages v'.messages
  statuses : S v.statuses v'.statuses

def layout (metadata people messages statuses : Json → Json → Prop) : Layout :=
  [("metadata", metadata), ("contacts", people), ("messages", messages), ("statuses", statuses)]

variable {metadata people messages statuses : Json → Json → Prop} {M S : List Json → List Json → Prop}

theorem decode_like (hmeta : ∀ j j', metadata j j' →
      Record.nullable Metadata.record.decode j = Record.nullable Metadata.record.decode j')
    (hpeople : ∀ j j', people j j' → list? Person.record.decode j = list? Person.record.decode j')
    (hmessages : ∀ j j', messages j j' → Option.Rel M (list? some j) (list? some j'))
    (hstatuses : ∀ j j', statuses j j' → Option.Rel S (list? some j) (list? some j')) (hM : M [] []) (hS : S [] [])
    (h : Fields (layout metadata people messages statuses) j j') :
    Option.Rel (Like M S) (BusinessValue.record.decode j) (BusinessValue.record.decode j') := by
  refine Respects.decodes ?_ h
  refine .read rfl hmeta fun metadata => .read rfl hpeople fun people => ?_
  refine .field rfl hmessages (.some hM) (.some hM) fun messages messages' hm => ?_
  refine .field rfl hstatuses (.some hS) (.some hS) fun statuses statuses' hs => ?_
  exact .pure ⟨rfl, rfl, hm, hs⟩

theorem Like.phoneNumberId?_eq (h : Like M S v v') : v.phoneNumberId? = v'.phoneNumberId? := by
  rw [phoneNumberId?, phoneNumberId?, h.metadata]

/-- A message is shown with what is known of people, and nothing else of the value. -/
theorem Like.messageEvent_eq (h : Like M S v v') (provider : Provider) :
    v.messageEvent provider = v'.messageEvent provider := by
  funext raw m
  simp only [messageEvent, firstWaId?, profileName?, h.people]

/-- Values whose messages and reports say the same, as far as `f` can tell, say the same: there are cards in both or in
neither. -/
theorem Like.map_events_eq {γ : Type} {f : IncomingEvent → γ} {provider : Provider} (h : Like M S v v')
    (hmessages : (v.messageEvents provider).map f = (v'.messageEvents provider).map f)
    (hstatuses : (v.statusEvents provider).map f = (v'.statusEvents provider).map f)
    (hM : ∀ xs xs', M xs xs' → xs.isEmpty = xs'.isEmpty) (hS : ∀ xs xs', S xs xs' → xs.isEmpty = xs'.isEmpty) :
    (v.events provider).map f = (v'.events provider).map f := by
  have hcards : v.cardEvents provider = v'.cardEvents provider := by rw [cardEvents, cardEvents, h.people]
  rw [events, events, hM _ _ h.messages, hS _ _ h.statuses, hcards]
  simp only [List.map_append, hmessages, hstatuses]

end BusinessValue

namespace CloudEnvelope

/-- The layout of an envelope, given how its values may differ. -/
def layout (value : Json → Json → Prop) : Layout :=
  [("object", Eq), ("entry", Items (Fields [("changes", Items (Fields [("field", Eq), ("value", value)]))]))]

theorem decode_like {value : Json → Json → Prop} {P : BusinessValue → BusinessValue → Prop}
    (hvalue : ∀ j j', value j j' → Option.Rel P (BusinessValue.record.decode j) (BusinessValue.record.decode j'))
    (h : Fields (layout value) j j') :
    Option.Rel (fun e e' => List.Forall₂ P e.values e'.values) (CloudEnvelope.record.decode j)
      (CloudEnvelope.record.decode j') := by
  have hchange : ∀ c c', Fields [("field", Eq), ("value", value)] c c' →
      Option.Rel P (change.decode c) (change.decode c') := by
    intro c c' hc
    refine Respects.decodes ?_ hc
    exact .same rfl fun field => .single rfl hvalue .none .none
  have hentry : ∀ e e', Fields [("changes", Items (Fields [("field", Eq), ("value", value)]))] e e' →
      Option.Rel (List.Forall₂ P) (entry.decode e) (entry.decode e') := by
    intro e e' he
    refine Respects.decodes ?_ he
    exact .single rfl (fun j j' hj => hj.list? hchange) (.some .nil) (.some .nil)
  refine Respects.decodes ?_ h
  refine .same rfl fun object => ?_
  refine .field rfl (fun j j' hj => hj.list? hentry) (.some .nil) (.some .nil) fun entries entries' he => ?_
  exact .pure (List.rel_flatten he)

/-- Envelopes whose values name the same numbers and say the same, as far as `f` can tell, say the same. -/
theorem map_events_eq {γ : Type} {f : IncomingEvent → γ} {P : BusinessValue → BusinessValue → Prop}
    {e e' : CloudEnvelope} (h : List.Forall₂ P e.values e'.values)
    (hid : ∀ v v', P v v' → v.phoneNumberId? = v'.phoneNumberId?)
    (hevents : ∀ v v', P v v' → (v.events .cloud).map f = (v'.events .cloud).map f) (phoneNumberId : Option String) :
    (e.events phoneNumberId).map f = (e'.events phoneNumberId).map f := by
  obtain ⟨vs⟩ := e
  obtain ⟨vs'⟩ := e'
  rw [events, events]
  dsimp only at h ⊢
  induction h with
  | nil => rfl
  | @cons v v' vs vs' hv _ ih =>
    have hfor : isFor phoneNumberId v = isFor phoneNumberId v' := by simp only [isFor, hid v v' hv]
    rw [List.filter_cons, List.filter_cons, hfor]
    split
    · rw [List.flatMap_cons, List.flatMap_cons, List.map_append, List.map_append, hevents v v' hv, ih]
    · exact ih

end CloudEnvelope

/-! ## All providers -/

theorem normalize_cloud_eq (payload : Json) (ctx : Context) :
    normalize .cloud payload ctx = (CloudEnvelope.record.decode payload).elim [] (·.events ctx.phoneNumberId) := by
  rw [normalize, Payload.parse?]
  cases CloudEnvelope.record.decode payload <;> rfl

theorem normalize_gupshup_eq (payload : Json) (ctx : Context) :
    normalize .gupshup payload ctx = (GupshupEnvelope.record.decode payload).elim [] (·.events ctx.urlPhoneNumber) := by
  rw [normalize, Payload.parse?]
  cases GupshupEnvelope.record.decode payload <;> rfl

theorem normalize_default_eq (payload : Json) (ctx : Context) :
    normalize .default payload ctx = (BusinessValue.record.decode payload).elim [] (·.events .default) := by
  rw [normalize, Payload.parse?]
  cases BusinessValue.record.decode payload <;> rfl

theorem exists_of_mem_elim {α β : Type} {o : Option α} {f : α → List β} {b : β} (h : b ∈ o.elim [] f) :
    ∃ a, o = some a ∧ b ∈ f a := by
  cases o with
  | none => cases h
  | some a => exact ⟨a, rfl, h⟩

theorem normalize_cases {provider : Provider} {ctx : Context} {e : IncomingEvent}
    (h : e ∈ normalize provider payload ctx) :
    (provider = .gupshup ∧ ∃ g : GupshupEnvelope, e ∈ g.events ctx.urlPhoneNumber) ∨
      provider ≠ .gupshup ∧ ∃ v : BusinessValue, e ∈ v.events provider := by
  cases provider with
  | cloud =>
    rw [normalize_cloud_eq] at h
    obtain ⟨envelope, -, he⟩ := exists_of_mem_elim h
    obtain ⟨v, -, hv⟩ := List.mem_flatMap.1 he
    exact .inr ⟨nofun, v, hv⟩
  | gupshup =>
    rw [normalize_gupshup_eq] at h
    obtain ⟨g, -, hg⟩ := exists_of_mem_elim h
    exact .inl ⟨rfl, g, hg⟩
  | default =>
    rw [normalize_default_eq] at h
    obtain ⟨v, -, hv⟩ := exists_of_mem_elim h
    exact .inr ⟨nofun, v, hv⟩

end Intake.Webhook
