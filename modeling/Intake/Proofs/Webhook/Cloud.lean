import Intake.Proofs.Webhook.Business

/-!
# Cloud payloads, value by value

A cloud payload says what its values say one after the other, each as if it had been delivered alone, and the values for
other numbers are left out. `Listed` is what one value says: a message for every entry that can be read, then a report
for every one, then contact cards, but these only if there are no entries at all. So an entry that cannot be read takes
none of the others with it, as long as it does not stand alone (`Padded`).
-/

namespace Intake

/-- The event under another provider's name. -/
def IncomingEvent.under (provider : Provider) (e : IncomingEvent) : IncomingEvent := { e with provider }

namespace Webhook

open Json Record

/-! ## What a business value says -/

/-- An entry of `messages` that can be read. -/
def isMessage (raw : Json) : Bool := (MessageEntry.record.decode raw).isSome

/-- An entry of `statuses` that can be read. -/
def isReport (raw : Json) : Bool := (StatusEntry.record.decode raw).isSome

/-- The value does not name another number than the channel's, as far as both are known. -/
def BelongsTo (phoneNumberId : Option String) (value : Json) : Prop :=
  ∀ expected ∈ phoneNumberId, ∀ actual ∈ numberIdOf? value, actual = expected

instance (phoneNumberId : Option String) (value : Json) : Decidable (BelongsTo phoneNumberId value) :=
  inferInstanceAs (Decidable (∀ expected ∈ phoneNumberId, ∀ actual ∈ numberIdOf? value, actual = expected))

/-- The events of a business value, in three parts. -/
structure Listed (value : Json) (messages reports cards : List IncomingEvent) : Prop where
  messages_raw : messages.map (·.raw) = (value.itemsAt 2 "messages").filter isMessage
  message : ∀ e ∈ messages, (∃ m, e.body = .message m) ∧ (e.raw.part? 0 "id").bind scalar? = some e.sourceId
  reports_raw : reports.map (·.raw) = (value.itemsAt 3 "statuses").filter isReport
  report : ∀ e ∈ reports, (∃ r, e.body = .status r) ∧ (e.raw.part? 0 "id").bind scalar? = some e.sourceId
  cards_sourceId : cards.map (·.sourceId) =
    if value.itemsAt 2 "messages" = [] ∧ value.itemsAt 3 "statuses" = [] then
      (value.itemsAt 1 "contacts").filterMap waIdOf?
    else []
  card : ∀ e ∈ cards, e.body = .contactCard

variable {α β : Type} {provider : Provider} {j j' : Json} {v v' : BusinessValue}

theorem map_filterMap_eq_filter {decode : Json → Option α} {make : Json → α → β} {raw : β → Json}
    (hraw : ∀ x a, raw (make x a) = x) (xs : List Json) :
    (xs.filterMap fun x => (decode x).map (make x)).map raw = xs.filter fun x => (decode x).isSome := by
  induction xs with
  | nil => rfl
  | cons x xs ih => cases hx : decode x <;> simp [hx, hraw, ih]

theorem filterMap_eq_of_forall₂ {R : Json → α → Prop} {f : Json → Option β} {g : α → Option β} {xs : List Json}
    {as : List α} (h : List.Forall₂ R xs as) (hf : ∀ x a, R x a → f x = g a) : xs.filterMap f = as.filterMap g := by
  induction h with
  | nil => rfl
  | cons hx _ ih => rw [List.filterMap_cons, List.filterMap_cons, hf _ _ hx, ih]

namespace BusinessValue

theorem messageEvents_raw (v : BusinessValue) (provider : Provider) :
    (v.messageEvents provider).map (·.raw) = v.messages.filter isMessage :=
  map_filterMap_eq_filter (fun _ _ => rfl) v.messages

theorem statusEvents_raw (v : BusinessValue) (provider : Provider) :
    (v.statusEvents provider).map (·.raw) = v.statuses.filter isReport :=
  map_filterMap_eq_filter (fun _ _ => rfl) v.statuses

theorem cardEvents_sourceId (v : BusinessValue) (provider : Provider) :
    (v.cardEvents provider).map (·.sourceId) = v.people.filterMap fun p => p.waId.bind Text.nonBlank := by
  rw [cardEvents, List.map_filterMap]
  congr 1
  funext p
  cases p.waId.bind Text.nonBlank <;> rfl

theorem events_listed (h : BusinessValue.record.decode j = some v) (provider : Provider) :
    Listed j (v.messageEvents provider) (v.statusEvents provider)
      (if v.messages.isEmpty ∧ v.statuses.isEmpty then v.cardEvents provider else []) := by
  obtain ⟨-, hpeople, hmessages, hstatuses⟩ := BusinessValue.of_decode h
  have hids : (j.itemsAt 1 "contacts").filterMap waIdOf? = v.people.filterMap fun p => p.waId.bind Text.nonBlank :=
    filterMap_eq_of_forall₂ hpeople fun x p hp => (Person.waId_of_decode hp).symm
  refine ⟨?_, ?_, ?_, ?_, ?_, ?_⟩
  · rw [messageEvents_raw, hmessages]
  · exact fun e he => messageEvents_id he
  · rw [statusEvents_raw, hstatuses]
  · exact fun e he => statusEvents_id he
  · rw [← hmessages, ← hstatuses, hids, ← cardEvents_sourceId v provider]
    simp only [List.isEmpty_iff]
    split <;> rfl
  · intro e he
    split at he
    · exact (cardEvents_card he).1
    · cases he

/-- The provider is no more than a name. -/
theorem map_under_events (v : BusinessValue) (provider provider' : Provider) :
    (v.events provider).map (IncomingEvent.under provider') = v.events provider' := by
  have hmessages : (v.messageEvents provider).map (IncomingEvent.under provider') = v.messageEvents provider' := by
    simp only [messageEvents, List.map_filterMap, Option.map_map]
    rfl
  have hstatuses : (v.statusEvents provider).map (IncomingEvent.under provider') = v.statusEvents provider' := by
    simp only [statusEvents, List.map_filterMap, Option.map_map]
    rfl
  have hcards : (v.cardEvents provider).map (IncomingEvent.under provider') = v.cardEvents provider' := by
    simp only [cardEvents, List.map_filterMap, Option.map_map]
    rfl
  rw [events, events, List.map_append, List.map_append, hmessages, hstatuses]
  split
  · rw [hcards]
  · rfl

theorem isFor_eq (h : BusinessValue.record.decode j = some v) (phoneNumberId : Option String) :
    CloudEnvelope.isFor phoneNumberId v = decide (BelongsTo phoneNumberId j) := by
  have hid : v.phoneNumberId? = numberIdOf? j := (BusinessValue.of_decode h).1
  cases phoneNumberId <;> cases hn : numberIdOf? j <;> simp [CloudEnvelope.isFor, BelongsTo, hid, hn, eq_comm]

end BusinessValue

theorem CloudEnvelope.events_eq {e : CloudEnvelope} {values : List Json}
    (h : List.Forall₂ (fun value v => BusinessValue.record.decode value = some v) values e.values) (ctx : Context) :
    e.events ctx.phoneNumberId = (values.filter (BelongsTo ctx.phoneNumberId ·)).flatMap fun value =>
      (normalize .default value ctx).map (IncomingEvent.under .cloud) := by
  obtain ⟨vs⟩ := e
  rw [events]
  dsimp only at h ⊢
  induction h with
  | nil => rfl
  | @cons value v values vs hv _ ih =>
    rw [List.filter_cons, List.filter_cons, BusinessValue.isFor_eq hv]
    split
    · rw [List.flatMap_cons, List.flatMap_cons, ih, normalize_default_eq, hv, Option.elim_some,
        BusinessValue.map_under_events]
    · exact ih

/-! ## Entries that cannot be read -/

namespace Padded

/-- Two arrays of entries of which the same can be read; neither is empty, or they are the same. -/
inductive Entries (readable : Json → Bool) : Json → Json → Prop
  | same {j : Json} : Entries readable j j
  | padded {xs ys : List Json} : xs ≠ [] → ys ≠ [] → xs.filter readable = ys.filter readable →
      Entries readable (.array xs) (.array ys)

/-- Business values that differ in entries that cannot be read. -/
def value : Json → Json → Prop := Fields (BusinessValue.layout Eq Eq (Entries isMessage) (Entries isReport))

/-- Payloads whose values differ in entries that cannot be read. -/
def cloud : Json → Json → Prop := Fields (CloudEnvelope.layout value)

/-- What is left of two arrays of entries: the same can be read, and both are empty or neither is. -/
def Alike (readable : Json → Bool) (xs ys : List Json) : Prop :=
  xs.filter readable = ys.filter readable ∧ xs.isEmpty = ys.isEmpty

/-- An entry that cannot be read is put in, or taken out, where there are others. -/
theorem Entries.insert {readable : Json → Bool} {x : Json} (before after : List Json) (hx : readable x = false)
    (hne : before ++ after ≠ []) :
    Entries readable (.array (before ++ after)) (.array (before ++ x :: after)) ∧
      Entries readable (.array (before ++ x :: after)) (.array (before ++ after)) := by
  have hfilter : (before ++ x :: after).filter readable = (before ++ after).filter readable := by simp [hx]
  have hne' : before ++ x :: after ≠ [] := by simp
  exact ⟨.padded hne hne' hfilter.symm, .padded hne' hne hfilter⟩

theorem Entries.list? {readable : Json → Bool} (h : Entries readable j j') :
    Option.Rel (Alike readable) (Json.list? some j) (Json.list? some j') := by
  cases h with
  | same =>
    cases Json.list? some j with
    | none => exact .none
    | some xs => exact .some ⟨rfl, rfl⟩
  | padded hxs hys hfilter =>
    rw [Json.list?_some, Json.list?_some]
    exact .some ⟨hfilter, by rw [List.isEmpty_eq_false_iff.2 hxs, List.isEmpty_eq_false_iff.2 hys]⟩

theorem filterMap_eq {decode : Json → Option α} {make : Json → α → β} {xs ys : List Json}
    (h : xs.filter (fun x => (decode x).isSome) = ys.filter fun x => (decode x).isSome) :
    (xs.filterMap fun x => (decode x).map (make x)) = ys.filterMap fun x => (decode x).map (make x) := by
  have hreadable : ∀ zs : List Json, (zs.filterMap fun x => (decode x).map (make x)) =
      (zs.filter fun x => (decode x).isSome).filterMap fun x => (decode x).map (make x) := by
    intro zs
    rw [List.filterMap_filter]
    congr 1
    funext x
    cases decode x <;> rfl
  rw [hreadable xs, hreadable ys, h]

theorem events_eq (h : BusinessValue.Like (Alike isMessage) (Alike isReport) v v') (provider : Provider) :
    v.events provider = v'.events provider := by
  have hmessages : v.messageEvents provider = v'.messageEvents provider := by
    rw [BusinessValue.messageEvents, BusinessValue.messageEvents, h.messageEvent_eq provider]
    exact filterMap_eq h.messages.1
  have hstatuses : v.statusEvents provider = v'.statusEvents provider := filterMap_eq h.statuses.1
  have hevents := h.map_events_eq (f := id) (congrArg (List.map id) hmessages) (congrArg (List.map id) hstatuses)
    (fun _ _ hxs => hxs.2) (fun _ _ hxs => hxs.2)
  rwa [List.map_id, List.map_id] at hevents

theorem decode_value (h : value j j') :
    Option.Rel (BusinessValue.Like (Alike isMessage) (Alike isReport)) (BusinessValue.record.decode j)
      (BusinessValue.record.decode j') := by
  refine BusinessValue.decode_like ?_ ?_ (fun _ _ he => he.list?) (fun _ _ he => he.list?) ⟨rfl, rfl⟩ ⟨rfl, rfl⟩ h
  · rintro i _ rfl
    rfl
  · rintro i _ rfl
    rfl

end Padded

/-- Entries that cannot be read take no event with them. -/
theorem normalize_padded (h : Padded.cloud j j') (ctx : Context) :
    normalize .cloud j ctx = normalize .cloud j' ctx := by
  rw [normalize_cloud_eq, normalize_cloud_eq]
  have hevents := Option.Rel.map_elim_eq (g := id) (CloudEnvelope.decode_like (fun _ _ hv => Padded.decode_value hv) h)
    fun e e' hvalues => CloudEnvelope.map_events_eq hvalues (fun v v' hv => hv.phoneNumberId?_eq)
      (fun v v' hv => congrArg (List.map id) (Padded.events_eq hv .cloud)) ctx.phoneNumberId
  rwa [List.map_id, List.map_id] at hevents

/-- What a cloud payload says: what its values say alone, one after the other, but for the values of other numbers. -/
theorem cloud_concatenates {payload : Json} {p : Payload} (hp : Payload.parse? .cloud payload = some p)
    (ctx : Context) :
    normalize .cloud payload ctx = ((cloudValues payload).filter (BelongsTo ctx.phoneNumberId ·)).flatMap (fun value =>
        (normalize .default value ctx).map (IncomingEvent.under .cloud)) ∧
      (∀ value ∈ cloudValues payload, ∃ messages reports cards,
        normalize .default value ctx = messages ++ reports ++ cards ∧ Listed value messages reports cards) ∧
      ∀ payload', Padded.cloud payload payload' → normalize .cloud payload' ctx = normalize .cloud payload ctx := by
  obtain ⟨e, he, rfl⟩ := Option.map_eq_some_iff.1 hp
  have hvalues := CloudEnvelope.forall₂_values he
  refine ⟨?_, ?_, fun payload' hpad => (normalize_padded hpad ctx).symm⟩
  · rw [normalize, hp]
    exact CloudEnvelope.events_eq hvalues ctx
  · intro value hvalue
    obtain ⟨hread, -⟩ := (List.forall₂_and_left _ _).1 (hvalues.imp fun value v hv => ⟨Exists.intro v hv, hv⟩)
    obtain ⟨v, hv⟩ := hread value hvalue
    refine ⟨_, _, _, ?_, BusinessValue.events_listed hv .default⟩
    rw [normalize_default_eq, hv]
    rfl

end Webhook

namespace Sample

open Json Webhook

/-- A text message. -/
def textEntry (id : String) : Json :=
  .object
    [("id", .string id), ("from", .string "15550002"), ("type", .string "text"),
      ("text", .object [("body", .string "hello")])]

/-- A business value for that number id, with these entries as messages. -/
def valueOf (number : String) (entries : List Json) : Json :=
  .object [("metadata", .object [("phone_number_id", .string number)]), ("messages", .array entries)]

/-- A cloud payload with these values. -/
def cloudOf (values : List Json) : Json :=
  .object [("entry", .array [.object [("changes", .array (values.map fun value => .object [("value", value)]))]])]

/-- Three values, the second for another number; the third has these entries. -/
def batch (entries : List Json) : Json :=
  cloudOf [valueOf "pn-1" [textEntry "wamid.1"], valueOf "pn-2" [textEntry "wamid.2"], valueOf "pn-1" entries]

def numbered : Context := { phoneNumberId := some "pn-1" }

theorem valueOf_padded (number : String) {entries entries' : List Json}
    (h : Padded.Entries isMessage (.array entries) (.array entries')) :
    Padded.value (valueOf number entries) (valueOf number entries') :=
  .object (.cons ⟨rfl, rfl⟩ (.cons ⟨rfl, h⟩ .nil))

theorem batch_padded {entries entries' : List Json}
    (h : Padded.Entries isMessage (.array entries) (.array entries')) :
    Padded.cloud (batch entries) (batch entries') := by
  have hchange : ∀ {value value' : Json}, Padded.value value value' →
      Fields [("field", Eq), ("value", Padded.value)] (.object [("value", value)]) (.object [("value", value')]) :=
    fun hv => .object (.cons ⟨rfl, hv⟩ .nil)
  have hfirst := hchange (valueOf_padded "pn-1" (.same : Padded.Entries _ (.array [textEntry "wamid.1"]) _))
  have hsecond := hchange (valueOf_padded "pn-2" (.same : Padded.Entries _ (.array [textEntry "wamid.2"]) _))
  have hthird := hchange (valueOf_padded "pn-1" h)
  have hchanges := Items.array (.cons hfirst (.cons hsecond (.cons hthird .nil)))
  exact .object (.cons ⟨rfl, .array (.cons (.object (.cons ⟨rfl, hchanges⟩ .nil)) .nil)⟩ .nil)

end Sample

namespace Webhook

open Sample in
/-- The value for the other number is left out, and an entry that is no message does no harm to the one beside it. -/
theorem batch_concatenated :
    (normalize .cloud (batch [textEntry "wamid.3", .null]) numbered).map (·.sourceId) = ["wamid.1", "wamid.3"] ∧
      normalize .cloud (batch [textEntry "wamid.3", .null]) numbered =
        (normalize .default (valueOf "pn-1" [textEntry "wamid.1"]) numbered).map (IncomingEvent.under .cloud) ++
          (normalize .default (valueOf "pn-1" [textEntry "wamid.3", .null]) numbered).map
            (IncomingEvent.under .cloud) ∧
      normalize .cloud (batch [textEntry "wamid.3"]) numbered =
        normalize .cloud (batch [textEntry "wamid.3", .null]) numbered := by
  have hparsed : (Payload.parse? .cloud (batch [textEntry "wamid.3", .null])).isSome = true := by decide +kernel
  obtain ⟨p, hp⟩ := Option.isSome_iff_exists.1 hparsed
  obtain ⟨hconcat, -, hpadded⟩ := cloud_concatenates hp numbered
  refine ⟨by decide +kernel, ?_, hpadded _ ?_⟩
  · rw [hconcat]
    rfl
  · have hbroken : isMessage .null = false := by decide +kernel
    exact batch_padded (Padded.Entries.insert [textEntry "wamid.3"] [] hbroken (by simp)).2

end Webhook

end Intake
