import Intake.Event.Codec

/-!
# Reading events back

An event that is read from its own written form is what it was (`events_read_back`), whatever it says: no
name of a kind is taken for another, and no tag for a field. Only a place whose coordinates are no numbers cannot be
written, and what is written in its stead is read as no event at all.
-/

namespace Intake

open Json

namespace Json

/-! ## Fields of objects -/

namespace Record

variable {α β : Type} {decode : Json → Option α}

theorem decode_pure (a : α) (ms : List (String × Json)) : (pure a : Record α).decode (.object ms) = some a := rfl

theorem decode_field_bind (name : String) (decode : Json → Option α) (absent short : Option α) (f : α → Record β)
    (ms : List (String × Json)) :
    (field name decode absent short >>= f).decode (.object ms) =
      ((ms.lookup name).elim absent decode).bind fun a => (f a).decode (.object ms) := by
  have hrun : (field name decode absent short >>= f).run (.named ms) =
      ((field name decode absent short).run (.named ms)).bind fun p => (f p.1).run p.2 := rfl
  have hfield : (field name decode absent short).run (.named ms) =
      ((ms.lookup name).elim absent decode).map (·, .named ms) := by
    simp only [StateT.run, field]
    cases ms.lookup name <;> rfl
  rw [Record.decode, hrun, hfield, Option.bind_map, Option.map_bind]
  rfl

theorem decode_required_bind (name : String) (decode : Json → Option α) (f : α → Record β)
    (ms : List (String × Json)) :
    (required name decode >>= f).decode (.object ms) =
      ((ms.lookup name).bind decode).bind fun a => (f a).decode (.object ms) := by
  rw [required, decode_field_bind]
  cases ms.lookup name <;> rfl

theorem decode_optional_bind (name : String) (decode : Json → Option α) (f : Option α → Record β)
    (ms : List (String × Json)) :
    (optional name decode >>= f).decode (.object ms) =
      ((ms.lookup name).elim (some none) (nullable decode)).bind fun a => (f a).decode (.object ms) :=
  decode_field_bind ..

/-- What may be missing is read back if nothing that is there is written as a null. -/
theorem nullable_ofOption {encode : α → Json} (hread : ∀ a, decode (encode a) = some a)
    (hnull : ∀ a, encode a ≠ .null) (o : Option α) : nullable decode (ofOption (o.map encode)) = some o := by
  cases o with
  | none => rfl
  | some a =>
    have hsome : nullable decode (encode a) = (decode (encode a)).map some := by
      cases hj : encode a with
      | null => exact absurd hj (hnull a)
      | _ => rfl
    change nullable decode (encode a) = _
    rw [hsome, hread]
    rfl

theorem nullable_ofString? (o : Option String) : nullable string? (ofString? o) = some o := by
  cases o <;> rfl

end Record

theorem list?_map {α : Type} {decode : Json → Option α} {encode : α → Json} (hread : ∀ a, decode (encode a) = some a)
    (as : List α) : list? decode (.array (as.map encode)) = some as := by
  change (as.map encode).mapM decode = some as
  induction as with
  | nil => rfl
  | cons a as ih =>
    rw [List.map_cons, List.mapM_cons, hread, ih]
    rfl

end Json

open Record

/-! ## Parts of a message -/

theorem Provider.ofJson?_name (p : Provider) : ofJson? (.string p.name) = some p := by
  cases p <;> rfl

theorem EventKind.ofName?_name (k : EventKind) : ofName? k.name = some k := by
  cases k <;> rfl

/-- A kind that is not handled keeps its name, even if it is that of a kind that is. -/
theorem MessageSubtype.ofJson?_toJson (tagged : Bool) (s : MessageSubtype) : ofJson? tagged s.toJson = some s := by
  cases s <;> rfl

theorem MediaSource.ofJson?_toJson (s : MediaSource) : ofJson? s.toJson = some s := by
  cases s <;> rfl

theorem MediaDescriptor.decode_toJson (m : MediaDescriptor) : record.decode m.toJson = some m := by
  simp [-bind_pure_comp, record, toJson, decode_required_bind, decode_optional_bind, decode_pure, List.lookup_cons,
    MediaSource.ofJson?_toJson, nullable_ofString?]

theorem ContactCard.decode_toJson (c : ContactCard) : record.decode c.toJson = some c := by
  have hread : ∀ s, string? (.string s) = some s := fun _ => rfl
  have hphones : list? string? (.array (c.phones.map .string)) = some c.phones := list?_map hread _
  simp [-bind_pure_comp, record, toJson, decode_required_bind, decode_optional_bind, decode_pure, List.lookup_cons,
    nullable_ofString?, hphones]

theorem ProviderError.decode_toJson (e : ProviderError) : record.decode e.toJson = some e := by
  simp [-bind_pure_comp, record, toJson, decode_required_bind, decode_pure, List.lookup_cons, string?]

theorem Sender.decode_toJson (s : Sender) : record.decode s.toJson = some s := by
  simp [-bind_pure_comp, record, toJson, decode_required_bind, decode_optional_bind, decode_pure, List.lookup_cons,
    string?, nullable_ofString?]

/-! ## Places -/

/-- Whether both coordinates are numbers. -/
def GeoLocation.isFinite (l : GeoLocation) : Bool := l.latitude.isFinite && l.longitude.isFinite

/-- A coordinate that is no number is written as a null, which is no coordinate. -/
theorem double?_finiteNumber (d : Double) :
    double? (IncomingEvent.finiteNumber d) = if d.isFinite then some d else none := by
  unfold IncomingEvent.finiteNumber
  split <;> rfl

theorem GeoLocation.decode_toJson (l : GeoLocation) :
    record.decode (l.toJson IncomingEvent.finiteNumber) = if l.isFinite then some l else none := by
  have hfields : record.decode (l.toJson IncomingEvent.finiteNumber) =
      (double? (IncomingEvent.finiteNumber l.latitude)).bind fun latitude =>
        (double? (IncomingEvent.finiteNumber l.longitude)).bind fun longitude =>
          some { l with latitude, longitude } := by
    simp [-bind_pure_comp, record, toJson, decode_required_bind, decode_optional_bind, decode_pure, List.lookup_cons,
      nullable_ofString?]
  rw [hfields, double?_finiteNumber, double?_finiteNumber, isFinite]
  cases l.latitude.isFinite <;> cases l.longitude.isFinite <;> rfl

/-- The place that is told, if one is. -/
def MessageContent.place? : MessageContent → Option GeoLocation
  | location l => some l
  | _ => none

def EventBody.place? : EventBody → Option GeoLocation
  | message m => m.content.place?
  | _ => none

/-! ## Contents, bodies and events -/

theorem MessageContent.ofJson?_tagged (type : String) (value : Json) :
    ofJson? (.object [("type", .string type), ("value", value)]) = ofValue? type value := by
  simp [ofJson?, List.lookup_cons, name?]

theorem MessageContent.ofJson?_toJson (c : MessageContent) :
    ofJson? (c.toJson IncomingEvent.finiteNumber) = if c.place?.all (·.isFinite) then some c else none := by
  cases c with
  | text body => rfl
  | media m =>
    have hvalue : ofValue? "media" m.toJson = some (media m) := by
      rw [ofValue?, MediaDescriptor.decode_toJson, Option.map_some]
    exact (ofJson?_tagged "media" m.toJson).trans hvalue
  | location l =>
    have hvalue : ofValue? "location" (l.toJson IncomingEvent.finiteNumber) =
        if l.isFinite then some (location l) else none := by
      rw [ofValue?, GeoLocation.decode_toJson]
      split <;> rfl
    exact (ofJson?_tagged "location" _).trans hvalue
  | contacts cards =>
    have hvalue : ofValue? "contacts" (.array (cards.map ContactCard.toJson)) = some (contacts cards) := by
      rw [ofValue?, list?_map ContactCard.decode_toJson, Option.map_some]
    exact (ofJson?_tagged "contacts" _).trans hvalue
  | empty => rfl

namespace EventBody

theorem list?_errorsToJson (errors : List ProviderError) :
    list? ProviderError.record.decode (errorsToJson errors) = some errors :=
  list?_map ProviderError.decode_toJson errors

theorem ofJson?_tagged (kind : EventKind) (fields : List (String × Json)) :
    ofJson? (.object (("kind", .string kind.name) :: fields)) =
      ofFields? kind (.object (("kind", .string kind.name) :: fields)) := by
  simp [ofJson?, string?, EventKind.ofName?_name]

theorem decode_message (m : InboundMessage) :
    messageRecord.decode ((message m).toJson IncomingEvent.finiteNumber) =
      if m.content.place?.all (·.isFinite) then some m else none := by
  have hfields : messageRecord.decode ((message m).toJson IncomingEvent.finiteNumber) =
      (MessageContent.ofJson? (m.content.toJson IncomingEvent.finiteNumber)).bind fun content =>
        some { m with content } := by
    simp [-bind_pure_comp, messageRecord, toJson, decode_required_bind, decode_optional_bind, decode_pure,
      List.lookup_cons, MessageSubtype.ofJson?_toJson, nullable_ofString?, list?_errorsToJson]
  rw [hfields, MessageContent.ofJson?_toJson]
  split <;> rfl

theorem decode_status (r : StatusReport) :
    statusRecord.decode ((status r).toJson IncomingEvent.finiteNumber) = some r := by
  simp [-bind_pure_comp, statusRecord, toJson, decode_required_bind, decode_pure, List.lookup_cons,
    string?, list?_errorsToJson]

theorem ofJson?_toJson (b : EventBody) :
    ofJson? (b.toJson IncomingEvent.finiteNumber) = if b.place?.all (·.isFinite) then some b else none := by
  cases b with
  | message m =>
    refine (ofJson?_tagged .message _).trans ?_
    change (messageRecord.decode ((message m).toJson IncomingEvent.finiteNumber)).map message = _
    rw [decode_message, place?]
    split <;> rfl
  | status r =>
    refine (ofJson?_tagged .status _).trans ?_
    change (statusRecord.decode ((status r).toJson IncomingEvent.finiteNumber)).map status = _
    rw [decode_status]
    rfl
  | contactCard => rfl

end EventBody

open IncomingEvent in
/-- An event is read back as it was, unless it tells a place that is none. -/
theorem events_read_back (e : IncomingEvent) :
    IncomingEvent.ofJson? e.toJson = if e.body.place?.all (·.isFinite) then some e else none := by
  have hsender : nullable Sender.record.decode (ofOption (e.sender.map Sender.toJson)) = some e.sender :=
    nullable_ofOption Sender.decode_toJson (fun _ => Json.noConfusion) e.sender
  have hfields : IncomingEvent.ofJson? e.toJson = (EventBody.ofJson? (e.body.toJson finiteNumber)).bind fun body =>
      some { e with body } := by
    simp [-bind_pure_comp, IncomingEvent.ofJson?, record, IncomingEvent.toJson, toJsonWith, decode_required_bind,
      decode_optional_bind, decode_pure, List.lookup_cons, string?, Provider.ofJson?_name, hsender]
  rw [hfields, EventBody.ofJson?_toJson]
  split <;> rfl

end Intake
