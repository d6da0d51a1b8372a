import Intake.Event.Basic

/-!
# Events as JSON

Every event has one written form, given by `IncomingEvent.toJson`; `IncomingEvent.ofJson?` reads that form and the
spellings it allows for: records by position, and a name `n` without a value as an object `n: null`. A body is tagged by
`kind` among its own fields, a content by `type` beside its `value`.
-/

namespace Intake

open Json

namespace Json

/-- A name without a value: the name itself, or the only key of an object, over a null. Inside a tagged body an empty
object is as good as a null. -/
def name? (tagged : Bool) : Json → Option String
  | string s => some s
  | object [(k, null)] => some k
  | object [(k, object [])] => if tagged then some k else none
  | _ => none

end Json

namespace Provider

def ofJson? (j : Json) : Option Provider := (name? false j).bind ofName?

end Provider

namespace MessageSubtype

def toJson : MessageSubtype → Json
  | unsupported kind => .object [("unsupported", .string kind)]
  | s => .string s.name

def ofJson? (tagged : Bool) : Json → Option MessageSubtype
  | .object [("unsupported", .string kind)] => some (unsupported kind)
  | j => (name? tagged j).bind ofName?

end MessageSubtype

namespace MediaSource

def toJson : MediaSource → Json
  | url u => .object [("url", .string u)]
  | mediaId i => .object [("media_id", .string i)]

def ofJson? : Json → Option MediaSource
  | .object [("url", .string u)] => some (url u)
  | .object [("media_id", .string i)] => some (mediaId i)
  | _ => none

end MediaSource

namespace MediaDescriptor

def toJson (m : MediaDescriptor) : Json :=
  .object
    [("source", m.source.toJson), ("content_type", ofString? m.contentType), ("caption", ofString? m.caption),
      ("filename", ofString? m.filename)]

def record : Record MediaDescriptor := do
  let source ← Record.required "source" MediaSource.ofJson?
  let contentType ← Record.optional "content_type" string?
  let caption ← Record.optional "caption" string?
  let filename ← Record.optional "filename" string?
  return { source, contentType, caption, filename }

end MediaDescriptor

namespace GeoLocation

/-- The written form, with coordinates written by `number`. -/
def toJson (number : Double → Json) (l : GeoLocation) : Json :=
  .object
    [("latitude", number l.latitude), ("longitude", number l.longitude), ("name", ofString? l.name),
      ("address", ofString? l.address), ("url", ofString? l.url)]

def record : Record GeoLocation := do
  let latitude ← Record.required "latitude" double?
  let longitude ← Record.required "longitude" double?
  let name ← Record.optional "name" string?
  let address ← Record.optional "address" string?
  let url ← Record.optional "url" string?
  return { latitude, longitude, name, address, url }

end GeoLocation

namespace ContactCard

def toJson (c : ContactCard) : Json :=
  .object [("name", ofString? c.name), ("phones", .array (c.phones.map .string))]

def record : Record ContactCard := do
  let name ← Record.optional "name" string?
  let phones ← Record.required "phones" (list? string?)
  return { name, phones }

end ContactCard

namespace MessageContent

def typeName : MessageContent → String
  | text _ => "text"
  | media _ => "media"
  | location _ => "location"
  | contacts _ => "contacts"
  | empty => "empty"

def toJson (number : Double → Json) (c : MessageContent) : Json :=
  let tagged (value : Json) : Json := .object [("type", .string c.typeName), ("value", value)]
  match c with
  | text body => tagged (.string body)
  | media m => tagged m.toJson
  | location l => tagged (l.toJson number)
  | contacts cards => tagged (.array (cards.map ContactCard.toJson))
  | empty => .object [("type", .string "empty")]

/-- The content of the named type with that value. -/
def ofValue? (type : String) (value : Json) : Option MessageContent :=
  match type with
  | "text" => (string? value).map text
  | "media" => (MediaDescriptor.record.decode value).map media
  | "location" => (GeoLocation.record.decode value).map location
  | "contacts" => (list? ContactCard.record.decode value).map contacts
  | "empty" => match value with
    | .null => some empty
    | _ => none
  | _ => none

def ofJson? : Json → Option MessageContent
  | .object ms => do
    let type ← (ms.lookup "type").bind (name? true)
    match ms.lookup "value" with
    | some value => ofValue? type value
    | none => if type = "empty" then some empty else none
  | .array [type, value] => (name? true type).bind (ofValue? · value)
  | _ => none

end MessageContent

namespace ProviderError

def toJson (e : ProviderError) : Json :=
  .object [("code", .string e.code), ("title", .string e.title)]

def record : Record ProviderError := do
  let code ← Record.required "code" string?
  let title ← Record.required "title" string?
  return { code, title }

end ProviderError

namespace EventBody

def errorsToJson (errors : List ProviderError) : Json := .array (errors.map ProviderError.toJson)

def toJson (number : Double → Json) : EventBody → Json
  | message m =>
    .object
      [("kind", .string "message"), ("subtype", m.subtype.toJson), ("content", m.content.toJson number),
        ("reply_to", ofString? m.replyTo), ("errors", errorsToJson m.errors)]
  | status r =>
    .object [("kind", .string "status"), ("status", .string r.status), ("errors", errorsToJson r.errors)]
  | contactCard => .object [("kind", .string "contact_card")]

def messageRecord : Record InboundMessage := do
  let subtype ← Record.required "subtype" (MessageSubtype.ofJson? true)
  let content ← Record.required "content" MessageContent.ofJson?
  let replyTo ← Record.optional "reply_to" string?
  let errors ← Record.required "errors" (list? ProviderError.record.decode)
  return { subtype, content, replyTo, errors }

def statusRecord : Record StatusReport := do
  let status ← Record.required "status" string?
  let errors ← Record.required "errors" (list? ProviderError.record.decode)
  return { status, errors }

/-- The body of a kind, from its fields. -/
def ofFields? (kind : EventKind) (fields : Json) : Option EventBody :=
  match kind with
  | .message => (messageRecord.decode fields).map message
  | .status => (statusRecord.decode fields).map status
  | .contactCard => match fields with
    | .array (_ :: _) => none
    | _ => some contactCard

def ofJson? : Json → Option EventBody
  | .object ms => do
    let kind ← (ms.lookup "kind").bind string?
    ofFields? (← EventKind.ofName? kind) (.object ms)
  | .array (kind :: fields) => do
    ofFields? (← (string? kind).bind EventKind.ofName?) (.array fields)
  | _ => none

end EventBody

namespace Sender

def toJson (s : Sender) : Json :=
  .object [("phone", .string s.phone), ("name", ofString? s.name)]

def record : Record Sender := do
  let phone ← Record.required "phone" string?
  let name ← Record.optional "name" string?
  return { phone, name }

end Sender

namespace IncomingEvent

/-- A finite double is written as a number, any other as a null. -/
def finiteNumber (d : Double) : Json :=
  if d.isFinite then .number (.decimal d) else .null

def toJsonWith (number : Double → Json) (e : IncomingEvent) : Json :=
  .object
    [("provider", .string e.provider.name), ("source_id", .string e.sourceId),
      ("sender", ofOption (e.sender.map Sender.toJson)), ("body", e.body.toJson number), ("raw", e.raw)]

def toJson (e : IncomingEvent) : Json := e.toJsonWith finiteNumber

def record : Record IncomingEvent := do
  let provider ← Record.required "provider" Provider.ofJson?
  let sourceId ← Record.required "source_id" string?
  let sender ← Record.optional "sender" Sender.record.decode
  let body ← Record.required "body" EventBody.ofJson?
  let raw ← Record.required "raw" some
  return { provider, sourceId, sender, body, raw }

def ofJson? : Json → Option IncomingEvent := record.decode

end IncomingEvent

end Intake
