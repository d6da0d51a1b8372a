import Intake.Webhook.Scalar

/-!
# The Gupshup envelope

One event per delivery, as `app`, `type` and `payload`. Messages come as `message`, delivery reports as
`message-event`; every other type carries no event.
-/

namespace Intake.Webhook

open Json

structure GupshupEnvelope where
  kind : String
  payload : Json

namespace GupshupEnvelope

def record : Record GupshupEnvelope := do
  let _ ← Record.defaulted "app" none (Record.nullable string?)
  let kind ← Record.defaulted "type" "" string?
  let payload ← Record.defaulted "payload" .null some
  return { kind, payload }

/-! ## Messages -/

/-- The payload of a message. -/
structure Inbound where
  id : Option String
  source : Option String
  kind : String
  payload : Json
  sender : Option (Option String × Option String)
  context : Option (Option String × Option String)

namespace Inbound

def senderRecord : Record (Option String × Option String) := do
  let phone ← optionalScalar "phone"
  let name ← Record.optional "name" string?
  return (phone, name)

def contextRecord : Record (Option String × Option String) := do
  let id ← Record.optional "id" string?
  let gsId ← Record.optional "gsId" string?
  return (id, gsId)

def record : Record Inbound := do
  let id ← optionalScalar "id"
  let source ← optionalScalar "source"
  let kind ← Record.defaulted "type" "" string?
  let payload ← Record.defaulted "payload" .null some
  let sender ← Record.optional "sender" senderRecord.decode
  let context ← Record.optional "context" contextRecord.decode
  return { id, source, kind, payload, sender, context }

def subtype (m : Inbound) : MessageSubtype :=
  match m.kind with
  | "text" => .text
  | "image" => .image
  | "file" => .document
  | "video" => .video
  | "audio" => .audio
  | "location" => .location
  | "contact" => .contacts
  | "button_reply" | "quick_reply" => .button
  | "list_reply" => .interactive
  | "reaction" => .reaction
  | kind => .unsupported kind

def reply : Record (Option String) := do
  let title ← Record.optional "title" string?
  let text ← Record.optional "text" string?
  return title <|> text

def media : Record MessageContent := do
  let url ← Record.optional "url" string?
  let caption ← Record.optional "caption" string?
  let contentType ← Record.optional "contentType" string?
  let name ← Record.optional "name" string?
  return match url.bind Text.nonBlank with
    | none => .empty
    | some url =>
      .media
        { source := .url url
          contentType := contentType.bind Text.nonBlank
          caption := caption.bind Text.nonBlank
          filename := name.bind Text.nonBlank }

def cards : Record (List ContactCard) :=
  Record.defaulted "contacts" [] (list? card.decode)

/-- The content of a payload; without one the message is malformed. -/
def content? (subtype : MessageSubtype) (payload : Json) : Option MessageContent :=
  match subtype with
  | .text => (textOf? "text" payload).map textContent
  | .button | .interactive => (reply.decode payload).map textContent
  | .image | .document | .video | .audio => media.decode payload
  | .location => (place.decode payload).map .location
  | .contacts => (cards.decode payload).map .contacts
  | .reaction | .unsupported _ => some .empty

/-- The sender's number: the source, else the sender's phone, else the number of the webhook's own address. -/
def phone? (m : Inbound) (urlPhoneNumber : Option String) : Option String :=
  m.source.bind Text.nonBlank <|> (m.sender.bind (·.1)).bind Text.nonBlank <|> urlPhoneNumber.bind Text.nonBlank

def replyTo? (m : Inbound) : Option String :=
  m.context.bind fun (id, gsId) => id.bind Text.nonBlank <|> gsId.bind Text.nonBlank

end Inbound

def messageEvent? (payload : Json) (urlPhoneNumber : Option String) : Option IncomingEvent := do
  let m ← Inbound.record.decode payload
  let sourceId ← m.id.bind Text.nonBlank
  let content ← Inbound.content? m.subtype m.payload
  return {
    provider := .gupshup
    sourceId
    sender := (m.phone? urlPhoneNumber).map fun phone =>
      { phone, name := (m.sender.bind (·.2)).bind Text.nonBlank }
    body := .message { subtype := m.subtype, content, replyTo := m.replyTo?, errors := [] }
    raw := payload }

/-! ## Delivery reports -/

/-- The payload of a delivery report. -/
structure Report where
  id : Option String
  gsId : Option String
  kind : String
  payload : Json

def Report.record : Record Report := do
  let id ← optionalScalar "id"
  let gsId ← Record.defaulted "gsId" none (Record.nullable string?)
  let kind ← Record.defaulted "type" "" string?
  let payload ← Record.defaulted "payload" .null some
  return { id, gsId, kind, payload }

def failure : Record ProviderError := do
  let code ← optionalScalar "code"
  let reason ← Record.optional "reason" string?
  return { code := code.getD "", title := reason.getD "" }

/-- Delivery states that are passed on. -/
def reportedStatuses : List String := ["sent", "delivered", "read", "failed"]

def statusEvent? (payload : Json) : Option IncomingEvent := do
  let r ← Report.record.decode payload
  guard (r.kind ∈ reportedStatuses)
  let sourceId ← r.id.bind Text.nonBlank <|> r.gsId.bind Text.nonBlank
  let errors := if r.kind = "failed" then (failure.decode r.payload).toList else []
  return {
    provider := .gupshup
    sourceId
    sender := none
    body := .status { status := r.kind, errors }
    raw := payload }

def events (e : GupshupEnvelope) (urlPhoneNumber : Option String) : List IncomingEvent :=
  match e.kind with
  | "message" => (messageEvent? e.payload urlPhoneNumber).toList
  | "message-event" => (statusEvent? e.payload).toList
  | _ => []

end GupshupEnvelope

end Intake.Webhook
