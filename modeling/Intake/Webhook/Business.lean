import Intake.Webhook.Scalar

/-!
# The business value

One `value` of a WhatsApp business delivery: messages, delivery reports and the people they are about. A malformed
message or report is left out without harm to the others. A value that has neither announces its people as contacts.
-/

namespace Intake.Webhook

open Json

/-- A person named by a delivery. -/
structure Person where
  waId : Option String
  /-- The profile, which may lack a name. -/
  profile : Option (Option String)
deriving DecidableEq, Repr

namespace Person

def record : Record Person := do
  let waId ← optionalScalar "wa_id"
  let profile ← Record.defaulted "profile" none (Record.nullable (textOf? "name"))
  return { waId, profile }

def toJson (p : Person) : Json :=
  .object
    [("wa_id", ofString? p.waId), ("profile", ofOption (p.profile.map fun n => .object [("name", ofString? n)]))]

def name? (p : Person) : Option String := p.profile.join.bind Text.nonBlank

end Person

/-- The number that a value is addressed to. -/
structure Metadata where
  displayPhoneNumber : Option String
  phoneNumberId : Option String
deriving DecidableEq, Repr

def Metadata.record : Record Metadata := do
  let displayPhoneNumber ← optionalScalar "display_phone_number"
  let phoneNumberId ← optionalScalar "phone_number_id"
  return { displayPhoneNumber, phoneNumberId }

structure MediaRef where
  id : Option String
  link : Option String
  mimeType : Option String
  caption : Option String
  filename : Option String
deriving DecidableEq, Repr

namespace MediaRef

def record : Record MediaRef := do
  let id ← Record.optional "id" string?
  let link ← Record.optional "link" string?
  let mimeType ← Record.optional "mime_type" string?
  let caption ← Record.optional "caption" string?
  let filename ← Record.optional "filename" string?
  return { id, link, mimeType, caption, filename }

/-- An id is preferred to a link. -/
def source? (m : MediaRef) : Option MediaSource :=
  (m.id.bind Text.nonBlank).map .mediaId <|> (m.link.bind Text.nonBlank).map .url

def content (m : MediaRef) : MessageContent :=
  match m.source? with
  | none => .empty
  | some source =>
    .media
      { source
        contentType := m.mimeType.bind Text.nonBlank
        caption := m.caption.bind Text.nonBlank
        filename := m.filename.bind Text.nonBlank }

end MediaRef

/-- An error as providers report it: its title, or else its message. -/
def providerError : Record ProviderError := do
  let code ← optionalScalar "code"
  let title ← Record.optional "title" string?
  let message ← Record.optional "message" string?
  return { code := code.getD "", title := (title <|> message).getD "" }

/-- The title of the button or list entry that was chosen. -/
def chosenReply : Record (Option String) := do
  let button ← Record.optional "button_reply" (textOf? "title")
  let list ← Record.optional "list_reply" (textOf? "title")
  return (button <|> list).join

/-- An element of `messages`. -/
structure MessageEntry where
  id : String
  sender : Option String
  kind : String
  text : Option String
  image : Option MediaRef
  video : Option MediaRef
  audio : Option MediaRef
  voice : Option MediaRef
  document : Option MediaRef
  location : Option GeoLocation
  contacts : Option (List ContactCard)
  button : Option String
  interactive : Option String
  replyTo : Option String
  errors : List ProviderError

namespace MessageEntry

def record : Record MessageEntry := do
  let id ← Record.required "id" scalar?
  let sender ← optionalScalar "from"
  let kind ← Record.defaulted "type" "" string?
  let text ← Record.optional "text" (textOf? "body")
  let image ← Record.optional "image" MediaRef.record.decode
  let video ← Record.optional "video" MediaRef.record.decode
  let audio ← Record.optional "audio" MediaRef.record.decode
  let voice ← Record.optional "voice" MediaRef.record.decode
  let document ← Record.optional "document" MediaRef.record.decode
  let location ← Record.optional "location" place.decode
  let contacts ← Record.optional "contacts" (list? card.decode)
  let button ← Record.optional "button" (textOf? "text")
  let interactive ← Record.optional "interactive" chosenReply.decode
  let context ← Record.optional "context" (textOf? "id")
  let errors ← Record.defaulted "errors" [] (list? providerError.decode)
  return {
    id, sender, kind, image, video, audio, voice, document, location, contacts, errors
    text := text.join
    button := button.join
    interactive := interactive.join
    replyTo := context.join.bind Text.nonBlank }

def subtype (m : MessageEntry) : MessageSubtype :=
  match m.kind with
  | "voice" => .audio
  | kind => (MessageSubtype.ofName? kind).getD (.unsupported kind)

/-- Only the part that belongs to the subtype counts. -/
def content (m : MessageEntry) : MessageContent :=
  let media (ref : Option MediaRef) : MessageContent := (ref.map MediaRef.content).getD .empty
  match m.subtype with
  | .text => textContent m.text
  | .button => textContent m.button
  | .interactive => textContent m.interactive
  | .image => media m.image
  | .video => media m.video
  | .document => media m.document
  | .audio => media (m.audio <|> m.voice)
  | .location => (m.location.map .location).getD .empty
  | .contacts => .contacts (m.contacts.getD [])
  | .reaction | .unsupported _ => .empty

end MessageEntry

/-- An element of `statuses`. -/
structure StatusEntry where
  id : String
  report : StatusReport

def StatusEntry.record : Record StatusEntry := do
  let id ← Record.required "id" scalar?
  let status ← Record.required "status" string?
  let errors ← Record.defaulted "errors" [] (list? providerError.decode)
  return { id, report := { status, errors } }

structure BusinessValue where
  metadata : Option Metadata
  people : List Person
  messages : List Json
  statuses : List Json

namespace BusinessValue

def record : Record BusinessValue := do
  let metadata ← Record.defaulted "metadata" none (Record.nullable Metadata.record.decode)
  let people ← Record.defaulted "contacts" [] (list? Person.record.decode)
  let messages ← Record.defaulted "messages" [] (list? some)
  let statuses ← Record.defaulted "statuses" [] (list? some)
  return { metadata, people, messages, statuses }

def phoneNumberId? (v : BusinessValue) : Option String := v.metadata.bind (·.phoneNumberId)

/-- The first id that is not blank. -/
def firstWaId? (v : BusinessValue) : Option String :=
  v.people.findSome? (·.waId.bind Text.nonBlank)

/-- The name of the person with that id, or of the first person if nobody has it. -/
def profileName? (v : BusinessValue) (waId : Option String) : Option String :=
  let matching := waId.bind fun id => v.people.find? (·.waId = some id)
  (matching <|> v.people.head?).bind Person.name?

def messageEvent (v : BusinessValue) (provider : Provider) (raw : Json) (m : MessageEntry) : IncomingEvent :=
  let phone := m.sender.bind Text.nonBlank <|> v.firstWaId?
  { provider, raw
    sourceId := m.id
    sender := phone.map fun phone => { phone, name := v.profileName? phone }
    body := .message { subtype := m.subtype, content := m.content, replyTo := m.replyTo, errors := m.errors } }

def messageEvents (v : BusinessValue) (provider : Provider) : List IncomingEvent :=
  v.messages.filterMap fun raw => (MessageEntry.record.decode raw).map (v.messageEvent provider raw)

def statusEvents (v : BusinessValue) (provider : Provider) : List IncomingEvent :=
  v.statuses.filterMap fun raw => (StatusEntry.record.decode raw).map fun s =>
    { provider, raw, sourceId := s.id, sender := none, body := .status s.report }

def cardEvents (v : BusinessValue) (provider : Provider) : List IncomingEvent :=
  v.people.filterMap fun p => (p.waId.bind Text.nonBlank).map fun waId =>
    { provider
      sourceId := waId
      sender := some { phone := waId, name := p.name? }
      body := .contactCard
      raw := p.toJson }

def events (v : BusinessValue) (provider : Provider) : List IncomingEvent :=
  v.messageEvents provider ++ v.statusEvents provider ++
    if v.messages.isEmpty ∧ v.statuses.isEmpty then v.cardEvents provider else []

end BusinessValue

end Intake.Webhook
