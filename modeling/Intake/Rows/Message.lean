import Intake.Attachment

/-!
# Messages and attachments as rows

In the durable tables words stand for the enumerations, and the payload of an attachment is spread over columns that may
be empty: data for a file, coordinates for a place, and only a title for all else.
-/

namespace Intake

structure MessageRow where
  id : Snowflake
  account : Snowflake
  inbox : Snowflake
  conversation : Snowflake
  sender : Option Snowflake
  direction : String
  content : String
  sourceId : String
  inReplyTo : Option String
  status : String
  externalError : Option String
  createdAt : Time
deriving DecidableEq, Repr

/-- Reads a row; an unknown status means sent. -/
def MessageRow.toMessage (r : MessageRow) : Message :=
  { id := r.id
    account := r.account
    inbox := r.inbox
    conversation := r.conversation
    sender := r.sender
    direction := .ofName r.direction
    content := r.content
    sourceId := r.sourceId
    inReplyTo := r.inReplyTo
    status := (MessageStatus.ofName? r.status).getD .sent
    externalError := r.externalError
    createdAt := r.createdAt }

def Message.toRow (m : Message) : MessageRow :=
  { id := m.id
    account := m.account
    inbox := m.inbox
    conversation := m.conversation
    sender := m.sender
    direction := m.direction.name
    content := m.content
    sourceId := m.sourceId
    inReplyTo := m.inReplyTo
    status := m.status.name
    externalError := m.externalError
    createdAt := m.createdAt }

structure AttachmentRow where
  id : Snowflake
  message : Snowflake
  account : Snowflake
  fileType : String
  filename : Option String := none
  contentType : Option String := none
  data : Option (List UInt8) := none
  latitude : Option Double := none
  longitude : Option Double := none
  fallbackTitle : Option String := none
  externalUrl : Option String := none
deriving DecidableEq, Repr

namespace AttachmentRow

/-- Data wins over coordinates, and half a pair of coordinates counts for nothing. -/
def payload (r : AttachmentRow) : AttachmentPayload :=
  match r.data, r.latitude, r.longitude with
  | some data, _, _ => .file (r.filename.getD "") (r.contentType.getD defaultContentType) data
  | none, some latitude, some longitude =>
    .location latitude longitude (r.fallbackTitle.getD "") r.externalUrl
  | _, _, _ => .fallback (r.fallbackTitle.getD "")

def toAttachment (r : AttachmentRow) : Attachment :=
  { id := r.id
    message := r.message
    account := r.account
    fileType := .ofName r.fileType
    payload := r.payload }

end AttachmentRow

def Attachment.toRow (a : Attachment) : AttachmentRow :=
  let row : AttachmentRow :=
    { id := a.id, message := a.message, account := a.account, fileType := a.fileType.name }
  match a.payload with
  | .file filename contentType data =>
    { row with filename := some filename, contentType := some contentType, data := some data }
  | .location latitude longitude title externalUrl =>
    { row with latitude := some latitude, longitude := some longitude, fallbackTitle := some title, externalUrl }
  | .fallback title => { row with fallbackTitle := some title }

end Intake
