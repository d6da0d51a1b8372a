import Intake.Message

/-!
# Attachments
-/

namespace Intake

inductive FileType where
  | image
  | audio
  | video
  | file
  | location
  | contact
deriving DecidableEq, Repr

namespace FileType

def name : FileType → String
  | image => "image"
  | audio => "audio"
  | video => "video"
  | file => "file"
  | location => "location"
  | contact => "contact"

def ofName? : String → Option FileType
  | "image" => some image
  | "audio" => some audio
  | "video" => some video
  | "file" => some file
  | "location" => some location
  | "contact" => some contact
  | _ => none

/-- Unknown names mean a plain file. -/
def ofName (s : String) : FileType := (ofName? s).getD file

end FileType

inductive AttachmentPayload where
  | file (filename contentType : String) (data : List UInt8)
  | location (latitude longitude : Double) (title : String) (externalUrl : Option String)
  | fallback (title : String)
deriving DecidableEq, Repr

structure Attachment where
  id : Snowflake
  message : Snowflake
  account : Snowflake
  fileType : FileType
  payload : AttachmentPayload
deriving DecidableEq, Repr

namespace Attachment

/-- An attachment of a message belongs to the message's account. -/
def ofMessage (id : Snowflake) (m : Message) (fileType : FileType) (payload : AttachmentPayload) : Attachment :=
  { id, message := m.id, account := m.account, fileType, payload }

def byteLength (a : Attachment) : Nat :=
  match a.payload with
  | .file _ _ data => data.length
  | _ => 0

def fallbackTitle? (a : Attachment) : Option String :=
  match a.payload with
  | .location _ _ title _ | .fallback title => some title
  | .file .. => none

end Attachment

/-- The content type of data that says nothing about itself. -/
def defaultContentType : String := "application/octet-stream"

end Intake
