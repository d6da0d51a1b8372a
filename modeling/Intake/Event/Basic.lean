import Intake.Attachment

/-!
# Events

What a delivery says, in one form for all providers: a message, a delivery report on an earlier message, or a contact
card that only announces a contact.
-/

namespace Intake

inductive MessageSubtype where
  | text
  | image
  | document
  | video
  | audio
  | location
  | contacts
  | button
  | interactive
  | reaction
  /-- A kind that is not handled, under the provider's name for it. -/
  | unsupported (kind : String)
deriving DecidableEq, Repr

namespace MessageSubtype

def name : MessageSubtype → String
  | text => "text"
  | image => "image"
  | document => "document"
  | video => "video"
  | audio => "audio"
  | location => "location"
  | contacts => "contacts"
  | button => "button"
  | interactive => "interactive"
  | reaction => "reaction"
  | unsupported kind => kind

/-- The handled subtype of that name. -/
def ofName? : String → Option MessageSubtype
  | "text" => some text
  | "image" => some image
  | "document" => some document
  | "video" => some video
  | "audio" => some audio
  | "location" => some location
  | "contacts" => some contacts
  | "button" => some button
  | "interactive" => some interactive
  | "reaction" => some reaction
  | _ => none

/-- Reactions and unsupported kinds never become records. -/
def isProcessable : MessageSubtype → Bool
  | reaction | unsupported _ => false
  | _ => true

/-- Subtypes whose content is no file. -/
def skipsMediaFetch : MessageSubtype → Bool
  | text | button | interactive | location | contacts => true
  | _ => false

def fileType : MessageSubtype → FileType
  | image => .image
  | audio => .audio
  | video => .video
  | location => .location
  | contacts => .contact
  | _ => .file

end MessageSubtype

inductive MediaSource where
  /-- A link to the file itself. -/
  | url (url : String)
  /-- A handle that the provider resolves. -/
  | mediaId (id : String)
deriving DecidableEq, Repr

def MediaSource.text : MediaSource → String
  | url s | mediaId s => s

structure MediaDescriptor where
  source : MediaSource
  contentType : Option String
  caption : Option String
  filename : Option String
deriving DecidableEq, Repr

structure GeoLocation where
  latitude : Double
  longitude : Double
  name : Option String
  address : Option String
  url : Option String
deriving DecidableEq, Repr

namespace GeoLocation

def label (l : GeoLocation) : String :=
  match l.name, l.address with
  | some name, some address => name ++ ", " ++ address
  | some name, none => name
  | none, some address => address
  | none, none => "Location"

end GeoLocation

structure ContactCard where
  name : Option String
  phones : List String
deriving DecidableEq, Repr

inductive MessageContent where
  | text (body : String)
  | media (media : MediaDescriptor)
  | location (location : GeoLocation)
  | contacts (cards : List ContactCard)
  | empty
deriving DecidableEq, Repr

namespace MessageContent

/-- The text to show: a body or a caption, unless it is blank. -/
def text? (c : MessageContent) : Option String :=
  (match c with
    | text body => some body
    | media m => m.caption
    | _ => none).filter fun t => Text.trim t ≠ ""

/-- Stands in for the text of a message that has none. -/
def placeholder : String := "Attachment"

def textOrPlaceholder (c : MessageContent) : String := c.text?.getD placeholder

end MessageContent

structure ProviderError where
  code : String
  title : String
deriving DecidableEq, Repr

namespace ProviderError

def diagnostic (e : ProviderError) : String := e.code ++ ": " ++ e.title

end ProviderError

structure InboundMessage where
  subtype : MessageSubtype
  content : MessageContent
  replyTo : Option String
  errors : List ProviderError
deriving DecidableEq, Repr

namespace InboundMessage

def isErrorEvent (m : InboundMessage) : Bool := !m.errors.isEmpty

end InboundMessage

structure StatusReport where
  status : String
  errors : List ProviderError
deriving DecidableEq, Repr

inductive EventBody where
  | message (message : InboundMessage)
  | status (report : StatusReport)
  | contactCard
deriving DecidableEq, Repr

structure IncomingEvent where
  provider : Provider
  /-- The provider's id of what the event is about; redeliveries repeat it. -/
  sourceId : String
  sender : Option Sender
  body : EventBody
  /-- The part of the delivery that the event was read from. -/
  raw : Json
deriving Repr

inductive EventKind where
  | message
  | status
  | contactCard
deriving DecidableEq, Repr

namespace EventKind

def name : EventKind → String
  | message => "message"
  | status => "status"
  | contactCard => "contact_card"

def ofName? : String → Option EventKind
  | "message" => some message
  | "status" => some status
  | "contact_card" => some contactCard
  | _ => none

end EventKind

def EventBody.kind : EventBody → EventKind
  | message _ => .message
  | status _ => .status
  | contactCard => .contactCard

end Intake
