import Intake.Conversation
import Intake.Error

/-!
# Messages
-/

namespace Intake

inductive MessageDirection where
  | incoming
  | outgoing
deriving DecidableEq, Repr

namespace MessageDirection

def name : MessageDirection → String
  | incoming => "incoming"
  | outgoing => "outgoing"

def ofName? : String → Option MessageDirection
  | "incoming" => some incoming
  | "outgoing" => some outgoing
  | _ => none

/-- Unknown names mean an incoming message. -/
def ofName (s : String) : MessageDirection := (ofName? s).getD incoming

end MessageDirection

inductive MessageStatus where
  | sent
  | delivered
  | read
  | failed
deriving DecidableEq, Repr

namespace MessageStatus

def name : MessageStatus → String
  | sent => "sent"
  | delivered => "delivered"
  | read => "read"
  | failed => "failed"

def ofName? : String → Option MessageStatus
  | "sent" => some sent
  | "delivered" => some delivered
  | "read" => some read
  | "failed" => some failed
  | _ => none

def parse (s : String) : Except DomainError MessageStatus :=
  match ofName? s with
  | some status => .ok status
  | none => .error (.invalidStatus s)

theorem ofName?_name (s : MessageStatus) : ofName? s.name = some s := by cases s <;> rfl

end MessageStatus

structure Message where
  id : Snowflake
  account : Snowflake
  inbox : Snowflake
  conversation : Snowflake
  sender : Option Snowflake
  direction : MessageDirection
  content : String
  sourceId : String
  inReplyTo : Option String
  status : MessageStatus
  externalError : Option String
  createdAt : Time
deriving DecidableEq, Repr

namespace Message

/-- A message as it arrives: sent, and without an error. -/
def incoming (id account inbox conversation sender : Snowflake) (content sourceId : String)
    (inReplyTo : Option String) (createdAt : Time) : Message :=
  { id, account, inbox, conversation, content, sourceId, inReplyTo, createdAt
    sender := some sender
    direction := .incoming
    status := .sent
    externalError := none }

/-- Takes over a delivery status; an error once reported stays until another one is. -/
def applyStatus (m : Message) (status : MessageStatus) (externalError : Option String) : Message :=
  { m with status, externalError := externalError <|> m.externalError }

end Message

end Intake
