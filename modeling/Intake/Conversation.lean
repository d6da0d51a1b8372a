import Intake.Contact

/-!
# Conversations
-/

namespace Intake

/-- Milliseconds since 1970. -/
abbrev Time := Int

inductive ConversationStatus where
  | open
  | resolved
  | pending
  | snoozed
deriving DecidableEq, Repr

namespace ConversationStatus

def name : ConversationStatus → String
  | .open => "open"
  | .resolved => "resolved"
  | .pending => "pending"
  | .snoozed => "snoozed"

def ofName? : String → Option ConversationStatus
  | "open" => some .open
  | "resolved" => some .resolved
  | "pending" => some .pending
  | "snoozed" => some .snoozed
  | _ => none

/-- Unknown names mean an open conversation. -/
def ofName (s : String) : ConversationStatus := (ofName? s).getD .open

end ConversationStatus

structure Conversation where
  id : Snowflake
  account : Snowflake
  inbox : Snowflake
  contact : Snowflake
  contactInbox : Snowflake
  status : ConversationStatus
  createdAt : Time
deriving DecidableEq, Repr

namespace Conversation

def isResolved (c : Conversation) : Bool := c.status = .resolved

/-- Whether `c` is at most as recent as `d`: by creation, then by id. -/
def notAfter (c d : Conversation) : Bool :=
  c.createdAt < d.createdAt || (c.createdAt = d.createdAt && c.id.toInt ≤ d.id.toInt)

/-- The most recent conversation; of equals the last. -/
def latest? : List Conversation → Option Conversation
  | [] => none
  | c :: cs => some (cs.foldl (fun best d => if best.notAfter d then d else best) c)

end Conversation

/-- Which conversations a new message may join. -/
inductive ConversationFilter where
  | any
  | unresolved
deriving DecidableEq, Repr

namespace ConversationFilter

def name : ConversationFilter → String
  | any => "any"
  | unresolved => "unresolved"

def admits : ConversationFilter → Conversation → Bool
  | any, _ => true
  | unresolved, c => !c.isResolved

end ConversationFilter

end Intake
