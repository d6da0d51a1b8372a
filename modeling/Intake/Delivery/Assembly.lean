import Intake.Error
import Intake.Snowflake.Generator

/-!
# Assembly

Deliveries can be handled once every part is there: the five tables, the guard, the fetcher and the source of ids.
-/

namespace Intake

inductive Part where
  | channels
  | contacts
  | conversations
  | messages
  | attachments
  | guard
  | fetcher
  | ids
deriving DecidableEq, Repr

namespace Part

/-- All parts, in the order in which they are asked for. -/
def all : List Part := [channels, contacts, conversations, messages, attachments, guard, fetcher, ids]

def name : Part → String
  | channels => "channel_repo"
  | contacts => "contact_repo"
  | conversations => "conversation_repo"
  | messages => "message_repo"
  | attachments => "attachment_repo"
  | guard => "dedup_guard"
  | fetcher => "fetcher"
  | ids => "snowflake_generator"

def ofName? (name : String) : Option Part := all.find? (·.name = name)

end Part

structure Assembly where
  ids : Snowflake.Generator

namespace Assembly

/-- Puts the parts together; the first missing one is reported. -/
def ofParts (parts : List Part) (ids : Snowflake.Generator) : Except IngestError Assembly :=
  match Part.all.find? (!parts.contains ·) with
  | some p => .error (.validation (p.name ++ " is required"))
  | none => .ok { ids }

/-- The assembly in a log; the tables are not shown. -/
def describe (a : Assembly) : String :=
  "IngestContext \x7b repositories: \"...\", worker_id: " ++ toString a.ids.worker ++ " \x7d"

end Assembly

end Intake
