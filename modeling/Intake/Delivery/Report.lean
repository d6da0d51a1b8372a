import Intake.Event.Basic

/-!
# Reports

What became of a delivery: either it was skipped as a whole, or every event has an outcome, in the order of the events.
-/

namespace Intake

inductive DropReason where
  | channelNotFound
  | channelInactive
  | unprocessable (subtype : String)
  | providerErrorEvent
  | missingSender
  | inFlight
  | duplicate
  | unknownMessage
  | invalidStatus (status : String)
  | storeUnavailable
deriving DecidableEq, Repr

namespace DropReason

def name : DropReason → String
  | channelNotFound => "channel_not_found"
  | channelInactive => "channel_inactive"
  | unprocessable _ => "unprocessable"
  | providerErrorEvent => "provider_error_event"
  | missingSender => "missing_sender"
  | inFlight => "in_flight"
  | duplicate => "duplicate"
  | unknownMessage => "unknown_message"
  | invalidStatus _ => "invalid_status"
  | storeUnavailable => "store_unavailable"

def detail? : DropReason → Option String
  | unprocessable subtype => some subtype
  | invalidStatus status => some status
  | _ => none

def fields (r : DropReason) : List (String × Json) :=
  ("reason", .string r.name) :: (r.detail?.map fun d => ("detail", .string d)).toList

end DropReason

inductive EventOutcome where
  | messageCreated (sourceId : String) (messages : List Snowflake) (attachments : Nat)
  | statusUpdated (sourceId : String) (status : MessageStatus)
  | contactResolved (sourceId : String) (contact : Snowflake)
  | dropped (sourceId : String) (reason : DropReason)
deriving DecidableEq, Repr

/-- How ids are written. -/
structure IdWriter where
  channel : Snowflake → Json := Snowflake.toJson
  message : Snowflake → Json := Snowflake.toJson
  contact : Snowflake → Json := Snowflake.toJson

namespace EventOutcome

def sourceId : EventOutcome → String
  | messageCreated s .. | statusUpdated s _ | contactResolved s _ | dropped s _ => s

def toJsonWith (w : IdWriter) : EventOutcome → Json
  | messageCreated source messages attachments =>
    .object
      [("outcome", .string "message_created"), ("source_id", .string source),
        ("message_ids", .array (messages.map w.message)), ("attachments", .ofNat attachments)]
  | statusUpdated source status =>
    .object
      [("outcome", .string "status_updated"), ("source_id", .string source), ("status", .string status.name)]
  | contactResolved source contact =>
    .object
      [("outcome", .string "contact_resolved"), ("source_id", .string source), ("contact_id", w.contact contact)]
  | dropped source reason =>
    .object ([("outcome", .string "dropped"), ("source_id", .string source)] ++ reason.fields)

end EventOutcome

structure IngestReport where
  channel : Option Snowflake
  skipped : Option DropReason
  outcomes : List EventOutcome
deriving DecidableEq, Repr

namespace IngestReport

def skip (reason : DropReason) : IngestReport :=
  { channel := none, skipped := some reason, outcomes := [] }

def ofChannel (channel : Snowflake) (outcomes : List EventOutcome) : IngestReport :=
  { channel := some channel, skipped := none, outcomes }

def createdMessages (r : IngestReport) : List Snowflake :=
  r.outcomes.flatMap fun
    | .messageCreated _ messages _ => messages
    | _ => []

/-- The fields of a report; a channel or a skip that is not there is left out. -/
def fieldsWith (w : IdWriter) (r : IngestReport) : List (String × Json) :=
  (r.channel.map fun c => ("channel_id", w.channel c)).toList ++
    (r.skipped.map fun s => ("skipped", .object s.fields)).toList ++
    [("outcomes", .array (r.outcomes.map (·.toJsonWith w)))]

def toJson (r : IngestReport) : Json := .object (r.fieldsWith {})

end IngestReport

end Intake
