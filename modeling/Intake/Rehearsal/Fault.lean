import Intake.Delivery.Program

/-!
# Faults

Requests have names. A fault lets a number of requests of one name pass and then refuses some.
-/

namespace Intake

namespace Request

def name : Request → String
  | findChannelByPhone _ => "channel.find_by_phone_number"
  | findGupshupChannel _ => "channel.find_gupshup_by_app_name"
  | accountStatus _ => "channel.account_status"
  | findInbox _ => "channel.find_inbox"
  | tryClaim .. => "guard.try_claim"
  | release .. => "guard.release"
  | findMessage .. => "message.find_by_source_id"
  | createMessage _ => "message.create"
  | updateStatus .. => "message.update_status"
  | upsertContact _ => "contact.upsert"
  | findConversation .. => "conversation.find_latest"
  | createConversation _ => "conversation.create"
  | createAttachment _ => "attachment.create"
  | fetch .. => "fetch"
  | newId => "id"
  | now => "clock"
  | pause _ => "pause"

/-- What the request is about, where that is worth telling. -/
def subject : Request → String
  | findChannelByPhone phoneNumber => phoneNumber
  | findGupshupChannel appName => appName
  | accountStatus _ | findInbox _ => ""
  | tryClaim _ sourceId | release _ sourceId => sourceId
  | findMessage _ sourceId => sourceId
  | createMessage m => m.sourceId
  | updateStatus _ status _ => status.name
  | upsertContact contact => contact.sourceId
  | findConversation _ filter => filter.name
  | createConversation c => c.status.name
  | createAttachment a => a.fileType.name
  | fetch _ media => media.source.text
  | newId | now | pause _ => ""

/-- Whether the request leaves the process. -/
def isCall : Request → Bool
  | newId | now | pause _ => false
  | _ => true

/-- The reply that refuses a request, if it can be refused. -/
def refusal? (error : DomainError) : (r : Request) → Option r.Reply
  | findChannelByPhone _ => some (.error error)
  | findGupshupChannel _ => some (.error error)
  | accountStatus _ => some (.error error)
  | findInbox _ => some (.error error)
  | tryClaim .. => some (.error error)
  | release .. => some (.error error)
  | findMessage .. => some (.error error)
  | createMessage _ => some (.error error)
  | updateStatus .. => some (.error error)
  | upsertContact _ => some (.error error)
  | findConversation .. => some (.error error)
  | createConversation _ => some (.error error)
  | createAttachment _ => some (.error error)
  | fetch .. | newId | now | pause _ => none

end Request

structure Fault where
  request : String
  /-- How many requests pass before it strikes. -/
  skip : Nat := 0
  /-- How many requests it refuses then. -/
  times : Nat := 1
  error : DomainError
deriving Repr

namespace Fault

/-- The faults after one request of that name, and the error if the request is refused. -/
def take (name : String) : List Fault → Option DomainError × List Fault
  | [] => (none, [])
  | f :: fs =>
    if f.request = name then
      if f.skip ≠ 0 then (none, { f with skip := f.skip - 1 } :: fs)
      else if f.times ≠ 0 then (some f.error, { f with times := f.times - 1 } :: fs)
      else (none, f :: fs)
    else
      let (error, fs) := take name fs
      (error, f :: fs)

/-- Sets a fault in place of an earlier one for the same requests. -/
def set (fault : Fault) (faults : List Fault) : List Fault :=
  fault :: faults.filter (·.request ≠ fault.request)

end Fault

end Intake
