import Intake.Delivery.Program
import Intake.Job.Basic

/-!
# Routing

Which channel a job is for. Its shape decides by what: the name of the provider's app, the number and number id in the
metadata of the first business value, or the phone number in the address that it was posted to. A channel receives
nothing while it waits for reauthorization, while its account is not active, or without an inbox.
-/

namespace Intake

open Json

structure ResolvedChannel where
  channel : Channel
  inbox : Inbox
deriving Repr

inductive Resolution where
  | active (target : ResolvedChannel)
  | notFound
  | inactive (channel : Channel)
deriving Repr

namespace Routing

/-- An array index as part of a path has no sign and no superfluous zero. -/
def index? (token : String) : Option Nat :=
  match token.toList with
  | '0' :: _ :: _ => none
  | ds => Digits.unsigned? ds

def child? (token : String) : Json → Option Json
  | .object ms => ms.lookup token
  | .array xs => (index? token).bind (xs[·]?)
  | _ => none

def descendant? : List String → Json → Option Json
  | [], j => some j
  | token :: path, j => (child? token j).bind (descendant? path)

/-- The trimmed name of the provider's app, unless it is blank. -/
def appName? (payload : Json) : Option String :=
  ((payload.get? "app").bind string?).bind Text.nonBlank

/-- An id in the metadata: text that is not blank, or a number as it is written in JSON. -/
def metadataText? : Json → Option String
  | .string s => Text.nonBlank s
  | .number n => some n.text
  | _ => none

/-- The display number and the number id of the first business value. -/
def businessNumber? (payload : Json) : Option (String × String) := do
  let metadata ← descendant? ["entry", "0", "changes", "0", "value", "metadata"] payload
  let display ← (metadata.get? "display_phone_number").bind metadataText?
  let id ← (metadata.get? "phone_number_id").bind metadataText?
  some (display, id)

def findChannel (job : WebhookJob) : Attempt (Option Channel) :=
  match job.effectiveShape with
  | .gupshup =>
    match appName? job.payload with
    | some app => Ask.findGupshupChannel app
    | none => pure none
  | .businessAccount =>
    match businessNumber? job.payload with
    | some (display, id) => do
      let channel ← Ask.findChannelByPhone ("+" ++ Text.dropLeading '+' display)
      return channel.filter (·.hasPhoneNumberId id)
    | none => pure none
  | .direct =>
    match job.phoneNumber.bind phoneDigits? with
    | some digits => Ask.findChannelByPhone ("+" ++ digits)
    | none => pure none

def resolve (job : WebhookJob) : Attempt Resolution := do
  match ← findChannel job with
  | none => return .notFound
  | some channel =>
    if channel.reauthorizationRequired then return .inactive channel
    else if !(← Ask.accountStatus channel.account).isActive then return .inactive channel
    else match ← Ask.findInbox channel.id with
      | some inbox => return .active { channel, inbox }
      | none => return .notFound

end Routing

end Intake
