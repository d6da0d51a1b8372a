import Intake.Event.Codec
import Intake.Error
import Intake.Json.Reader

/-!
# Jobs

A job is one delivery to be handled: its payload, optionally its shape, and the phone number in the address that it was
posted to. Jobs come one per line of text.
-/

namespace Intake

open Json

/-- How a payload says which channel it is for. -/
inductive PayloadShape where
  | gupshup
  | businessAccount
  | direct
deriving DecidableEq, Repr

namespace PayloadShape

def name : PayloadShape → String
  | gupshup => "gupshup"
  | businessAccount => "business_account"
  | direct => "direct"

def ofName? : String → Option PayloadShape
  | "gupshup" => some gupshup
  | "business_account" => some businessAccount
  | "direct" => some direct
  | _ => none

def ofJson? (j : Json) : Option PayloadShape := (name? false j).bind ofName?

/-- A payload inside the payload that has an id is Gupshup's; a business account names itself; all others are direct. -/
def detect (payload : Json) : PayloadShape :=
  match payload.get? "payload" with
  | some (.object inner) => if (inner.lookup "id").isSome then gupshup else ofObject payload
  | _ => ofObject payload
where
  ofObject (payload : Json) : PayloadShape :=
    if (payload.get? "object").bind string? = some "whatsapp_business_account" then businessAccount else direct

end PayloadShape

structure WebhookJob where
  shape : Option PayloadShape
  payload : Json
  phoneNumber : Option String

namespace WebhookJob

def ofPayload (payload : Json) : WebhookJob :=
  { shape := none, payload, phoneNumber := none }

def withPhoneNumber (j : WebhookJob) (phoneNumber : String) : WebhookJob :=
  { j with phoneNumber := some phoneNumber }

/-- The shape that was given, or else the one that the payload shows. -/
def effectiveShape (j : WebhookJob) : PayloadShape := j.shape.getD (.detect j.payload)

def record : Record WebhookJob := do
  let shape ← Record.defaulted "shape" none (Record.nullable PayloadShape.ofJson?)
  let payload ← Record.required "payload" some
  let phoneNumber ← Record.defaulted "phone_number" none (Record.nullable string?)
  return { shape, payload, phoneNumber }

def ofJson? : Json → Option WebhookJob := record.decode

def parse? (line : String) : Option WebhookJob :=
  (parseRecord [("shape", .name), ("payload", .any), ("phone_number", .scalar)] line).bind ofJson?

/-- Reads a line; what cannot be read is an invalid job. -/
def parse (line : String) : Except ServiceError WebhookJob :=
  match parse? line with
  | some job => .ok job
  | none => .error (.invalidJob "unreadable line")

end WebhookJob

end Intake
