import Intake.Webhook.Cloud
import Intake.Webhook.Gupshup

/-!
# Payloads of all providers

`normalize` is the one way from a delivery to its events. A payload that does not have its provider's layout has none.
-/

namespace Intake.Webhook

open Json

/-- Facts about a delivery besides its payload. -/
structure Context where
  /-- The phone number in the address that the delivery was posted to. -/
  urlPhoneNumber : Option String := none
  /-- The number id of the channel that it is for. -/
  phoneNumberId : Option String := none

inductive Payload where
  | cloud (envelope : CloudEnvelope)
  | gupshup (envelope : GupshupEnvelope)
  | default (value : BusinessValue)

namespace Payload

def parse? (provider : Provider) (payload : Json) : Option Payload :=
  match provider with
  | .cloud => (CloudEnvelope.record.decode payload).map cloud
  | .gupshup => (GupshupEnvelope.record.decode payload).map gupshup
  | .default => (BusinessValue.record.decode payload).map default

def provider : Payload → Provider
  | cloud _ => .cloud
  | gupshup _ => .gupshup
  | default _ => .default

def events (p : Payload) (ctx : Context) : List IncomingEvent :=
  match p with
  | cloud e => e.events ctx.phoneNumberId
  | gupshup e => e.events ctx.urlPhoneNumber
  | default v => v.events .default

end Payload

def normalize (provider : Provider) (payload : Json) (ctx : Context) : List IncomingEvent :=
  match Payload.parse? provider payload with
  | some p => p.events ctx
  | none => []

end Intake.Webhook
