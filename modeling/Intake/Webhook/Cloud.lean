import Intake.Webhook.Business

/-!
# The cloud envelope

`entry[].changes[].value`, each a business value. An account may batch values for several of its numbers; those that
are addressed to another number than the channel's are left out.
-/

namespace Intake.Webhook

open Json

/-- The business values of an envelope in document order. -/
structure CloudEnvelope where
  values : List BusinessValue

namespace CloudEnvelope

def change : Record BusinessValue := do
  let _ ← Record.defaulted "field" none (Record.nullable string?)
  Record.required "value" BusinessValue.record.decode

def entry : Record (List BusinessValue) :=
  Record.defaulted "changes" [] (list? change.decode)

def record : Record CloudEnvelope := do
  let _ ← Record.defaulted "object" none (Record.nullable string?)
  let entries ← Record.defaulted "entry" [] (list? entry.decode)
  return { values := entries.flatten }

/-- Whether a value is for the channel with that number id; where either side has none, it is. -/
def isFor (phoneNumberId : Option String) (v : BusinessValue) : Bool :=
  match phoneNumberId, v.phoneNumberId? with
  | some expected, some actual => expected = actual
  | _, _ => true

def events (e : CloudEnvelope) (phoneNumberId : Option String) : List IncomingEvent :=
  (e.values.filter (isFor phoneNumberId)).flatMap (·.events .cloud)

end CloudEnvelope

end Intake.Webhook
