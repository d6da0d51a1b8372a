import Intake.Event.Codec
import Intake.Number.Reading

/-!
# Lenient values

Providers do not agree on whether ids, codes and coordinates are quoted. Ids are text, so a number is taken as its plain
decimal text, exactly if it fits a signed word and as the nearest double otherwise; coordinates are doubles.
-/

namespace Intake.Webhook

open Json

def scalar? : Json → Option String
  | .string s => some s
  | .number (.integer i) => some (if i < 0x8000000000000000 then toString i else (Double.ofInt i).text)
  | .number (.decimal d) => some d.text
  | _ => none

def coordinate? : Json → Option Double
  | .number n => some n.toDouble
  | .string s => Double.ofText? (Text.trim s)
  | _ => none

/-- A scalar that may be absent or null. -/
def optionalScalar (name : String) : Record (Option String) :=
  Record.defaulted name none (Record.nullable scalar?)

/-- A record of which only one text is wanted. -/
def textOf? (name : String) : Json → Option (Option String) :=
  (Record.optional name string?).decode

/-- Text content, unless it is blank. -/
def textContent (body : Option String) : MessageContent :=
  ((body.bind Text.nonBlank).map .text).getD .empty

/-- The latitude, longitude, name, address and link of a place. -/
def place : Record GeoLocation := do
  let latitude ← Record.required "latitude" coordinate?
  let longitude ← Record.required "longitude" coordinate?
  let name ← Record.optional "name" string?
  let address ← Record.optional "address" string?
  let url ← Record.optional "url" string?
  return {
    latitude, longitude
    name := name.bind Text.nonBlank
    address := address.bind Text.nonBlank
    url := url.bind Text.nonBlank }

/-- A shared contact's name: the formatted name, else first and last name. -/
def cardName : Record (Option String) := do
  let formatted ← Record.optional "formatted_name" string?
  let first ← Record.optional "first_name" string?
  let last ← Record.optional "last_name" string?
  return formatted.bind Text.nonBlank <|> Text.nonBlank (" ".intercalate ([first, last].filterMap id))

def card : Record ContactCard := do
  let name ← Record.optional "name" cardName.decode
  let phones ← Record.defaulted "phones" [] (list? (optionalScalar "phone").decode)
  return { name := name.join, phones := phones.filterMap (·.bind Text.nonBlank) }

end Intake.Webhook
