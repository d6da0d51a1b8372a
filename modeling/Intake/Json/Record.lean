import Intake.Json.Basic

/-!
# Records in JSON

A record may be written as an object, by field name, or as an array, by position. `Record` is a program that reads the
fields in the order of their declaration. In an object unknown fields are ignored, and a field may be missing if it is
`optional` or `defaulted`; in an array only `defaulted` fields at the end may be missing, and nothing may be left over.
-/

namespace Intake.Json

/-- What is still to be read of a record. -/
inductive Source where
  | named (members : List (String × Json))
  | positional (items : List Json)

abbrev Record (α : Type) := StateT Source Option α

namespace Record

variable {α β : Type}

/-- Reads the next field. One that is missing counts as `absent` in an object, and as `short` at the end of an array. -/
def field (name : String) (decode : Json → Option α) (absent short : Option α) : Record α
  | .named ms =>
    match ms.lookup name with
    | some v => (decode v).map (·, .named ms)
    | none => absent.map (·, .named ms)
  | .positional (x :: xs) => (decode x).map (·, .positional xs)
  | .positional [] => short.map (·, .positional [])

def required (name : String) (decode : Json → Option α) : Record α :=
  field name decode none none

def defaulted (name : String) (default : α) (decode : Json → Option α) : Record α :=
  field name decode (some default) (some default)

def nullable (decode : Json → Option α) : Json → Option (Option α)
  | .null => some none
  | j => (decode j).map some

def optional (name : String) (decode : Json → Option α) : Record (Option α) :=
  field name (nullable decode) (some none) none

def decode (record : Record α) : Json → Option α
  | .object ms => (record.run (.named ms)).map (·.1)
  | .array xs =>
    match record.run (.positional xs) with
    | some (a, .positional []) => some a
    | _ => none
  | _ => none

end Record

/-- The items of an array, all of which must be readable. -/
def list? {α : Type} (decode : Json → Option α) : Json → Option (List α)
  | .array xs => xs.mapM decode
  | _ => none

def integer? : Json → Option Int
  | .number (.integer i) => some i
  | _ => none

def bool? : Json → Option Bool
  | .bool b => some b
  | _ => none

/-- Any number, as a double. -/
def double? : Json → Option Double
  | .number n => some n.toDouble
  | _ => none

end Intake.Json
