import Intake.Snowflake.Basic
import Intake.Text.Blank

/-!
# Channels

A channel is one configured phone number of an account, served by one provider with credentials of its own. Its inbox
collects the conversations held over it.
-/

namespace Intake

inductive Provider where
  | cloud
  | gupshup
  | default
deriving DecidableEq, Repr, Inhabited

namespace Provider

def name : Provider → String
  | cloud => "whatsapp_cloud"
  | gupshup => "gupshup"
  | default => "default"

def ofName? : String → Option Provider
  | "whatsapp_cloud" | "cloud" => some cloud
  | "gupshup" => some gupshup
  | "default" => some default
  | _ => none

/-- Unknown names mean the default provider. -/
def ofName (s : String) : Provider := (ofName? s).getD default

end Provider

inductive AccountStatus where
  | active
  | suspended
deriving DecidableEq, Repr

namespace AccountStatus

def name : AccountStatus → String
  | active => "active"
  | suspended => "suspended"

def ofName? : String → Option AccountStatus
  | "active" => some active
  | "suspended" => some suspended
  | _ => none

/-- Unknown names mean a suspended account. -/
def ofName (s : String) : AccountStatus := (ofName? s).getD suspended

def isActive (s : AccountStatus) : Bool := s = active

end AccountStatus

/-- Provider settings of a channel, with distinct keys. -/
structure Credentials where
  entries : List (String × String)
deriving DecidableEq, Repr, Inhabited

namespace Credentials

def setEntry (key value : String) : List (String × String) → List (String × String)
  | [] => [(key, value)]
  | (k, v) :: es => if k = key then (key, value) :: es else (k, v) :: setEntry key value es

/-- The credentials with `key` set to `value`. -/
def set (c : Credentials) (key value : String) : Credentials :=
  ⟨setEntry key value c.entries⟩

def ofEntries (es : List (String × String)) : Credentials :=
  es.foldl (fun c e => c.set e.1 e.2) ⟨[]⟩

/-- The value under `key`; a blank value counts as none. -/
def get? (c : Credentials) (key : String) : Option String :=
  (c.entries.lookup key).filter fun v => Text.trim v ≠ ""

def apiKey? (c : Credentials) : Option String := c.get? "api_key"

def phoneNumberId? (c : Credentials) : Option String := c.get? "phone_number_id"

def appName? (c : Credentials) : Option String := c.get? "app_name"

/-- Flattens a JSON object: strings, numbers and truth values are kept as text, nested values are dropped. -/
def ofJson : Json → Credentials
  | .object ms => ofEntries <| ms.filterMap fun (key, value) =>
    match value with
    | .string s => some (key, s)
    | .number n => some (key, n.text)
    | .bool b => some (key, if b then "true" else "false")
    | _ => none
  | _ => ⟨[]⟩

end Credentials

structure Channel where
  id : Snowflake
  account : Snowflake
  provider : Provider
  phoneNumber : String
  credentials : Credentials
  reauthorizationRequired : Bool := false
  messageTemplates : Option Json := none
deriving Repr, Inhabited

namespace Channel

def hasPhoneNumberId (c : Channel) (id : String) : Bool :=
  c.credentials.phoneNumberId? = some id

end Channel

structure Inbox where
  id : Snowflake
  account : Snowflake
  channel : Snowflake
  name : String
  /-- All messages of a contact go to one conversation, resolved or not. -/
  lockToSingleConversation : Bool
deriving DecidableEq, Repr, Inhabited

end Intake
