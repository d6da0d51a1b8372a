import Intake.Settings.Basic
import Intake.Text.Blank
import Intake.Text.Digits

/-!
# Settings from variables

Every variable but the address of the database has a default. Numbers are unsigned words of 64 bits; settings that are
narrower keep their low bits.
-/

namespace Intake.Settings

/-- Where variables are looked up. -/
abbrev Lookup := String → Option String

namespace Lookup

/-- A number of 64 bits, with spaces around it ignored. -/
def number? (text : String) : Option UInt64 :=
  ((Digits.nat? (Text.trimList text.toList)).filter (· < 0x10000000000000000)).map UInt64.ofNat

def number (lookup : Lookup) (name : String) : Except SettingsError (Option UInt64) :=
  match lookup name with
  | none => .ok none
  | some text =>
    match number? text with
    | some n => .ok (some n)
    | none => .error (.invalid name text)

/-- The number of this process among all that make ids. -/
def worker (lookup : Lookup) : Except SettingsError Nat := do
  match ← number lookup "WORKER_ID" with
  | none => return 0
  | some id => if 1024 ≤ id then throw (.invalid "WORKER_ID" (toString id)) else return id.toNat

def database (lookup : Lookup) : Except SettingsError DatabaseSettings := do
  match lookup "DATABASE_URL" with
  | none => throw (.missing "DATABASE_URL")
  | some url =>
    let max ← number lookup "DATABASE_MAX_CONNECTIONS"
    let min ← number lookup "DATABASE_MIN_CONNECTIONS"
    let usual : DatabaseSettings := { url }
    return { usual with
      maxConnections := (max.map UInt64.toUInt32).getD usual.maxConnections
      minConnections := (min.map UInt64.toUInt32).getD usual.minConnections }

/-- A blank address means that there is no key server. -/
def keyServer (lookup : Lookup) : Except SettingsError (Option KeyServerSettings) := do
  match (lookup "REDIS_URL").filter fun url => Text.trim url ≠ "" with
  | none => return none
  | some url =>
    let max ← number lookup "REDIS_MAX_CONNECTIONS"
    let usual : KeyServerSettings := { url }
    return some { usual with maxConnections := (max.map UInt64.toUInt32).getD usual.maxConnections }

/-- Names of environments are recognized in any case; an unknown one means development. -/
def environment (lookup : Lookup) : Environment :=
  ((lookup "APP_ENV").bind fun name => Environment.ofName? name.toLower).getD .development

end Lookup

/-- Reads the settings; the first error wins. -/
def ofLookup (lookup : Lookup) : Except SettingsError Settings := do
  let worker ← lookup.worker
  let database ← lookup.database
  let keyServer ← lookup.keyServer
  let dedupTtl ← lookup.number "DEDUP_TTL_SECONDS"
  let fetchTimeout ← lookup.number "MEDIA_FETCH_TIMEOUT_SECONDS"
  let concurrency ← lookup.number "WORKER_CONCURRENCY"
  let maxAttempts ← lookup.number "WORKER_MAX_ATTEMPTS"
  return {
    name := (lookup "APP_NAME").getD defaultName
    environment := lookup.environment
    database, keyServer, worker
    dedupTtlSeconds := dedupTtl.getD defaultDedupTtl
    fetchTimeoutSeconds := fetchTimeout.getD defaultFetchTimeout
    graphBase := (lookup "GRAPH_API_BASE_URL").getD defaultGraphBase
    dialogBase := (lookup "DIALOG_API_BASE_URL").getD defaultDialogBase
    concurrency := (concurrency.map (max · 1)).getD defaultConcurrency
    maxAttempts := (maxAttempts.map (max ·.toUInt32 1)).getD defaultMaxAttempts }

end Intake.Settings
