import Intake.Error
import Intake.Text.Split

/-!
# Settings

What a process is configured with, and the settings of its pools and its log that follow from that.
-/

namespace Intake

inductive Environment where
  | development
  | staging
  | production
deriving DecidableEq, Repr

namespace Environment

def name : Environment → String
  | development => "development"
  | staging => "staging"
  | production => "production"

def ofName? : String → Option Environment
  | "development" => some development
  | "staging" => some staging
  | "production" => some production
  | _ => none

end Environment

structure DatabaseSettings where
  url : String
  maxConnections : UInt32 := 20
  minConnections : UInt32 := 5
deriving DecidableEq, Repr

/-- A pool never keeps more connections open than it may have. -/
structure DatabasePool where
  url : String
  maxConnections : UInt32
  minConnections : UInt32
  acquireSeconds : Nat := 5
  idleSeconds : Nat := 300
deriving DecidableEq, Repr

def DatabaseSettings.pool (d : DatabaseSettings) : DatabasePool :=
  { url := d.url, maxConnections := d.maxConnections, minConnections := min d.minConnections d.maxConnections }

structure KeyServerSettings where
  url : String
  maxConnections : UInt32 := 10
deriving DecidableEq, Repr

namespace KeyServerSettings

/-- A pool has at least one connection. -/
def poolSize (k : KeyServerSettings) : UInt32 := max k.maxConnections 1

end KeyServerSettings

/-- An address without user and password, to be logged. -/
def redactedUrl (url : String) : String := String.ofList (Text.cutLast '@' url.toList).2

structure LogSettings where
  level : String := "INFO"
  directives : List String
  json : Bool
  spanEvents : Bool
  fileAndLine : Bool
  target : Bool := true
deriving DecidableEq, Repr

namespace LogSettings

/-- Readable and talkative while developing, machine-readable elsewhere. -/
def ofEnvironment : Environment → LogSettings
  | .development =>
    { directives := ["relay_ingest=debug", "relay_worker=debug", "sqlx=warn"]
      json := false, spanEvents := true, fileAndLine := true }
  | .staging | .production =>
    { directives := ["sqlx=warn", "reqwest=warn"]
      json := true, spanEvents := false, fileAndLine := false }

end LogSettings

structure Settings where
  name : String
  environment : Environment
  database : DatabaseSettings
  /-- Without a key server, claims are held in memory. -/
  keyServer : Option KeyServerSettings
  dedupTtlSeconds : UInt64
  fetchTimeoutSeconds : UInt64
  graphBase : String
  dialogBase : String
  concurrency : UInt64
  maxAttempts : UInt32
  worker : Nat
deriving DecidableEq, Repr

namespace Settings

def defaultName : String := "webhook-relay"

def defaultDedupTtl : UInt64 := 300

def defaultFetchTimeout : UInt64 := 30

def defaultGraphBase : String := "https://graph.facebook.com/v17.0"

def defaultDialogBase : String := "https://waba.360dialog.io"

def defaultConcurrency : UInt64 := 8

def defaultMaxAttempts : UInt32 := 3

end Settings

inductive SettingsError where
  | missing (name : String)
  | invalid (name value : String)
deriving DecidableEq, Repr

namespace SettingsError

def message : SettingsError → String
  | missing name => "Missing required environment variable: " ++ name
  | invalid name value => "Invalid value for " ++ name ++ ": " ++ value

def toServiceError (e : SettingsError) : ServiceError := .config e.message

end SettingsError

end Intake
