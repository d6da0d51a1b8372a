import Intake.Error
import Intake.Guard.Key

/-!
# Claims on a key server

The guard that many processes share keeps its claims as keys of a server: a claim sets its key unless it is set, and the
server drops it when its time is up. Every operation is one command.
-/

namespace Intake

inductive KeyCommand where
  /-- Sets a key that is not set, for a number of seconds. -/
  | set (key : String) (seconds : Nat)
  | delete (key : String)
  | timeToLive (key : String)
  | ping
deriving DecidableEq, Repr

namespace KeyCommand

/-- The command as it is sent. -/
def words : KeyCommand → List String
  | set key seconds => ["SET", key, "1", "NX", "EX", toString seconds]
  | delete key => ["DEL", key]
  | timeToLive key => ["TTL", key]
  | ping => ["PING"]

end KeyCommand

inductive KeyReply where
  | absent
  | text (text : String)
  | integer (value : Int)
deriving DecidableEq, Repr

/-- Answers commands from a state; an error is a text. -/
abbrev KeyServer (σ : Type) := KeyCommand → σ → Except String KeyReply × σ

namespace KeyServer

variable {α σ : Type}

/-- Sends a command and reads the reply; a reply of the wrong kind is an error too. -/
def send (server : KeyServer σ) (command : KeyCommand) (read? : KeyReply → Option α) :
    ExceptT DomainError (StateM σ) α :=
  ExceptT.mk fun s =>
    let (reply, s) := server command s
    match reply with
    | .error reason => (.error (.cache reason), s)
    | .ok reply => (match read? reply with
      | some a => .ok a
      | none => .error (.cache "unexpected reply"), s)

def ping (server : KeyServer σ) : StateM σ Bool := do
  let answer ← (server.send .ping fun
    | .text t => some t
    | _ => none).run
  return answer matches .ok _

end KeyServer

structure RemoteGuard where
  ttlSeconds : Nat
deriving Repr

namespace RemoteGuard

variable {σ : Type}

def ofSeconds (ttlSeconds : Nat) : RemoteGuard := ⟨max ttlSeconds 1⟩

/-- The server confirms a key that it has set, and answers nothing when it was set before. -/
def tryClaim (g : RemoteGuard) (server : KeyServer σ) (channel : Snowflake) (sourceId : String) :
    ExceptT DomainError (StateM σ) Bool :=
  server.send (.set (Guard.claimKey channel sourceId) g.ttlSeconds) fun
    | .absent => some false
    | .text _ => some true
    | .integer _ => none

def release (server : KeyServer σ) (channel : Snowflake) (sourceId : String) : ExceptT DomainError (StateM σ) Unit :=
  server.send (.delete (Guard.claimKey channel sourceId)) fun
    | .integer _ => some ()
    | _ => none

/-- The seconds that a claim has left; the server answers -2 for a key that is not set. -/
def remainingSeconds (server : KeyServer σ) (channel : Snowflake) (sourceId : String) :
    ExceptT DomainError (StateM σ) (Option Int) :=
  server.send (.timeToLive (Guard.claimKey channel sourceId)) fun
    | .integer i => some (if i = -2 then none else some i)
    | _ => none

end RemoteGuard

/-! ## A server to rehearse with -/

inductive KeyFault where
  | errorReply
  | wrongKind
  | connectionLost
deriving DecidableEq, Repr

def KeyFault.message : KeyFault → String
  | errorReply => "error reply"
  | wrongKind => "unexpected reply"
  | connectionLost => "connection lost"

/-- Keys with their remaining seconds, the commands received, and a fault for the next command. -/
structure ScriptedKeys where
  reachable : Bool := true
  keys : List (String × Int) := []
  received : List KeyCommand := []
  fault : Option KeyFault := none
deriving Repr

namespace ScriptedKeys

def ttl? (s : ScriptedKeys) (key : String) : Option Int := s.keys.lookup key

def erase (s : ScriptedKeys) (key : String) : ScriptedKeys :=
  { s with keys := s.keys.filter fun k => k.1 ≠ key }

def put (s : ScriptedKeys) (key : String) (seconds : Int) : ScriptedKeys :=
  { s with keys := (key, seconds) :: (s.erase key).keys }

def answer (command : KeyCommand) (s : ScriptedKeys) : KeyReply × ScriptedKeys :=
  match command with
  | .set key seconds =>
    match s.ttl? key with
    | some _ => (.absent, s)
    | none => (.text "OK", s.put key seconds)
  | .delete key => (.integer (if (s.ttl? key).isSome then 1 else 0), s.erase key)
  | .timeToLive key => (.integer ((s.ttl? key).getD (-2)), s)
  | .ping => (.text "PONG", s)

/-- Answers like a server that holds the keys; a fault takes the place of one answer and changes nothing. -/
def serve : KeyServer ScriptedKeys := fun command s =>
  if !s.reachable then (.error "connection refused", s)
  else
    let s := { s with received := s.received ++ [command] }
    match s.fault with
    | none => (.ok (s.answer command).1, (s.answer command).2)
    | some fault => (.error fault.message, { s with fault := none })

end ScriptedKeys

end Intake
