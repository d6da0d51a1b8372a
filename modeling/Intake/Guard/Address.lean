import Intake.Url.Basic

/-!
# Where the key server is

The address of a key server names a host, with or without a number, or a socket in the file system; it may choose a
database and a version of the protocol, and carry a user and a password. Encrypted connections are not offered.
-/

namespace Intake

inductive KeyServerPlace where
  | host (name : String) (portNumber : Nat)
  | socket (path : String)
deriving DecidableEq, Repr

structure KeyServerAddress where
  place : KeyServerPlace
  database : Int
  username : Option String
  password : Option String
  protocol : Nat
deriving DecidableEq, Repr

namespace KeyServerAddress

def usualPortNumber : Nat := 6379

def integer? (s : String) : Option Int :=
  (Digits.int? s.toList).filter fun i => -0x8000000000000000 ≤ i && i < 0x8000000000000000

/-- The text of a part of a query, where a plus sign is a space. Bytes that spell no text count as a replacement
character. -/
def queryText (s : List Char) : String :=
  (Percent.decodeText? (s.map fun c => if c = '+' then ' ' else c)).getD "\ufffd"

/-- The value of a key in a query, the last one if there are several. -/
def queryValue? (key : String) (query : String) : Option String :=
  let pairs := (Text.parts '&' query.toList).map (Text.cut '=')
  (pairs.reverse.find? fun p => queryText p.1 = key).map fun p => queryText (p.2.getD [])

def protocol? (u : Url) : Option Nat :=
  match u.query.bind (queryValue? "protocol") with
  | none | some "2" | some "resp2" => some 2
  | some "3" | some "resp3" => some 3
  | some _ => none

/-- An encoded user name or password, which must be text. -/
def credential? (s : String) : Option (Option String) :=
  if s = "" then some none else (Percent.decodeText? s.toList).map some

def host? (u : Url) : Option KeyServerAddress := do
  let host ← u.host
  let name := Text.dropTrailing '/' (Text.dropLeading '/' u.pathText)
  some
    { place := .host host.text (u.portNumber.getD usualPortNumber)
      database := ← if name = "" then some 0 else integer? name
      username := ← credential? u.username
      password := ← credential? u.password
      protocol := ← protocol? u }

def socket? (u : Url) : Option KeyServerAddress := do
  guard (u.host = none ∨ u.host = some (.domain "localhost"))
  guard (u.path matches .segments (_ :: _))
  some
    { place := .socket u.pathText
      database := ← match u.query.bind (queryValue? "db") with
        | none => some 0
        | some name => integer? name
      username := u.query.bind (queryValue? "user")
      password := u.query.bind (queryValue? "pass")
      protocol := ← protocol? u }

def parse? (text : String) : Option KeyServerAddress := do
  let u ← Url.parse? text
  if u.scheme = "redis" then host? u
  else if u.scheme = "unix" ∨ u.scheme = "redis+unix" then socket? u
  else none

end KeyServerAddress

end Intake
