import Intake.Text.Split
import Intake.Url.Percent

/-!
# Hosts

The host of an address is a name or a numeric address. In a web address, numbers are recognized in every notation that
was ever used for them, in base eight, ten and sixteen; international names are expected in their ASCII form.
-/

namespace Intake

inductive Host where
  | domain (name : String)
  | ipv4 (address : Nat)
  /-- Eight pieces of sixteen bits. -/
  | ipv6 (pieces : List Nat)
deriving DecidableEq, Repr

namespace Host

def valueIn (base : Nat) (digits : List Nat) : Nat := digits.foldl (fun n d => n * base + d) 0

/-- A number whose base is told by how it starts: `0x` for sixteen, `0` for eight. -/
def number? : List Char → Option Nat
  | [] => none
  | '0' :: x :: ds =>
    if x = 'x' ∨ x = 'X' then (ds.mapM Json.Reader.hexDigit?).map (valueIn 16)
    else ((x :: ds).mapM fun c => (Json.Reader.hexDigit? c).filter (· < 8)).map (valueIn 8)
  | ds => Digits.unsigned? ds

/-- The parts of a dotted name, without an empty one at the end. -/
def labels (s : List Char) : List (List Char) :=
  match (Text.parts '.' s).reverse with
  | [] :: p :: ps => (p :: ps).reverse
  | ps => ps.reverse

/-- A name whose last label is a number is a numeric address, or else no host at all. -/
def endsInNumber (s : List Char) : Bool :=
  match (labels s).getLast? with
  | some l => (l ≠ [] && l.all Char.isDigit) || (number? l).isSome
  | none => false

/-- Up to four numbers; the last one fills the bytes that the others leave. -/
def ipv4? (s : List Char) : Option Nat := do
  let ns ← (labels s).mapM number?
  match ns.reverse with
  | [] => none
  | last :: rest =>
    if 3 < rest.length ∨ rest.any (255 < ·) ∨ Nat.pow 256 (4 - rest.length) ≤ last then none
    else some (valueIn 256 rest.reverse * Nat.pow 256 (4 - rest.length) + last)

/-- Four bytes in base ten, without superfluous zeros. -/
def dottedPieces? (s : List Char) : Option (List Nat) := do
  let ns ← (Text.parts '.' s).mapM fun p =>
    (Digits.unsigned? p).filter fun n => n < 256 && (p.length = 1 || p.head? ≠ some '0')
  match ns with
  | [a, b, c, d] => some [a * 256 + b, c * 256 + d]
  | _ => none

/-- Pieces of up to four hexadecimal digits; the last two may be written as four bytes. -/
def pieces? (mayEndDotted : Bool) : List (List Char) → Option (List Nat)
  | [] => some []
  | [p] => if mayEndDotted && p.contains '.' then dottedPieces? p else (piece? p).map ([·])
  | p :: ps => do
    let n ← piece? p
    let ns ← pieces? mayEndDotted ps
    some (n :: ns)
where
  piece? (p : List Char) : Option Nat :=
    if p = [] ∨ 4 < p.length then none else (p.mapM Json.Reader.hexDigit?).map (valueIn 16)

/-- What stands before and after the first double colon, if there is one. -/
def splitDouble : List Char → List Char × Option (List Char)
  | ':' :: ':' :: r => ([], some r)
  | c :: r => (c :: (splitDouble r).1, (splitDouble r).2)
  | [] => ([], none)

def groups (s : List Char) : List (List Char) := if s = [] then [] else Text.parts ':' s

/-- Eight pieces, of which a double colon leaves out some that are zero. -/
def ipv6? (s : List Char) : Option (List Nat) :=
  match splitDouble s with
  | (left, none) => (pieces? true (groups left)).filter (·.length = 8)
  | (left, some right) => do
    let l ← pieces? false (groups left)
    let r ← pieces? true (groups right)
    if 7 < l.length + r.length then none
    else some (l ++ List.replicate (8 - l.length - r.length) 0 ++ r)

def isForbidden (c : Char) : Bool :=
  ['\x00', '\t', '\n', '\r', ' ', '#', '/', ':', '<', '>', '?', '@', '[', '\\', ']', '^', '|'].contains c

def bracketed? : List Char → Option Host
  | s => match s.reverse with
    | ']' :: r => (ipv6? r.reverse).map ipv6
    | _ => none

/-- The host of an address that is not a web address: its name is kept as it is. -/
def plain? : List Char → Option Host
  | '[' :: r => bracketed? r
  | s => if s.any isForbidden then none else some (.domain (String.ofList (Percent.encode Percent.isControl s)))

/-- The host of a web address. -/
def web? : List Char → Option Host
  | '[' :: r => bracketed? r
  | s => do
    let name ← Percent.decodeText? s
    let cs := name.toList.map Char.toLower
    if cs = [] ∨ cs.any (fun c => isForbidden c || Percent.isControl c || c == '%') then none
    else if endsInNumber cs then (ipv4? cs).map ipv4
    else some (.domain (String.ofList cs))

/-- Start and length of the first longest run of zeros. -/
def longestZeros : Nat → List Nat → Nat × Nat
  | _, [] => (0, 0)
  | start, p :: ps =>
    let here := ((p :: ps).takeWhile (· == 0)).length
    let later := longestZeros (start + 1) ps
    if here ≠ 0 ∧ later.2 ≤ here then (start, here) else later

def hexText (n : Nat) : String := String.ofList (Nat.toDigits 16 n)

/-- A run of at least two zeros is written as a double colon. -/
def ipv6Text (pieces : List Nat) : String :=
  let (start, length) := longestZeros 0 pieces
  let text (ps : List Nat) := String.intercalate ":" (ps.map hexText)
  if length < 2 then text pieces
  else text (pieces.take start) ++ "::" ++ text (pieces.drop (start + length))

def ipv4Text (address : Nat) : String :=
  String.intercalate "." ([3, 2, 1, 0].map fun k => toString (address / Nat.pow 256 k % 256))

def text : Host → String
  | domain name => name
  | ipv4 address => ipv4Text address
  | ipv6 pieces => "[" ++ ipv6Text pieces ++ "]"

end Host

end Intake
