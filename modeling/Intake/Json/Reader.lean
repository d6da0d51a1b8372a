import Intake.Json.Basic
import Intake.Text.Digits

/-!
# Reading JSON text

`Json.parse` reads one value, with arrays and objects nested at most 127 deep and the last of several equal keys
winning. `Json.parseRecord` reads an object or array whose fields are known: a known field may occur once, and the value
of any other field is only checked for its syntax, however deep it is.

A number without fraction and exponent is an integer if it fits 64 bits. All others become doubles: the leading digits
that fit 64 bits are rounded once and then scaled by a power of ten, and what is beyond the largest double is an error.
-/

namespace Intake.Json

namespace Reader

def isSpace (c : Char) : Bool := c == ' ' || c == '\t' || c == '\n' || c == '\r'

def skipSpace (s : List Char) : List Char := s.dropWhile isSpace

/-! ## Strings -/

def hexDigit? (c : Char) : Option Nat :=
  if '0' ≤ c ∧ c ≤ '9' then some (c.toNat - 48)
  else if 'a' ≤ c ∧ c ≤ 'f' then some (c.toNat - 87)
  else if 'A' ≤ c ∧ c ≤ 'F' then some (c.toNat - 55)
  else none

def unit? (a b c d : Char) : Option Nat := do
  let a ← hexDigit? a
  let b ← hexDigit? b
  let c ← hexDigit? c
  let d ← hexDigit? d
  some (((a * 16 + b) * 16 + c) * 16 + d)

def escape? : Char → Option Char
  | '"' => some '"'
  | '\\' => some '\\'
  | '/' => some '/'
  | 'b' => some '\x08'
  | 'f' => some '\x0c'
  | 'n' => some '\n'
  | 'r' => some '\r'
  | 't' => some '\t'
  | _ => none

/-- The characters up to the closing quote, and what follows it. A surrogate is accepted only as half of a pair. -/
def string (read : List Char) : List Char → Option (List Char × List Char)
  | [] => none
  | '"' :: r => some (read.reverse, r)
  | '\\' :: 'u' :: a :: b :: c :: d :: r =>
    match unit? a b c d with
    | none => none
    | some n =>
      if n < 0xD800 ∨ 0xDFFF < n then string (Char.ofNat n :: read) r
      else match r with
        | '\\' :: 'u' :: a :: b :: c :: d :: r =>
          match unit? a b c d with
          | none => none
          | some m =>
            if n < 0xDC00 ∧ 0xDC00 ≤ m ∧ m ≤ 0xDFFF then
              string (Char.ofNat (0x10000 + (n - 0xD800) * 0x400 + (m - 0xDC00)) :: read) r
            else none
        | _ => none
  | '\\' :: c :: r =>
    match escape? c with
    | none => none
    | some x => string (x :: read) r
  | c :: r => if c.toNat < 32 then none else string (c :: read) r

/-- What follows the closing quote of a string whose surrogates do not matter. -/
def skipString : List Char → Option (List Char)
  | [] => none
  | '"' :: r => some r
  | '\\' :: 'u' :: a :: b :: c :: d :: r => if (unit? a b c d).isSome then skipString r else none
  | '\\' :: c :: r => if (escape? c).isSome then skipString r else none
  | c :: r => if c.toNat < 32 then none else skipString r

/-! ## Numbers -/

/-- A number as written: the digits before the point, those after it, and the exponent. -/
structure Written where
  negative : Bool
  whole : List Char
  fraction : List Char
  exponent : Option Int

def exponent : List Char → Option (Option Int × List Char)
  | c :: r =>
    if c = 'e' ∨ c = 'E' then
      let (minus, r) := match r with
        | '-' :: r => (true, r)
        | '+' :: r => (false, r)
        | r => (false, r)
      let ds := r.takeWhile Char.isDigit
      if ds = [] then none
      else
        let n : Int := Digits.value ds
        some (some (if minus then -n else n), r.dropWhile Char.isDigit)
    else some (none, c :: r)
  | [] => some (none, [])

def written (s : List Char) : Option (Written × List Char) := do
  let (minus, s) := match s with
    | '-' :: r => (true, r)
    | r => (false, r)
  let (whole, s) := match s with
    | '0' :: r => (['0'], r)
    | r => (r.takeWhile Char.isDigit, r.dropWhile Char.isDigit)
  guard (whole ≠ [])
  let (fraction, s) ← match s with
    | '.' :: r =>
      let ds := r.takeWhile Char.isDigit
      if ds = [] then none else some (ds, r.dropWhile Char.isDigit)
    | r => some ([], r)
  let (e, s) ← exponent s
  some (⟨minus, whole, fraction, e⟩, s)

/-- Appends digits to `n` while the result fits 64 bits; also says how many were appended and how many were not. -/
def appendDigits (n : Nat) : List Char → Nat × Nat × Nat
  | [] => (n, 0, 0)
  | c :: cs =>
    let n' := n * 10 + (c.toNat - 48)
    if n' < 0x10000000000000000 then
      let (m, used, left) := appendDigits n' cs
      (m, used + 1, left)
    else (n, 0, cs.length + 1)

def powerOfTen (k : Nat) : Double := .ofInt (Nat.pow 10 k)

/-- Divides by `10 ^ k`, in steps of `10 ^ 308`. -/
def scaleDown (d : Double) (k : Nat) : Double :=
  if k ≤ 308 then d.div (powerOfTen k)
  else if d.isZero then d
  else scaleDown (d.div (powerOfTen 308)) (k - 308)
termination_by k

/-- `n · 10 ^ e`, unless it is too large for a double. -/
def scaled? (n : Nat) : Int → Option Double
  | .ofNat e =>
    if n = 0 then some (.ofInt 0)
    else if 308 < e then none
    else
      let d := (Double.ofInt n).mul (powerOfTen e)
      if d.isFinite then some d else none
  | .negSucc e => some (scaleDown (.ofInt n) (e + 1))

def Written.toNumber? (w : Written) : Option Number :=
  let (n, _, left) := appendDigits 0 w.whole
  if left = 0 ∧ w.fraction = [] ∧ w.exponent = none then
    if !w.negative then some (.integer n)
    else if n ≠ 0 ∧ n ≤ 0x8000000000000000 then some (.integer (-n))
    else some (.decimal (Double.ofInt n).neg)
  else
    let (n, used, _) := appendDigits n w.fraction
    (scaled? n (left - used + w.exponent.getD 0)).map fun d => .decimal (if w.negative then d.neg else d)

/-! ## Values -/

def word? (s : List Char) : Option (Json × List Char) :=
  match s with
  | 'n' :: 'u' :: 'l' :: 'l' :: r => some (.null, r)
  | 't' :: 'r' :: 'u' :: 'e' :: r => some (.bool true, r)
  | 'f' :: 'a' :: 'l' :: 's' :: 'e' :: r => some (.bool false, r)
  | _ => none

/-- A value that is neither array nor object. -/
def scalar (s : List Char) : Option (Json × List Char) :=
  match s with
  | '"' :: r => (string [] r).map fun (t, r) => (.string (String.ofList t), r)
  | c :: _ =>
    if c = '-' ∨ c.isDigit then do
      let (w, r) ← written s
      let n ← w.toNumber?
      some (.number n, r)
    else word? s
  | [] => none

/-- The key of a member, read up to and including its colon. -/
def key (s : List Char) : Option (String × List Char) :=
  match skipSpace s with
  | '"' :: r => do
    let (t, r) ← string [] r
    match skipSpace r with
    | ':' :: r => some (String.ofList t, r)
    | _ => none
  | _ => none

/-- The elements of an array that has at least one; each takes at least one character, which bounds `fuel`. -/
def elements (item : List Char → Option (Json × List Char)) :
    (fuel : Nat) → List Json → List Char → Option (List Json × List Char)
  | 0, _, _ => none
  | fuel + 1, read, s => do
    let (v, r) ← item s
    match skipSpace r with
    | ',' :: r => elements item fuel (v :: read) r
    | ']' :: r => some ((v :: read).reverse, r)
    | _ => none

def members (item : List Char → Option (Json × List Char)) :
    (fuel : Nat) → List (String × Json) → List Char → Option (List (String × Json) × List Char)
  | 0, _, _ => none
  | fuel + 1, read, s => do
    let (k, r) ← key s
    let (v, r) ← item r
    let read := setMember k v read
    match skipSpace r with
    | ',' :: r => members item fuel read r
    | '}' :: r => some (read, r)
    | _ => none

/-- A value whose arrays and objects are nested at most `depth` deep. -/
def value : (depth : Nat) → List Char → Option (Json × List Char)
  | 0, s => scalar (skipSpace s)
  | depth + 1, s =>
    match skipSpace s with
    | '[' :: r =>
      match skipSpace r with
      | ']' :: r => some (.array [], r)
      | r => (elements (value depth) r.length [] r).map fun (xs, r) => (.array xs, r)
    | '{' :: r =>
      match skipSpace r with
      | '}' :: r => some (.object [], r)
      | r => (members (value depth) r.length [] r).map fun (ms, r) => (.object ms, r)
    | r => scalar r

/-- Arrays and objects may be nested this deep. -/
def maxDepth : Nat := 127

/-! ## Values that are not kept -/

inductive Frame where
  | array
  | object

def skipScalar (s : List Char) : Option (List Char) :=
  match s with
  | '"' :: r => skipString r
  | c :: _ => if c = '-' ∨ c.isDigit then (written s).map (·.2) else (word? s).map (·.2)
  | [] => none

def skipKey (s : List Char) : Option (List Char) :=
  match skipSpace s with
  | '"' :: r => do
    match skipSpace (← skipString r) with
    | ':' :: r => some r
    | _ => none
  | _ => none

/-- Skips a value inside the open arrays and objects of `stack`, or the rest of them once a value has been read. Every
second step takes a character, which bounds `fuel`. -/
def skip : (fuel : Nat) → (pending : Bool) → List Frame → List Char → Option (List Char)
  | 0, _, _, _ => none
  | _ + 1, false, [], s => some s
  | fuel + 1, true, stack, s =>
    match skipSpace s with
    | '[' :: r =>
      match skipSpace r with
      | ']' :: r => skip fuel false stack r
      | r => skip fuel true (.array :: stack) r
    | '{' :: r =>
      match skipSpace r with
      | '}' :: r => skip fuel false stack r
      | r => (skipKey r).bind (skip fuel true (.object :: stack))
    | r => (skipScalar r).bind (skip fuel false stack)
  | fuel + 1, false, .array :: stack, s =>
    match skipSpace s with
    | ',' :: r => skip fuel true (.array :: stack) r
    | ']' :: r => skip fuel false stack r
    | _ => none
  | fuel + 1, false, .object :: stack, s =>
    match skipSpace s with
    | ',' :: r => (skipKey r).bind (skip fuel true (.object :: stack))
    | '}' :: r => skip fuel false stack r
    | _ => none

def skipValue (s : List Char) : Option (List Char) :=
  skip (2 * s.length + 2) true [] s

/-! ## Records -/

/-- A scalar, or an object with one scalar member. -/
def name (s : List Char) : Option (Json × List Char) :=
  match skipSpace s with
  | '{' :: r => do
    let (k, r) ← key r
    let (v, r) ← value 0 r
    match skipSpace r with
    | '}' :: r => some (.object [(k, v)], r)
    | _ => none
  | r => scalar r

end Reader

/-- What is read under a known field. -/
inductive FieldKind where
  | any
  | scalar
  /-- A name without a value, which may be wrapped into an object. -/
  | name
deriving DecidableEq, Repr

namespace Reader

def field : FieldKind → List Char → Option (Json × List Char)
  | .any => value (maxDepth - 1)
  | .scalar => value 0
  | .name => name

/-- The members whose keys are in `known`; such a key may occur once. -/
def knownMembers (known : List (String × FieldKind)) :
    (fuel : Nat) → List (String × Json) → List Char → Option (List (String × Json) × List Char)
  | 0, _, _ => none
  | fuel + 1, read, s => do
    let (k, r) ← key s
    let (read, r) ← match known.lookup k with
      | none => (skipValue r).map fun r => (read, r)
      | some kind =>
        if (read.lookup k).isSome then none
        else (field kind r).map fun (v, r) => (read ++ [(k, v)], r)
    match skipSpace r with
    | ',' :: r => knownMembers known fuel read r
    | '}' :: r => some (read, r)
    | _ => none

/-- At least one element, and at most one for each kind. -/
def knownElements : List FieldKind → List Char → Option (List Json × List Char)
  | [], _ => none
  | kind :: kinds, s => do
    let (v, r) ← field kind s
    match skipSpace r with
    | ',' :: r => (knownElements kinds r).map fun (vs, r) => (v :: vs, r)
    | ']' :: r => some ([v], r)
    | _ => none

def complete {α : Type} : Option (α × List Char) → Option α
  | some (a, r) => if skipSpace r = [] then some a else none
  | none => none

end Reader

open Reader

def parse (text : String) : Option Json :=
  complete (value maxDepth text.toList)

/-- Reads a record with the fields `known`, given by name or by position. -/
def parseRecord (known : List (String × FieldKind)) (text : String) : Option Json :=
  match skipSpace text.toList with
  | '{' :: r =>
    match skipSpace r with
    | '}' :: r => complete (some (.object [], r))
    | r => (complete (knownMembers known r.length [] r)).map .object
  | '[' :: r =>
    match skipSpace r with
    | ']' :: r => complete (some (.array [], r))
    | r => (complete (knownElements (known.map (·.2)) r)).map .array
  | _ => none

end Intake.Json
