import Intake.Json.Reader

/-!
# Percent encoding

In an address, a byte that may not stand for itself is written as a percent sign and two hexadecimal digits. Which
characters these are depends on the part of the address; characters that are not ASCII always are, byte by byte.
-/

namespace Intake.Percent

/-- A control character, or one that is not ASCII. -/
def isControl (c : Char) : Bool := c.toNat < 0x20 || 0x7E < c.toNat

def inFragment (c : Char) : Bool := isControl c || [' ', '"', '<', '>', '\x60'].contains c

def inQuery (c : Char) : Bool := isControl c || [' ', '"', '#', '<', '>'].contains c

/-- The query of a web address may not hold an apostrophe either. -/
def inWebQuery (c : Char) : Bool := inQuery c || c == '\x27'

def inPath (c : Char) : Bool := inFragment c || ['#', '?', '\x7b', '\x7d'].contains c

def inUserinfo (c : Char) : Bool := inPath c || ['/', ':', ';', '=', '@', '[', '\\', ']', '^', '|'].contains c

def hexDigit (n : Nat) : Char := (Nat.digitChar n).toUpper

def encodeByte (b : UInt8) : List Char := ['%', hexDigit (b.toNat / 16), hexDigit (b.toNat % 16)]

/-- Encodes the characters of `set`. -/
def encode (set : Char → Bool) (s : List Char) : List Char :=
  s.flatMap fun c => if set c then (String.utf8EncodeChar c).flatMap encodeByte else [c]

/-- The bytes that a text stands for; a percent sign without two hexadecimal digits stands for itself. -/
def decode : List Char → List UInt8
  | '%' :: a :: b :: r =>
    match Json.Reader.hexDigit? a, Json.Reader.hexDigit? b with
    | some h, some l => UInt8.ofNat (h * 16 + l) :: decode r
    | _, _ => 0x25 :: decode (a :: b :: r)
  | c :: r => String.utf8EncodeChar c ++ decode r
  | [] => []
termination_by s => s.length

/-- The text that the decoded bytes spell, if they do. -/
def decodeText? (s : List Char) : Option String :=
  String.fromUTF8? (decode s).toByteArray

end Intake.Percent
