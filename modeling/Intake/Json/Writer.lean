import Intake.Json.Basic

/-!
# Writing JSON text

`Json.render` writes a value on one line in ASCII: other characters are escaped as UTF-16 units.
-/

namespace Intake.Json

namespace Writer

def hexChar (n : Nat) : Char :=
  if n < 10 then Char.ofNat (48 + n) else Char.ofNat (87 + n)

def unit (n : Nat) : List Char :=
  ['\\', 'u', hexChar (n / 4096 % 16), hexChar (n / 256 % 16), hexChar (n / 16 % 16), hexChar (n % 16)]

def char (c : Char) : List Char :=
  let n := c.toNat
  if c = '"' then ['\\', '"']
  else if c = '\\' then ['\\', '\\']
  else if 32 ≤ n ∧ n < 127 then [c]
  else if n < 0x10000 then unit n
  else unit (0xD800 + (n - 0x10000) / 0x400) ++ unit (0xDC00 + (n - 0x10000) % 0x400)

def quoted (s : String) : String :=
  String.ofList ('"' :: s.toList.flatMap char ++ ['"'])

def number : Number → String
  | .integer i => toString i
  | .decimal d => if d.isFinite then d.render .json else "null"

end Writer

mutual

def render : Json → String
  | .null => "null"
  | .bool b => if b then "true" else "false"
  | .number n => Writer.number n
  | .string s => Writer.quoted s
  | .array xs => "[" ++ ",".intercalate (renderItems xs) ++ "]"
  | .object ms => "\x7b" ++ ",".intercalate (renderMembers ms) ++ "\x7d"

def renderItems : List Json → List String
  | [] => []
  | x :: xs => render x :: renderItems xs

def renderMembers : List (String × Json) → List String
  | [] => []
  | (k, v) :: ms => (Writer.quoted k ++ ":" ++ render v) :: renderMembers ms

end

end Intake.Json
