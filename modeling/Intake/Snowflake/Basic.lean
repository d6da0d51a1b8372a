import Intake.Json.Record
import Intake.Text.Digits

/-!
# Snowflake ids

A record id is a signed 64-bit word: from the top, the milliseconds since `epoch`, ten bits of worker and twelve bits of
sequence. In JSON it is written as a string, so that no reader loses digits, and read from a string or an integer.
-/

namespace Intake

structure Snowflake where
  word : Int64
deriving DecidableEq, Repr, Inhabited

namespace Snowflake

/-- 2024-01-01 00:00:00 UTC in milliseconds since 1970. -/
def epoch : Int := 1704067200000

def toInt (s : Snowflake) : Int := s.word.toInt

def ofInt (i : Int) : Snowflake := ⟨.ofInt i⟩

def ofInt? (i : Int) : Option Snowflake :=
  if -0x8000000000000000 ≤ i ∧ i < 0x8000000000000000 then some (ofInt i) else none

/-- Milliseconds since 1970 at which the id was made. -/
def timestamp (s : Snowflake) : Int := s.toInt.fdiv 4194304 + epoch

def worker (s : Snowflake) : Nat := (s.toInt.fdiv 4096 % 1024).toNat

def text (s : Snowflake) : String := toString s.toInt

def parse? (text : String) : Option Snowflake :=
  (Digits.int? text.toList).bind ofInt?

/-- The error text for what `parse?` refuses. -/
def invalidFormat : String := "invalid snowflake format"

def toJson (s : Snowflake) : Json := .string s.text

def ofJson? : Json → Option Snowflake
  | .number (.integer i) => ofInt? i
  | .string t => parse? t
  | _ => none

end Snowflake

end Intake
