import Intake.Snowflake.Basic

/-!
# Making ids

A generator remembers the last pair of millisecond and sequence it used, packed into one number that only grows: a later
millisecond starts a new sequence, an equal or earlier one continues the old sequence, and a full sequence borrows the
next millisecond. So ids increase whatever the clock does.
-/

namespace Intake

/-- The packed pair `millisecond · 2 ^ 12 + sequence`, with milliseconds since `Snowflake.epoch`. -/
abbrev Snowflake.Stamp := Int

namespace Snowflake.Stamp

def millis (s : Stamp) : Int := s.fdiv 4096

def sequence (s : Stamp) : Int := s % 4096

/-- The stamp issued at `now` after `s`. -/
def next (s : Stamp) (now : Int) : Stamp :=
  if millis s < now then now * 4096
  else if sequence s < 4096 - 1 then s + 1
  else (millis s + 1) * 4096

def toId (s : Stamp) (worker : Nat) : Snowflake :=
  .ofInt (millis s * 4194304 + worker * 4096 + sequence s)

end Snowflake.Stamp

structure Snowflake.Generator where
  worker : Nat
  worker_lt : worker < 1024 := by decide
  last : Snowflake.Stamp := 0

namespace Snowflake.Generator

/-- Worker ids have ten bits. -/
def ofWorker? (worker : Nat) : Option Generator :=
  if h : worker < 1024 then some { worker, worker_lt := h } else none

/-- The error text for what `ofWorker?` refuses. -/
def workerTooLarge : String := "Worker ID must be < 1024"

/-- Issues an id; `clock` is in milliseconds since 1970. -/
def generate (g : Generator) (clock : Int) : Snowflake × Generator :=
  let stamp := Stamp.next g.last (clock - epoch)
  (stamp.toId g.worker, { g with last := stamp })

/-- Issues one id for each clock reading. -/
def generateAll (g : Generator) : List Int → List Snowflake × Generator
  | [] => ([], g)
  | clock :: clocks =>
    let (id, g) := g.generate clock
    let (ids, g) := g.generateAll clocks
    (id :: ids, g)

end Snowflake.Generator

end Intake
