import Intake.Guard.Key

/-!
# Claims in memory

A guard holds claims until they expire or are released. Time is a reading of a clock that never goes back, in
milliseconds; the clock counts seconds in 63 bits, so a deadline beyond that cannot be computed. Claims that have
expired stay in the table until a sweep, which comes with every 1024th claim, but no answer depends on them.
-/

namespace Intake

abbrev Instant := Nat

namespace Instant

/-- The moment `ttl` milliseconds after `now`, if the clock can express it. -/
def deadline? (now : Instant) (ttl : Nat) : Option Instant :=
  if (now + ttl) / 1000 < 0x8000000000000000 then some (now + ttl) else none

/-- The error text for a deadline that the clock cannot express. -/
def deadlineOverflow : String := "overflow when adding duration to instant"

end Instant

structure MemoryGuard where
  /-- How long a claim is held, in milliseconds. -/
  ttl : Nat
  /-- Keys with the moment at which their claim expires; keys are distinct. -/
  claims : List (String × Instant) := []
  /-- Claims asked for so far, modulo the width of a word. -/
  asked : UInt64 := 0
deriving Repr

namespace MemoryGuard

def sweepEvery : UInt64 := 1024

/-- A guard that would hold no claim at all holds them for a second. -/
def ofMillis (ttl : Nat) : MemoryGuard := { ttl := if ttl = 0 then 1000 else ttl }

def ofSeconds (ttl : Nat) : MemoryGuard := ofMillis (max ttl 1 * 1000)

def default : MemoryGuard := ofSeconds 300

/-- A claim is live before the moment at which it expires. -/
def isLive (now : Instant) (claim : String × Instant) : Bool := now < claim.2

def purge (g : MemoryGuard) (now : Instant) : MemoryGuard :=
  { g with claims := g.claims.filter (isLive now) }

def activeClaims (g : MemoryGuard) (now : Instant) : Nat := g.claims.countP (isLive now)

def holds (g : MemoryGuard) (now : Instant) (key : String) : Bool :=
  g.claims.any fun c => c.1 = key && isLive now c

def erase (g : MemoryGuard) (key : String) : MemoryGuard :=
  { g with claims := g.claims.filter fun c => c.1 ≠ key }

def insert (g : MemoryGuard) (key : String) (deadline : Instant) : MemoryGuard :=
  { g with claims := (key, deadline) :: (g.erase key).claims }

/-- Counts a claim that was asked for; every 1024th sweeps. -/
def count (g : MemoryGuard) (now : Instant) : MemoryGuard :=
  let g' := { g with asked := g.asked + 1 }
  if g.asked % sweepEvery = sweepEvery - 1 then g'.purge now else g'

/-- Claims a key unless a live claim holds it; `none` if the deadline of the claim cannot be expressed. -/
def claimKey? (g : MemoryGuard) (now : Instant) (key : String) : Option (Bool × MemoryGuard) :=
  if g.holds now key then some (false, g.count now)
  else (now.deadline? g.ttl).map fun deadline => (true, (g.insert key deadline).count now)

def tryClaim? (g : MemoryGuard) (now : Instant) (channel : Snowflake) (sourceId : String) :
    Option (Bool × MemoryGuard) :=
  g.claimKey? now (Guard.claimKey channel sourceId)

def release (g : MemoryGuard) (channel : Snowflake) (sourceId : String) : MemoryGuard :=
  g.erase (Guard.claimKey channel sourceId)

end MemoryGuard

end Intake
