/-!
# Binary64 numbers

A `Double` is a 64-bit word. Its finite values are `± mantissa · 2 ^ scale`, and rounding goes to the nearest value with
ties to the even mantissa. All arithmetic is exact arithmetic on `Nat` followed by one rounding, so every result can be
computed by the kernel.
-/

namespace Intake

structure Double where
  bits : UInt64
deriving DecidableEq, Repr, Inhabited

namespace Double

def signBit : Nat := 0x8000000000000000

/-- What a mantissa has above the bits that its word keeps. -/
def implicitBit : Nat := 0x10000000000000

/-- The word without its sign bit; the order of magnitudes is the order of absolute values. -/
def magnitude (d : Double) : Nat := d.bits.toNat % signBit

def negative (d : Double) : Bool := signBit ≤ d.bits.toNat

/-- The magnitude of both infinities; what lies above is no number. -/
def infinite : Nat := 2047 * implicitBit

def ofMagnitude (negative : Bool) (m : Nat) : Double :=
  ⟨.ofNat (if negative then m + signBit else m)⟩

def isFinite (d : Double) : Bool := d.magnitude < infinite

def isNaN (d : Double) : Bool := infinite < d.magnitude

def isZero (d : Double) : Bool := d.magnitude = 0

def nan : Double := ofMagnitude false (infinite + implicitBit / 2)

def mantissa (d : Double) : Nat :=
  if d.magnitude < implicitBit then d.magnitude else d.magnitude % implicitBit + implicitBit

def scale (d : Double) : Int :=
  (max (d.magnitude / implicitBit) 1 : Nat) - 1075

/-- The quotient rounded to the nearest integer, a tie to the even one. -/
def roundDiv (num den : Nat) : Nat :=
  let q := num / den
  let r := num % den
  if 2 * r < den then q else if den < 2 * r then q + 1 else q + q % 2

/-- Numerator and denominator of `num / den · 2 ^ e`. -/
def shift (num den : Nat) : Int → Nat × Nat
  | .ofNat e => (num * Nat.pow 2 e, den)
  | .negSucc e => (num, den * Nat.pow 2 (e + 1))

/-- The magnitude nearest to `num / den`. One unit in the last place is `2 ^ q`; the word of a finite magnitude counts
units from zero across all scales, so a mantissa that rounds up to `2 ^ 53` needs no case of its own. -/
def nearest (num den : Nat) : Nat :=
  if num = 0 then 0 else
    let e₀ : Int := (num.log2 : Int) - den.log2
    let (n, d) := shift num den (-e₀)
    let e := if d ≤ n then e₀ else e₀ - 1
    let q := max (e - 52) (-1074)
    let (n, d) := shift num den (-q)
    min ((q + 1074).toNat * implicitBit + roundDiv n d) infinite

def ofRatio (negative : Bool) (num den : Nat) : Double :=
  ofMagnitude negative (nearest num den)

def ofInt (i : Int) : Double :=
  ofRatio (i < 0) i.natAbs 1

/-- The double nearest to `± n · 10 ^ e`. -/
def ofDecimal (negative : Bool) (n : Nat) : Int → Double
  | .ofNat e => ofRatio negative (n * Nat.pow 10 e) 1
  | .negSucc e => ofRatio negative n (Nat.pow 10 (e + 1))

/-- Numerator and denominator of the absolute value of a finite double. -/
def ratio (d : Double) : Nat × Nat :=
  shift d.mantissa 1 d.scale

/-- The product of two finite doubles, rounded once. -/
def mul (a b : Double) : Double :=
  let (n, d) := a.ratio
  let (n', d') := b.ratio
  ofRatio (a.negative != b.negative) (n * n') (d * d')

/-- The quotient of two finite doubles, rounded once; the divisor is not zero. -/
def div (a b : Double) : Double :=
  let (n, d) := a.ratio
  let (n', d') := b.ratio
  ofRatio (a.negative != b.negative) (n * d') (d * n')

def neg (d : Double) : Double :=
  ofMagnitude (!d.negative) d.magnitude

end Double

end Intake
