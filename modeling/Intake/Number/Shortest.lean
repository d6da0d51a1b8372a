import Intake.Number.Double

/-!
# Shortest decimal text of a double

`Double.shortest` picks, among the decimals that round to the given double, one with the fewest digits, and of those the
nearest to the double's exact value; of two that are equally near, `Tie` says which. `Layout` settles that and how the
digits are laid out: `Layout.plain` never writes an exponent, `Layout.json` does for decimal exponents outside
`[-5, 16)` and marks integral values by `.0`.
-/

namespace Intake

/-- `significand · 10 ^ power`. -/
structure Decimal where
  significand : Nat
  power : Int
deriving DecidableEq, Repr

namespace Decimal

/-- Moves trailing zeros of the significand into the power; at most `fuel` of them. -/
def stripZeros : Nat → Decimal → Decimal
  | 0, d => d
  | fuel + 1, d =>
    if d.significand ≠ 0 ∧ d.significand % 10 = 0 then
      stripZeros fuel ⟨d.significand / 10, d.power + 1⟩
    else d

/-- The numerators of `a / b` and `c · 10 ^ p` over one denominator. -/
def overCommon (a b c : Nat) : Int → Nat × Nat
  | .ofNat p => (a, c * Nat.pow 10 p * b)
  | .negSucc p => (a * Nat.pow 10 (p + 1), c * b)

/-- The greatest `k` with `10 ^ k ≤ a / b`, for positive `a` and `b`; the estimate from the binary logarithms is at most
one off. -/
def exponentOf (a b : Nat) : Int :=
  let reaches (k : Int) : Bool := let (x, y) := overCommon a b 1 k; y ≤ x
  let k := (((a.log2 : Int) - b.log2) * 30103).fdiv 100000
  if reaches (k + 1) then k + 1 else if reaches k then k else k - 1

end Decimal

/-- Which of two neighbours on a grid stands for a value halfway between them. -/
inductive Tie where
  | up
  | even
deriving DecidableEq, Repr

/-- Whether the upper neighbour of a tie is taken; `below` counts the steps of the grid up to the lower one. -/
def Tie.takesUpper (t : Tie) (below : Nat) : Bool :=
  match t with
  | up => true
  | even => below % 2 = 1

namespace Double

/-- The reals that round to a positive finite double: an interval around `value / den`, whose ends belong to it iff the
mantissa is even. Below a power of two the neighbour is only half as far away. -/
structure RoundingInterval where
  low : Nat
  value : Nat
  high : Nat
  den : Nat
  closed : Bool

def roundingInterval (d : Double) : RoundingInterval :=
  let m := d.mantissa
  let gap := if m = implicitBit ∧ -1074 < d.scale then 1 else 2
  let (unit, den) := shift 1 1 (d.scale - 2)
  ⟨(4 * m - gap) * unit, 4 * m * unit, (4 * m + 2) * unit, den, m % 2 = 0⟩

namespace RoundingInterval

def contains (r : RoundingInterval) (c : Nat) (p : Int) : Bool :=
  let (l, x) := Decimal.overCommon r.low r.den c p
  let (h, y) := Decimal.overCommon r.high r.den c p
  if r.closed then l ≤ x && y ≤ h else l < x && y < h

/-- The multiple of `10 ^ p` in the interval that is nearest to its value, if one of the value's two neighbours on that
grid is in the interval. -/
def onGrid (r : RoundingInterval) (tie : Tie) (p : Int) : Option Decimal :=
  let (v, unit) := Decimal.overCommon r.value r.den 1 p
  let below := v / unit
  let down := r.contains below p
  let up := r.contains (below + 1) p
  let upIsNearer := match compare unit (2 * (v % unit)) with
    | .lt => true
    | .eq => tie.takesUpper below
    | .gt => false
  if up && (!down || upIsNearer) then some ⟨below + 1, p⟩
  else if down then some ⟨below, p⟩
  else none

/-- Tries grids with more and more digits; seventeen always suffice. -/
def search (r : RoundingInterval) (tie : Tie) : Nat → Int → Decimal
  | 0, p => (r.onGrid tie p).getD ⟨0, 0⟩
  | fuel + 1, p => (r.onGrid tie p).getD (search r tie fuel (p - 1))

end RoundingInterval

/-- The shortest decimal that reads back as the absolute value of a finite double. -/
def shortest (d : Double) (tie : Tie) : Decimal :=
  if d.isZero then ⟨0, 0⟩
  else
    let r := d.roundingInterval
    (r.search tie 17 (Decimal.exponentOf r.value r.den)).stripZeros 17

/-- How a number is written. -/
structure Layout where
  /-- Which of two equally near decimals is written. -/
  tie : Tie
  /-- Decimal exponents that are written without an exponent mark. -/
  positional : Int → Bool
  /-- What follows an integral value that has no exponent mark. -/
  integral : String

/-- Never an exponent, no decimal point for integral values, and a tie goes up. -/
def Layout.plain : Layout := ⟨.up, fun _ => true, ""⟩

/-- The text of a number in JSON: an integral value keeps `.0`, an exponent is written outside `[-5, 16)`, and a tie
goes to the even digit. -/
def Layout.json : Layout := ⟨.even, fun e => -5 ≤ e && e < 16, ".0"⟩

def Layout.digits (l : Layout) (d : Decimal) : String :=
  let ds := Nat.toDigits 10 d.significand
  let point : Int := ds.length + d.power
  if l.positional (point - 1) then
    if 0 ≤ d.power then String.ofList (ds ++ List.replicate d.power.toNat '0') ++ l.integral
    else if 0 < point then
      String.ofList (ds.take point.toNat ++ '.' :: ds.drop point.toNat)
    else String.ofList ('0' :: '.' :: List.replicate (-point).toNat '0' ++ ds)
  else
    let mantissa := if ds.length = 1 then ds else ds.take 1 ++ '.' :: ds.drop 1
    let sign := if 0 ≤ point - 1 then "e+" else "e"
    String.ofList mantissa ++ sign ++ toString (point - 1)

def render (l : Layout) (d : Double) : String :=
  if d.isNaN then "NaN"
  else
    let sign := if d.negative then "-" else ""
    if d.isFinite then sign ++ l.digits (d.shortest l.tie) else sign ++ "inf"

/-- The text without exponent. -/
def text (d : Double) : String := d.render .plain

end Double

end Intake
