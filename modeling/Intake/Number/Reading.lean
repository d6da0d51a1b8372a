import Intake.Number.Double
import Intake.Text.Digits

/-!
# Reading decimal text

`Double.ofText?` reads a number as written by people and machines alike: an optional sign, then digits with an optional
point and an optional exponent, or one of the words `inf`, `infinity` and `nan` in any case. The result is the double
nearest to the written value, however many digits there are.
-/

namespace Intake.Double

/-- An unsigned decimal number: `whole [. fraction] [e [sign] exponent]`, with a digit before or after the point. -/
def decimal? (s : List Char) : Option (Nat × Int) := do
  let whole := s.takeWhile Char.isDigit
  let rest := s.dropWhile Char.isDigit
  let (fraction, rest) := match rest with
    | '.' :: r => (r.takeWhile Char.isDigit, r.dropWhile Char.isDigit)
    | r => ([], r)
  guard (whole ++ fraction ≠ [])
  let e ← match rest with
    | [] => some 0
    | c :: r => if c = 'e' ∨ c = 'E' then Digits.int? r else none
  some (Digits.value (whole ++ fraction), e - fraction.length)

/-- The double nearest to `± n · 10 ^ e`. A number of `k` digits is at least `10 ^ (k - 1)`, so exponents far outside
the range of doubles are settled without computing the power. -/
def ofDecimalText (negative : Bool) (n : Nat) (e : Int) : Double :=
  let top : Int := (Nat.toDigits 10 n).length + e
  if n = 0 ∨ top < -330 then ofMagnitude negative 0
  else if 310 < top then ofMagnitude negative infinite
  else ofDecimal negative n e

def unsigned? (negative : Bool) (s : List Char) : Option Double :=
  let word := s.map Char.toLower
  if word = "inf".toList ∨ word = "infinity".toList then some (ofMagnitude negative infinite)
  else if word = "nan".toList then some nan
  else (decimal? s).map fun (n, e) => ofDecimalText negative n e

def ofText? (s : String) : Option Double :=
  match s.toList with
  | '-' :: r => unsigned? true r
  | '+' :: r => unsigned? false r
  | r => unsigned? false r

end Intake.Double
