import Intake.Number.Shortest

/-!
# JSON values

Numbers keep what the text said: an `integer` lies in `[-2 ^ 63, 2 ^ 64)`, every other number was rounded to a
`decimal`. The members of an object have distinct keys, in the order of their first appearance.
-/

namespace Intake

inductive Json.Number where
  | integer (value : Int)
  | decimal (value : Double)
deriving DecidableEq, Repr

inductive Json where
  | null
  | bool (value : Bool)
  | number (value : Json.Number)
  | string (value : String)
  | array (items : List Json)
  | object (members : List (String × Json))
deriving Repr, Inhabited

namespace Json

namespace Number

def toDouble : Number → Double
  | integer i => .ofInt i
  | decimal d => d

/-- The number as JSON text. -/
def text : Number → String
  | integer i => toString i
  | decimal d => d.render .json

end Number

/-- The value under `key`, if this is an object that has it. -/
def get? (key : String) : Json → Option Json
  | object ms => ms.lookup key
  | _ => none

/-- The first element, if this is an array that has one. -/
def head? : Json → Option Json
  | array xs => xs.head?
  | _ => none

def string? : Json → Option String
  | string s => some s
  | _ => none

def ofNat (n : Nat) : Json := number (.integer n)

def ofOption (o : Option Json) : Json := o.getD null

def ofString? (o : Option String) : Json := ofOption (o.map string)

/-- Gives `key` the value `v`, in its old place if it was there. -/
def setMember (key : String) (v : Json) : List (String × Json) → List (String × Json)
  | [] => [(key, v)]
  | (k, w) :: ms => if k = key then (key, v) :: ms else (k, w) :: setMember key v ms

theorem lookup_setMember (key : String) (v : Json) (ms : List (String × Json)) (k : String) :
    (setMember key v ms).lookup k = if k = key then some v else ms.lookup k := by
  have ne {a : String} (h : k ≠ a) : (k == a) = false := beq_eq_false_iff_ne.2 h
  induction ms with
  | nil => by_cases h : k = key <;> simp [setMember, List.lookup_cons, h, ne]
  | cons m ms ih =>
    obtain ⟨k', w⟩ := m
    by_cases hm : k' = key
    · subst hm
      by_cases h : k = k' <;> simp [setMember, List.lookup_cons, h, ne]
    · by_cases h : k = k'
      · simp [setMember, hm, h]
      · simp [setMember, List.lookup_cons, hm, ne h, ih]

end Json

end Intake
