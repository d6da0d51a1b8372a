/-!
# Splitting text

Cutting a list of characters at a separator, which belongs to no part.
-/

namespace Intake.Text

/-- The parts between separators, empty ones included. -/
def parts (c : Char) : List Char → List (List Char)
  | [] => [[]]
  | d :: r =>
    if d = c then [] :: parts c r
    else match parts c r with
      | p :: ps => (d :: p) :: ps
      | [] => [[d]]

/-- The text before the first `c`, and the text after it if there is one. -/
def cut (c : Char) (s : List Char) : List Char × Option (List Char) :=
  (s.takeWhile (· != c), match s.dropWhile (· != c) with
    | [] => none
    | _ :: r => some r)

/-- The text before the last `c`, if there is one, and the text after it. -/
def cutLast (c : Char) (s : List Char) : Option (List Char) × List Char :=
  match cut c s.reverse with
  | (tail, some head) => (some head.reverse, tail.reverse)
  | (_, none) => (none, s)

end Intake.Text
