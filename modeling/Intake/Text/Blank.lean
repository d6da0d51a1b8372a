/-!
# Blank text

White space is the Unicode property `White_Space`: 25 code points, of which core's `Char.isWhitespace` knows four.
Trimming works on the list of characters, so that its laws are laws of `dropWhile`.
-/

namespace Intake.Text

/-- A character of the Unicode property `White_Space`. -/
def isBlank (c : Char) : Bool :=
  let n := c.toNat
  (9 ≤ n && n ≤ 13) || n == 0x20 || n == 0x85 || n == 0xA0 || n == 0x1680 || (0x2000 ≤ n && n ≤ 0x200A) ||
    n == 0x2028 || n == 0x2029 || n == 0x202F || n == 0x205F || n == 0x3000

def dropEndWhile (p : Char → Bool) (s : List Char) : List Char :=
  (s.reverse.dropWhile p).reverse

def trimList (s : List Char) : List Char :=
  dropEndWhile isBlank (s.dropWhile isBlank)

def trim (s : String) : String :=
  String.ofList (trimList s.toList)

/-- The trimmed text, unless nothing is left of it. -/
def nonBlank (s : String) : Option String :=
  let t := trim s
  if t = "" then none else some t

/-- Drops every leading `c`. -/
def dropLeading (c : Char) (s : String) : String :=
  String.ofList (s.toList.dropWhile (· == c))

/-- Drops every trailing `c`. -/
def dropTrailing (c : Char) (s : String) : String :=
  String.ofList (dropEndWhile (· == c) s.toList)

end Intake.Text
