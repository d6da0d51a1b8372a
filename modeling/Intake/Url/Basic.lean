import Intake.Text.Blank
import Intake.Url.Host

/-!
# Addresses

`Url.parse?` reads an absolute address and brings it into its normal form: the scheme and the host of a web address in
lower case, the number after the host left out if it is the usual one, dot segments resolved, and forbidden characters
encoded. It serves rehearsals and the addresses of key servers, and it knows no names outside ASCII; downloads take any
reader of addresses (`WebClient.parse?`).
-/

namespace Intake

inductive UrlPath where
  /-- Text after the scheme that is no path. -/
  | rootless (text : String)
  | segments (segments : List String)
deriving DecidableEq, Repr

structure Url where
  scheme : String
  username : String
  password : String
  host : Option Host
  /-- The number after the host, unless it is the usual one. -/
  portNumber : Option Nat
  path : UrlPath
  query : Option String
  fragment : Option String
deriving DecidableEq, Repr

namespace Url

/-- The number that a web scheme means if none is given. -/
def usualPortNumber? : String → Option Nat
  | "http" | "ws" => some 80
  | "https" | "wss" => some 443
  | "ftp" => some 21
  | _ => none

def isWebScheme (scheme : String) : Bool := (usualPortNumber? scheme).isSome

/-- Spaces and controls around an address do not belong to it, and line breaks and tabs within are left out. -/
def clean (s : List Char) : List Char :=
  let outer (c : Char) := c.toNat ≤ 0x20
  (Text.dropEndWhile outer (s.dropWhile outer)).filter fun c => !(['\t', '\n', '\r'].contains c)

/-- A letter, then letters, digits, plus, minus and point, up to a colon. -/
def scheme? (s : List Char) : Option (String × List Char) :=
  match Text.cut ':' s with
  | (c :: cs, some rest) =>
    if c.isAlpha && cs.all (fun d => d.isAlphanum || ['+', '-', '.'].contains d) then
      some (String.ofList ((c :: cs).map Char.toLower), rest)
    else none
  | _ => none

/-- A number of at most sixteen bits; an empty one and the usual one mean the same. -/
def portNumber? (scheme : String) : List Char → Option (Option Nat)
  | [] => some none
  | s => do
    let n ← Digits.unsigned? s
    if 65535 < n then none
    else some (if usualPortNumber? scheme = some n then none else some n)

/-- The host, and what follows the colon after it. A colon in brackets belongs to the host. -/
def splitPlace (inBrackets : Bool) : List Char → List Char × Option (List Char)
  | [] => ([], none)
  | c :: r =>
    if c = ':' ∧ !inBrackets then ([], some r)
    else
      let (host, number) := splitPlace (c == '[' || (inBrackets && c != ']')) r
      (c :: host, number)

/-- A letter before a colon or a bar names a drive. -/
def isDrive (segment : String) : Bool :=
  match segment.toList with
  | [c, d] | c :: d :: '\\' :: _ => c.isAlpha && (d == ':' || d == '|')
  | _ => false

/-- Leaves the last of the segments before, which are held in reverse; a drive is never left. -/
def leave : List String → List String
  | [] => []
  | s :: before => if isDrive s then s :: before else before

/-- Resolves dot segments and encodes the others; the segments before are held in reverse. -/
def resolveSegments (before : List String) : List (List Char) → List String
  | [] => before.reverse
  | s :: rest =>
    let plain := String.toLower (String.ofList s)
    if [".", "%2e"].contains plain then
      if rest = [] then ("" :: before).reverse else resolveSegments before rest
    else if ["..", ".%2e", "%2e.", "%2e%2e"].contains plain then
      if rest = [] then ("" :: leave before).reverse else resolveSegments (leave before) rest
    else resolveSegments (String.ofList (Percent.encode Percent.inPath s) :: before) rest

def pathOf (web : Bool) (s : List Char) : UrlPath :=
  let s := if web then s.map fun c => if c = '\\' then '/' else c else s
  match s with
  | [] => .segments (if web then [""] else [])
  | c :: r => .segments (resolveSegments [] (Text.parts '/' (if c = '/' then r else s)))

/-- Reads what follows the slashes after the scheme. Outside the web the host may be missing, but not after a user or
before a number, nor where an at sign stands alone before a path, a query or a fragment. A backslash ends the number. -/
def withAuthority? (scheme : String) (s : List Char) (query fragment : Option String) : Option Url := do
  let web := isWebScheme scheme
  let ends (c : Char) := c == '/' || (web && c == '\\')
  let rest := s.dropWhile (!ends ·)
  let (user, place) := Text.cutLast '@' (s.takeWhile (!ends ·))
  let (username, password) := Text.cut ':' (user.getD [])
  let password := password.getD []
  let (host, number) := splitPlace false place
  let number := number.map fun n => (n.takeWhile (· != '\\'), n.dropWhile (· != '\\'))
  if host = [] then
    guard (!web && number = none && username = [] && password = [])
    guard (user ≠ some [] ∨ (rest = [] ∧ query = none ∧ fragment = none))
  let host ← if host = [] then some none else (if web then Host.web? host else Host.plain? host).map some
  let portNumber ← portNumber? scheme ((number.map (·.1)).getD [])
  let encode (t : List Char) := String.ofList (Percent.encode Percent.inUserinfo t)
  some
    { scheme, host, portNumber, query, fragment
      username := encode username
      password := encode password
      path := pathOf web ((number.map (·.2)).getD [] ++ rest) }

def withoutAuthority (scheme : String) (path : UrlPath) (query fragment : Option String) : Url :=
  { scheme, username := "", password := "", host := none, portNumber := none, path, query, fragment }

def parse? (text : String) : Option Url := do
  let (scheme, rest) ← scheme? (clean text.toList)
  let web := isWebScheme scheme
  let (rest, fragment) := Text.cut '#' rest
  let (body, query) := Text.cut '?' rest
  let encoded (set : Char → Bool) (t : List Char) := String.ofList (Percent.encode set t)
  let fragment := fragment.map (encoded Percent.inFragment)
  let query := query.map (encoded (if web then Percent.inWebQuery else Percent.inQuery))
  if web then withAuthority? scheme (body.dropWhile fun c => c == '/' || c == '\\') query fragment
  else match body with
    | '/' :: '/' :: r => withAuthority? scheme r query fragment
    | '/' :: _ => some (withoutAuthority scheme (pathOf false body) query fragment)
    | _ => some (withoutAuthority scheme (.rootless (encoded Percent.isControl body)) query fragment)

def pathText (u : Url) : String :=
  match u.path with
  | .rootless text => text
  | .segments segments => String.join (segments.map ("/" ++ ·))

def authorityText (u : Url) : String :=
  let user := u.username ++ (if u.password = "" then "" else ":" ++ u.password)
  (if user = "" then "" else user ++ "@") ++ ((u.host.map Host.text).getD "") ++
    ((u.portNumber.map fun n => ":" ++ toString n).getD "")

/-- The address in its normal form. -/
def text (u : Url) : String :=
  let authority := match u.host with
    | some _ => "//" ++ u.authorityText
    | none => ""
  u.scheme ++ ":" ++ authority ++ u.pathText ++ ((u.query.map ("?" ++ ·)).getD "") ++
    ((u.fragment.map ("#" ++ ·)).getD "")

def withoutFragment (u : Url) : Url := { u with fragment := none }

def withoutUser (u : Url) : Url := { u with username := "", password := "" }

end Url

end Intake
