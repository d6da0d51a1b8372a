import Intake.Url.Basic

/-!
# Web requests

What goes over the wire when media are downloaded: requests that only get, responses whose body arrives in chunks, and
redirects. Reading addresses and getting requests answered is up to a `WebClient`.
-/

namespace Intake

namespace Url

/-- Whether requests can go there. -/
def isHttp (u : Url) : Bool := u.scheme = "http" || u.scheme = "https"

/-- The number after the host, or else the usual one. -/
def knownPortNumber? (u : Url) : Option Nat := u.portNumber <|> usualPortNumber? u.scheme

/-- Whether both are served by the same host under the same number. -/
def sharesPlace (u v : Url) : Bool := u.host = v.host && u.knownPortNumber? = v.knownPortNumber?

end Url

structure WebRequest where
  url : Url
  authorization : Option String := none
  /-- The value of the header `d360-api-key`. -/
  apiKey : Option String := none
deriving DecidableEq, Repr

/-- The request that a redirect leads to. Its credentials stay in their place, and other headers go along. -/
def WebRequest.redirected (q : WebRequest) (location : Url) : WebRequest :=
  { q with
    url := location.withoutUser
    authorization := if location.sharesPlace q.url then q.authorization else none }

structure WebResponse where
  status : Nat
  contentType : Option String
  /-- The length that was announced, if one was. -/
  declaredLength : Option Nat
  chunks : List (List UInt8)
  /-- Whether the body came to its end before the connection did. -/
  isComplete : Bool
deriving Repr

namespace WebResponse

def body (r : WebResponse) : List UInt8 := r.chunks.flatten

def isFailure (r : WebResponse) : Bool := 400 ≤ r.status && r.status < 600

end WebResponse

inductive WebReply where
  | response (response : WebResponse)
  /-- The location of a redirect, as it reads from where the request went. -/
  | redirect (location : Url)
deriving Repr

/-- Answers a request, unless there is nobody to answer in time. -/
abbrev Transport := WebRequest → Option WebReply

structure WebClient where
  /-- Reads an absolute address. -/
  parse? : String → Option Url
  transport : Transport

namespace Header

/-- The text as the value of a header, which may hold no control character but the tab. -/
def value? (text : String) : Option String :=
  if text.toList.all fun c => (0x20 ≤ c.toNat && c.toNat ≠ 0x7F) || c == '\t' then some text else none

def isReadable (text : String) : Bool :=
  text.toList.all fun c => (0x20 ≤ c.toNat && c.toNat < 0x7F) || c == '\t'

/-- The type in a content type, without its parameters. -/
def mediaType? (text : String) : Option String :=
  if isReadable text then Text.nonBlank (String.ofList (Text.cut ';' text.toList).1) else none

def bearer? (key : String) : Option String := value? ("Bearer " ++ key)

def base64Digit (n : Nat) : Char :=
  ("ABCDEFGHIJKLMNOPQRSTUVWXYZabcdefghijklmnopqrstuvwxyz0123456789+/".toList)[n]?.getD '='

def base64 : List UInt8 → List Char
  | [] => []
  | [a] =>
    let n := a.toNat * 16
    [base64Digit (n / 64), base64Digit (n % 64), '=', '=']
  | [a, b] =>
    let n := (a.toNat * 256 + b.toNat) * 4
    [base64Digit (n / 4096), base64Digit (n / 64 % 64), base64Digit (n % 64), '=']
  | a :: b :: c :: r =>
    let n := (a.toNat * 256 + b.toNat) * 256 + c.toNat
    base64Digit (n / 262144) :: base64Digit (n / 4096 % 64) :: base64Digit (n / 64 % 64) :: base64Digit (n % 64) ::
      base64 r

/-- The user and the password of an address as credentials, if it has any. -/
def basic? (u : Url) : Option String :=
  if u.username = "" ∧ u.password = "" then none
  else
    let bytes := Percent.decode u.username.toList ++ 0x3A :: Percent.decode u.password.toList
    some ("Basic " ++ String.ofList (base64 bytes))

end Header

end Intake
