import Intake.Media.Download

/-!
# A web to rehearse with

Pages are found by their address in its normal form, without a fragment. An address that is not listed is answered by
404, no page redirects, and no encrypted connection ever comes about.
-/

namespace Intake

structure WebPage where
  url : String
  status : Nat := 200
  contentType : Option String := none
  body : List UInt8 := []
  /-- Whether the body comes without an announced length. -/
  chunked : Bool := false
  /-- A length that is announced in place of the true one. -/
  declaredLength : Option Nat := none
  /-- Whether no answer comes, or none in time. -/
  silent : Bool := false
deriving Repr

namespace WebPage

/-- A body is cut off at the length that was announced for it, and is incomplete if it falls short of that. -/
def response (p : WebPage) : WebResponse :=
  let length := if p.chunked then none else some (p.declaredLength.getD p.body.length)
  { status := p.status
    contentType := p.contentType
    declaredLength := length
    chunks := [p.body.take (length.getD p.body.length)]
    isComplete := length.getD 0 ≤ p.body.length }

end WebPage

structure ScriptedWeb where
  reachable : Bool := true
  pages : List WebPage

namespace ScriptedWeb

def notFound : WebResponse :=
  { status := 404, contentType := none, declaredLength := some 0, chunks := [], isComplete := true }

/-- Whether a request gets through to the pages. -/
def receives (w : ScriptedWeb) (request : WebRequest) : Bool :=
  w.reachable && request.url.scheme = "http"

def transport (w : ScriptedWeb) : Transport := fun request =>
  if w.receives request then
    match w.pages.find? (·.url = request.url.withoutFragment.text) with
    | none => some (.response notFound)
    | some p => if p.silent then none else some (.response p.response)
  else none

def client (w : ScriptedWeb) : WebClient := { parse? := Url.parse?, transport := w.transport }

/-- What a download yields, and the requests for it that get through. -/
def fetch (w : ScriptedWeb) (d : Downloader) (channel : Channel) (media : MediaDescriptor) :
    Option FetchedMedia × List WebRequest :=
  let (result, requests) := d.fetch w.client channel media
  (result, requests.filter w.receives)

end ScriptedWeb

end Intake
