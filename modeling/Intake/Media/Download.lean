import Intake.Channel
import Intake.Media.Basic
import Intake.Media.Exchange

/-!
# Downloading media

Providers hand media over in three ways: by a direct link; by an id that a first request turns into a link; by an id
that is part of a fixed address. The channel's key goes along with every request that needs it, and a body longer than
the limit is given up.
-/

namespace Intake

inductive DownloadError where
  | missingCredentials
  | invalidUrl (text : String)
  | unsupportedSource (provider : Provider)
  | transport
  | status (status : Nat)
  | missingUrl
  | tooLarge (limit : Nat)
deriving DecidableEq, Repr

structure Downloader where
  graphBase : String
  dialogBase : String
  maxBytes : Nat := 100 * 1024 * 1024
deriving DecidableEq, Repr

/-- Talks to a web client, and remembers the requests that were sent. -/
abbrev Download (α : Type) := ExceptT DownloadError (StateM (List WebRequest)) α

namespace Download

variable {α : Type}

def ofOption (error : DownloadError) : Option α → Download α
  | some a => pure a
  | none => throw error

/-- How many redirects in a row are followed. -/
def maxRedirects : Nat := 10

/-- Sends a request and those that redirects lead to. Only web addresses can be asked. -/
def follow (transport : Transport) (redirects : Nat) (request : WebRequest) : Download WebResponse := do
  if !request.url.isHttp then throw .transport
  modify (· ++ [request])
  match ← ofOption .transport (transport request) with
  | .response response => return response
  | .redirect location => match redirects with
    | 0 => throw .transport
    | redirects + 1 => follow transport redirects (request.redirected location)

/-- Sends a request and refuses a response that reports a failure. A user in the address becomes credentials, unless
there are some. -/
def send (transport : Transport) (request : WebRequest) : Download WebResponse := do
  let authorization := request.authorization <|> Header.basic? request.url
  let response ← follow transport maxRedirects { request with authorization, url := request.url.withoutUser }
  if response.isFailure then throw (.status response.status)
  return response

/-- The whole body, if it has at most `limit` bytes. -/
def collect (limit : Nat) (isComplete : Bool) (read : List UInt8) :
    List (List UInt8) → Except DownloadError (List UInt8)
  | [] => if isComplete then .ok read else .error .transport
  | chunk :: chunks =>
    if limit < read.length + chunk.length then .error (.tooLarge limit)
    else collect limit isComplete (read ++ chunk) chunks

/-- The body and the type of a resource. -/
def get (transport : Transport) (maxBytes : Nat) (request : WebRequest) :
    Download (List UInt8 × Option String) := do
  let response ← send transport request
  if maxBytes < response.declaredLength.getD 0 then throw (.tooLarge maxBytes)
  let bytes ← collect maxBytes response.isComplete [] response.chunks
  return (bytes, response.contentType.bind Header.mediaType?)

def parseUrl (client : WebClient) (text : String) : Download Url :=
  ofOption (.invalidUrl text) (client.parse? (Text.trim text))

def bearer (key : String) : Download String :=
  ofOption .missingCredentials (Header.bearer? key)

/-- Reads the answer to a look-up: a record with a `url`. -/
def locatedUrl (response : WebResponse) : Download String := do
  if !response.isComplete then throw .transport
  let text ← ofOption .transport (String.fromUTF8? response.body.toByteArray)
  let located ← ofOption .transport ((Json.parseRecord [("url", .scalar)] text).bind record.decode)
  ofOption .missingUrl located
where
  record : Json.Record (Option String) := Json.Record.optional "url" Json.string?

end Download

namespace Downloader

open Download

/-- Bases of addresses are joined to paths by a slash. -/
def ofBases (graphBase dialogBase : String) : Downloader :=
  { graphBase := Text.dropTrailing '/' graphBase, dialogBase := Text.dropTrailing '/' dialogBase }

/-- The name of a file that has neither a name nor a caption. -/
def defaultFilename : String := "attachment"

def body (d : Downloader) (client : WebClient) (channel : Channel) (source : MediaSource) :
    Download (List UInt8 × Option String) := do
  let key := channel.credentials.apiKey?
  match source, channel.provider with
  | .url link, _ =>
    let authorization ← match key with
      | some key => (bearer key).map some
      | none => pure none
    let url ← parseUrl client link
    get client.transport d.maxBytes { url, authorization }
  | .mediaId id, .cloud =>
    let key ← ofOption .missingCredentials key
    let lookup ← parseUrl client (d.graphBase ++ "/" ++ id)
    let authorization ← bearer key
    let response ← send client.transport { url := lookup, authorization }
    let url ← parseUrl client (← locatedUrl response)
    get client.transport d.maxBytes { url, authorization }
  | .mediaId id, .default =>
    let url ← parseUrl client (d.dialogBase ++ "/v1/media/" ++ id)
    let key ← ofOption .missingCredentials key
    let apiKey ← ofOption .missingCredentials (Header.value? key)
    get client.transport d.maxBytes { url, apiKey }
  | .mediaId _, .gupshup => throw (.unsupportedSource .gupshup)

def download (d : Downloader) (client : WebClient) (channel : Channel) (media : MediaDescriptor) :
    Download FetchedMedia := do
  let (data, headerType) ← d.body client channel media.source
  return {
    filename := (media.filename <|> media.caption).getD defaultFilename
    contentType := (media.contentType <|> headerType).getD defaultContentType
    data }

/-- The media, unless the download fails, and the requests that were sent for them. -/
def fetch (d : Downloader) (client : WebClient) (channel : Channel) (media : MediaDescriptor) :
    Option FetchedMedia × List WebRequest :=
  let (result, requests) := (d.download client channel media).run.run []
  (result.toOption, requests)

end Downloader

end Intake
