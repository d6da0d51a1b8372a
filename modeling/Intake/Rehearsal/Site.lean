import Intake.Guard.Memory
import Intake.Rehearsal.Script
import Intake.Store.Memory

/-!
# Sites

The world that a script runs in: a store, a guard that counts its calls, the media that are served, the faults that are
set, and a record of all requests and downloads. Its clock stands still, but pauses are added up. The answers of the
steps taken during a download are kept with it in their written form `ρ`.
-/

namespace Intake.Rehearsal

structure DownloadRecord (ρ : Type) where
  provider : Provider
  media : MediaDescriptor
  /-- The answers of the steps taken meanwhile, if there were any. -/
  during : Option (List ρ)

structure Site (ρ : Type) where
  store : MemoryStore := {}
  guard : MemoryGuard := .default
  claims : Nat := 0
  releases : Nat := 0
  ids : Snowflake.Generator := { worker := 1 }
  clock : Time := 1767225600000
  waited : Nat := 0
  /-- Channels whose inbox cannot be found. -/
  withoutInbox : List Snowflake := []
  faults : List Fault := []
  media : List Medium := []
  /-- One entry for each download, empty while it is under way. -/
  downloads : List (Option (DownloadRecord ρ)) := []
  requests : List Request := []

namespace Site

variable {ρ : Type}

/-- The guard's clock, which stands still too. -/
def instant (_ : Site ρ) : Instant := 0

def tables (s : Site ρ) : Tables := s.store.tables

def mapTables (f : Tables → Tables) (s : Site ρ) : Site ρ :=
  { s with store := { s.store with tables := f s.store.tables } }

/-! ## Setting up -/

def applyChange (c : Channel) (inbox : Inbox) (change : ChannelChange) (s : Site ρ) : Site ρ :=
  let onTables {α : Type} (set : Tables → α → Tables) (value : Option α) (s : Site ρ) :=
    s.mapTables fun t => (value.map (set t)).getD t
  let s := onTables (fun t => t.setAccountStatus c.account) change.account s
  let s := onTables (fun t => t.setReauthorizationRequired c.id) change.reauthorizationRequired s
  let s := onTables (fun t => t.setLock inbox.id) change.lock s
  match change.hasInbox with
  | none => s
  | some true => { s with withoutInbox := s.withoutInbox.filter (· ≠ c.id) }
  | some false => { s with withoutInbox := c.id :: s.withoutInbox }

/-- The channel at a position, with the inbox that was made for it. -/
def channel? (s : Site ρ) (index : Nat) : Option (Channel × Inbox) := do
  let c ← s.tables.channels[index]?
  let i ← s.tables.inboxes[index]?
  some (c, i)

def changeChannel (index : Nat) (change : ChannelChange) (s : Site ρ) : Site ρ :=
  match s.channel? index with
  | some (c, i) => s.applyChange c i change
  | none => s

def addChannel (setup : ChannelSetup) (s : Site ρ) : Site ρ :=
  let index := s.tables.channels.length
  let store := s.store.addChannel s.clock setup.provider setup.phoneNumber setup.credentials
  changeChannel index
    { account := some setup.account
      reauthorizationRequired := some setup.reauthorizationRequired
      lock := some setup.lock
      hasInbox := some setup.hasInbox }
    { s with store }

def serve (medium : Medium) (s : Site ρ) : Site ρ :=
  { s with media := medium :: s.media.filter (·.source ≠ medium.source) }

def ofScript (script : Script) : Site ρ :=
  let site : Site ρ := script.channels.foldl (fun s c => s.addChannel c) {}
  script.media.foldl (fun s m => s.serve m) site

/-! ## Answering requests -/

/-- Claims for a delivery; the guard's clock is far from the end of time. -/
def tryClaim (channel : Snowflake) (sourceId : String) (s : Site ρ) : Except DomainError Bool × Site ρ :=
  let s := { s with claims := s.claims + 1 }
  match s.guard.tryClaim? s.instant channel sourceId with
  | some (claimed, guard) => (.ok claimed, { s with guard })
  | none => (.error (.internal Instant.deadlineOverflow), s)

def release (channel : Snowflake) (sourceId : String) (s : Site ρ) : Site ρ :=
  { s with releases := s.releases + 1, guard := s.guard.release channel sourceId }

/-- The steps that wait for the first download of a source, which are handed out once. -/
def takeSteps (source : String) (s : Site ρ) : List Step × Site ρ :=
  match s.media.find? (·.source = source) with
  | some m => (m.during, { s with media := Tables.modifyFirst (·.source = source) ({ · with during := [] }) s.media })
  | none => ([], s)

def file? (s : Site ρ) (source : String) : Option FetchedMedia :=
  (s.media.find? (·.source = source)).bind (·.file)

/-- Downloads a medium. The steps that come with it are taken by `rehearse` before the data are looked up. -/
def download (rehearse : List Step → Site ρ → List ρ × Site ρ) (channel : Channel) (media : MediaDescriptor)
    (s : Site ρ) : Option FetchedMedia × Site ρ :=
  let source := media.source.text
  let index := s.downloads.length
  let (steps, s) := takeSteps source { s with downloads := s.downloads ++ [none] }
  let (answers, s) := if steps.isEmpty then ([], s) else rehearse steps s
  let record : DownloadRecord ρ :=
    { provider := channel.provider, media, during := if steps.isEmpty then none else some answers }
  (s.file? source, { s with downloads := s.downloads.set index (some record) })

/-- Carries a request out. -/
def answer (rehearse : List Step → Site ρ → List ρ × Site ρ) : Program.Handler (Site ρ)
  | .findChannelByPhone phoneNumber, s =>
    let (reply, store) := s.store.findChannelByPhone phoneNumber
    (reply, { s with store })
  | .findGupshupChannel appName, s =>
    let (reply, store) := s.store.findGupshupChannel appName
    (reply, { s with store })
  | .accountStatus account, s => (.ok (s.tables.accountStatus account), s)
  | .findInbox channel, s =>
    (.ok (if s.withoutInbox.contains channel then none else s.tables.findInbox channel), s)
  | .tryClaim channel sourceId, s => s.tryClaim channel sourceId
  | .release channel sourceId, s => (.ok (), s.release channel sourceId)
  | .findMessage inbox sourceId, s => (.ok (s.tables.findMessage inbox sourceId), s)
  | .createMessage m, s =>
    let (reply, store) := s.store.createMessage m
    (reply, { s with store })
  | .updateStatus message status externalError, s =>
    let (reply, store) := s.store.updateStatus message status externalError
    (reply, { s with store })
  | .upsertContact contact, s =>
    let (reply, store) := s.store.upsertContact s.clock contact
    (reply, { s with store })
  | .findConversation contactInbox filter, s => (.ok (s.tables.findConversation contactInbox filter), s)
  | .createConversation c, s => (.ok (), s.mapTables (·.addConversation c))
  | .createAttachment a, s => (.ok (), s.mapTables (·.addAttachment a))
  | .fetch channel media, s => s.download rehearse channel media
  | .newId, s =>
    let (id, ids) := s.ids.generate s.clock
    (id, { s with ids })
  | .now, s => (s.clock, s)
  | .pause millis, s => ((), { s with waited := s.waited + millis })

/-- Notes a request down, and carries it out unless a fault refuses it. -/
def handle (rehearse : List Step → Site ρ → List ρ × Site ρ) : Program.Handler (Site ρ) := fun r s =>
  let s := if r.isCall then { s with requests := s.requests ++ [r] } else s
  let (error, faults) := Fault.take r.name s.faults
  let s := { s with faults }
  match error.bind (Request.refusal? · r) with
  | some reply => (reply, s)
  | none => answer rehearse r s

end Site

end Intake.Rehearsal
