import Intake.Snowflake.Generator
import Intake.Store.Tables

/-!
# A store in memory

Tables together with a source of ids for the rows that the store itself makes, and with counters of look-ups and writes
that are to fail.
-/

namespace Intake

/-- Makes the ids of the rows that the store itself adds. -/
def MemoryStore.generator : Snowflake.Generator := { worker := 1000 }

structure MemoryStore where
  tables : Tables := {}
  ids : Snowflake.Generator := MemoryStore.generator
  /-- How many of the next channel look-ups fail. -/
  failingLookups : Nat := 0
  /-- How many of the next message writes fail. -/
  failingWrites : Nat := 0

namespace MemoryStore

def newId (s : MemoryStore) (clock : Time) : Snowflake × MemoryStore :=
  let (id, ids) := s.ids.generate clock
  (id, { s with ids })

def lookupFailure : DomainError := .database "injected channel lookup failure"

def writeFailure : DomainError := .database "injected message write failure"

/-! ## Seeding -/

/-- Adds a channel with an inbox, under a new and active account. -/
def addChannel (s : MemoryStore) (clock : Time) (provider : Provider) (phoneNumber : String)
    (credentials : Credentials) : MemoryStore :=
  let (id, s) := s.newId clock
  let (account, s) := s.newId clock
  let (inbox, s) := s.newId clock
  let channel : Channel := { id, account, provider, phoneNumber, credentials }
  let inbox : Inbox :=
    { id := inbox, account, channel := id, name := "WhatsApp " ++ phoneNumber, lockToSingleConversation := false }
  let tables := s.tables.setAccountStatus account .active
  { s with tables := { tables with channels := tables.channels ++ [channel], inboxes := tables.inboxes ++ [inbox] } }

/-! ## Channels -/

/-- Makes a channel look-up, unless it is to fail. -/
def lookUp {α : Type} (s : MemoryStore) (find : Tables → α) : Except DomainError α × MemoryStore :=
  match s.failingLookups with
  | 0 => (.ok (find s.tables), s)
  | n + 1 => (.error lookupFailure, { s with failingLookups := n })

def findChannelByPhone (s : MemoryStore) (phoneNumber : String) : Except DomainError (Option Channel) × MemoryStore :=
  s.lookUp (·.findChannelByPhone phoneNumber)

def findGupshupChannel (s : MemoryStore) (appName : String) : Except DomainError (Option Channel) × MemoryStore :=
  s.lookUp (·.findGupshupChannel appName)

/-! ## Contacts -/

/-- The account's contact with that phone number, made if there is none. -/
def contactFor (s : MemoryStore) (clock : Time) (new : NewContact) : Contact × MemoryStore :=
  match s.tables.findContactByPhone new.account new.phoneNumber with
  | some contact => (contact, s)
  | none =>
    let (id, s) := s.newId clock
    let contact : Contact :=
      { id, account := new.account, name := new.name, phoneNumber := some new.phoneNumber }
    (contact, { s with tables := s.tables.addContact contact })

/-- Finds the contact behind a sender by its link to the inbox, or else links it. -/
def upsertContact (s : MemoryStore) (clock : Time) (new : NewContact) :
    Except DomainError ResolvedContact × MemoryStore :=
  match s.tables.findContactInbox new.inbox new.sourceId with
  | some contactInbox =>
    match s.tables.findContact contactInbox.contact with
    | some contact => (.ok { contact, contactInbox }, s)
    | none => (.error (.database "dangling contact inbox"), s)
  | none =>
    let (contact, s) := s.contactFor clock new
    let (id, s) := s.newId clock
    let contactInbox : ContactInbox :=
      { id, contact := contact.id, inbox := new.inbox, sourceId := new.sourceId }
    (.ok { contact, contactInbox }, { s with tables := s.tables.addContactInbox contactInbox })

/-! ## Messages -/

/-- Replaces the tables, if a change of them succeeded. -/
def commit (s : MemoryStore) : Except DomainError Tables → Except DomainError Unit × MemoryStore
  | .ok tables => (.ok (), { s with tables })
  | .error e => (.error e, s)

def createMessage (s : MemoryStore) (m : Message) : Except DomainError Unit × MemoryStore :=
  match s.failingWrites with
  | 0 => s.commit (s.tables.addMessage m)
  | n + 1 => (.error writeFailure, { s with failingWrites := n })

def updateStatus (s : MemoryStore) (message : Snowflake) (status : MessageStatus) (externalError : Option String) :
    Except DomainError Unit × MemoryStore :=
  s.commit (s.tables.updateStatus message status externalError)

end MemoryStore

end Intake
