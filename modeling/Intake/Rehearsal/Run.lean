import Intake.Rehearsal.Site

/-!
# Rehearsals

Runs a script: every step is answered, and the site ends up in some state. A delivery may download a medium and so take
further steps, which may download in turn; as the steps of a medium are taken only once, this ends.
-/

namespace Intake.Rehearsal

/-- The answer of a step. -/
inductive Answer where
  | done
  | unreadableJob
  | unknownChannel
  | report (report : IngestReport)
  | refused (error : DomainError)
  /-- A row could not be put into the tables. -/
  | unseeded (error : DomainError)
  /-- What became of a line, and how long it paused. -/
  | output (output : JobRunner.JobOutput) (waited : Nat)
  | resolution (resolution : Resolution)
  | outcome (outcome : EventOutcome)
  | claimed (claimed : Bool)
  | look

/-- Writes an answer, given the requests that it took and the site after it. -/
abbrev Writer (ρ : Type) := Answer → List Request → Site ρ → ρ

variable {ρ : Type}

abbrev Rehearse (ρ : Type) := List Step → Site ρ → List ρ × Site ρ

/-- Runs something for a job, if it can be read. -/
def withJob {α : Type} (rehearse : Rehearse ρ) (job : Json) (program : WebhookJob → Attempt α) (answer : α → Answer)
    (s : Site ρ) : Answer × Site ρ :=
  match WebhookJob.ofJson? job with
  | none => (.unreadableJob, s)
  | some job =>
    match (program job).run.run (Site.handle rehearse) s with
    | (.ok a, s) => (answer a, s)
    | (.error e, s) => (.refused e, s)

def withChannel (channel : Nat) (s : Site ρ) (f : Channel → Inbox → Answer × Site ρ) : Answer × Site ρ :=
  match s.channel? channel with
  | some (c, i) => f c i
  | none => (.unknownChannel, s)

def seeded : Except DomainError Unit × MemoryStore → Site ρ → Answer × Site ρ
  | (.ok (), store), s => (.done, { s with store })
  | (.error e, store), s => (.unseeded e, { s with store })

def seedConversation (inbox : Inbox) (phone : String) (status : ConversationStatus) (createdAt : Time)
    (id : Snowflake) (s : Site ρ) : Answer × Site ρ :=
  let contact : NewContact :=
    { account := inbox.account, inbox := inbox.id, sourceId := phone, name := "seed", phoneNumber := "+" ++ phone }
  match s.store.upsertContact s.clock contact with
  | (.error e, store) => (.unseeded e, { s with store })
  | (.ok resolved, store) =>
    let conversation : Conversation :=
      { id, account := inbox.account, inbox := inbox.id, contact := resolved.contact.id
        contactInbox := resolved.contactInbox.id, status, createdAt }
    (.done, Site.mapTables (·.addConversation conversation) { s with store })

def seedMessage (inbox : Inbox) (id : Snowflake) (sourceId content : String) (direction : MessageDirection)
    (status : MessageStatus) (externalError : Option String) (s : Site ρ) : Answer × Site ρ :=
  let message : Message :=
    { id, account := inbox.account, inbox := inbox.id, conversation := .ofInt 0, sender := none, direction, content
      sourceId, inReplyTo := none, status, externalError, createdAt := s.clock }
  seeded (s.store.createMessage message) s

/-- Takes one step. -/
def step (rehearse : Rehearse ρ) : Step → Site ρ → Answer × Site ρ
  | .job job, s => withJob rehearse job perform .report s
  | .line line maxAttempts text, s =>
    let (output, s') := (JobRunner.runLine maxAttempts line text).run (Site.handle rehearse) s
    (.output output (s'.waited - s.waited), s')
  | .resolve job, s => withJob rehearse job Routing.resolve .resolution s
  | .status channel sourceId report, s => withChannel channel s fun _ inbox =>
    let (outcome, s) := (Ingest.reconcile inbox sourceId report).run (Site.handle rehearse) s
    (.outcome outcome, s)
  | .claim channel sourceId, s => withChannel channel s fun c _ =>
    match s.tryClaim c.id sourceId with
    | (.ok claimed, s) => (.claimed claimed, s)
    | (.error e, s) => (.refused e, s)
  | .release channel sourceId, s => withChannel channel s fun c _ => (.done, s.release c.id sourceId)
  | .fail fault, s => (.done, { s with faults := Fault.set fault s.faults })
  | .failStore lookups writes, s =>
    let failingLookups := lookups.getD s.store.failingLookups
    let failingWrites := writes.getD s.store.failingWrites
    (.done, { s with store := { s.store with failingLookups, failingWrites } })
  | .change channel change, s => (.done, s.changeChannel channel change)
  | .addChannel setup, s => (.done, s.addChannel setup)
  | .resolveConversations, s => (.done, s.mapTables (·.resolveConversations))
  | .serve source file during, s => (.done, s.serve { source, file, during })
  | .seedConversation channel phone status createdAt id, s => withChannel channel s fun _ inbox =>
    seedConversation inbox phone status createdAt id s
  | .seedMessage channel id sourceId content direction status externalError, s => withChannel channel s fun _ inbox =>
    seedMessage inbox id sourceId content direction status externalError s
  | .look, s => (.look, s)

def steps (write : Writer ρ) (rehearse : Rehearse ρ) : List Step → Site ρ → List ρ × Site ρ
  | [], s => ([], s)
  | t :: ts, s =>
    let before := s.requests.length
    let (answer, s) := step rehearse t s
    let written := write answer (s.requests.drop before) s
    let (rest, s) := steps write rehearse ts s
    (written :: rest, s)

/-- Takes steps that download at most `depth` deep within each other. -/
def stepsWithin (write : Writer ρ) : (depth : Nat) → List Step → Site ρ → List ρ × Site ρ
  | 0 => fun _ s => ([], s)
  | depth + 1 => steps write (stepsWithin write depth)

/-- Runs a script. Every nested download takes at least one of the script's steps, so its size bounds the depth. -/
def run (write : Writer ρ) (script : Script) : List ρ × Site ρ :=
  stepsWithin write (script.size + 1) script.steps (.ofScript script)

/-! ## Names of rows -/

/-- A row's name: its table, and its position there. An id that is not there stands for itself. -/
def rowName (table : String) (ids : List Snowflake) (id : Snowflake) : String :=
  match ids.idxOf? id with
  | some i => table ++ ":" ++ toString i
  | none => id.text

end Intake.Rehearsal

namespace Intake.Tables

open Rehearsal (rowName)

variable (t : Tables)

def channelName : Snowflake → String := rowName "channel" (t.channels.map (·.id))

/-- An account is named by its channel. -/
def accountName : Snowflake → String := rowName "account" (t.channels.map (·.account))

def inboxName : Snowflake → String := rowName "inbox" (t.inboxes.map (·.id))

def contactName : Snowflake → String := rowName "contact" (t.contacts.map (·.id))

def conversationName : Snowflake → String := rowName "conversation" (t.conversations.map (·.id))

def messageName : Snowflake → String := rowName "message" (t.messages.map (·.id))

/-- Writes ids as names of rows. -/
def idWriter : IdWriter :=
  { channel := fun id => .string (t.channelName id)
    message := fun id => .string (t.messageName id)
    contact := fun id => .string (t.contactName id) }

end Intake.Tables
