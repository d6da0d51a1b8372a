import Intake.Delivery.Report
import Intake.Delivery.Routing

/-!
# Ingesting messages

A message is claimed before it is looked up, so that of two deliveries racing through the look-up only one goes on; the
claim is given back whatever happens. The store refuses a second message of the same source id, which catches what
slips past an expired claim.
-/

namespace Intake.Ingest

/-- The title of a shared contact without phone numbers. -/
def noPhoneTitle : String := "Phone number is not available"

/-- Source ids of the messages made from one contacts event: the event's own, then `:1`, `:2`, … -/
def cardSourceId (sourceId : String) (index : Nat) : String :=
  if index = 0 then sourceId else sourceId ++ ":" ++ toString index

/-- A message to be written, with the attachments that go with it. -/
structure Draft where
  message : Message
  attachments : List Attachment

/-- The conversation that a new message of the contact joins: the latest one that the inbox admits, or a new one. -/
def resolveConversation (inbox : Inbox) (contact : ResolvedContact) : Attempt Conversation := do
  let filter : ConversationFilter := if inbox.lockToSingleConversation then .any else .unresolved
  match ← Ask.findConversation contact.contactInbox.id filter with
  | some conversation => return conversation
  | none =>
    let id ← Ask.newId
    let conversation : Conversation :=
      { id
        account := inbox.account
        inbox := inbox.id
        contact := contact.contact.id
        contactInbox := contact.contactInbox.id
        status := .open
        createdAt := ← Ask.now }
    Ask.createConversation conversation
    return conversation

/-! ## Drafts -/

/-- Makes messages of one event, given their content and source id. -/
abbrev Drafter := String → String → Program Message

def drafter (inbox : Inbox) (conversation : Conversation) (contact : Contact) (replyTo : Option String) : Drafter :=
  fun content sourceId => do
    let id ← Ask.newId
    return .incoming id inbox.account inbox.id conversation.id contact.id content sourceId replyTo (← Ask.now)

def fallbacks (message : Message) : List String → Program (List Attachment)
  | [] => pure []
  | title :: titles => do
    let id ← Ask.newId
    let rest ← fallbacks message titles
    return .ofMessage id message .contact (.fallback title) :: rest

/-- One attachment for each phone number on the card. -/
def cardAttachments (message : Message) (card : ContactCard) : Program (List Attachment) :=
  fallbacks message (if card.phones = [] then [noPhoneTitle] else card.phones)

/-- One draft for each card, the first of them with the given index. -/
def draftCards (draft : Drafter) (sourceId : String) : Nat → List ContactCard → Program (List Draft)
  | _, [] => pure []
  | index, card :: cards => do
    let message ← draft (card.name.getD MessageContent.placeholder) (cardSourceId sourceId index)
    let attachments ← cardAttachments message card
    let rest ← draftCards draft sourceId (index + 1) cards
    return { message, attachments } :: rest

/-- A shared place, or the downloaded media; a download that fails leaves the message without. -/
def attachments (channel : Channel) (record : Message) (message : InboundMessage) : Program (List Attachment) :=
  match message.content with
  | .location l => do
    let id ← Ask.newId
    return [.ofMessage id record .location (.location l.latitude l.longitude l.label l.url)]
  | .media media =>
    if message.subtype.skipsMediaFetch then pure []
    else do
      match ← Ask.fetch channel media with
      | none => return []
      | some f =>
        let id ← Ask.newId
        return [.ofMessage id record message.subtype.fileType (.file f.filename f.contentType f.data)]
  | _ => pure []

def drafts (draft : Drafter) (channel : Channel) (sourceId : String) (message : InboundMessage) :
    Program (List Draft) :=
  match message.content with
  | .contacts (card :: cards) => draftCards draft sourceId 0 (card :: cards)
  | content => do
    let record ← draft content.textOrPlaceholder sourceId
    return [{ message := record, attachments := ← attachments channel record message }]

/-! ## Writing -/

/-- Writes attachments and counts them; one that cannot be written is given up. -/
def writeAttachments : List Attachment → Program Nat
  | [] => pure 0
  | a :: as => do
    let written ← (Ask.createAttachment a).run
    let rest ← writeAttachments as
    return (if written matches .ok _ then rest + 1 else rest)

/-- Writes the drafts after the first; those already stored are passed over. -/
def writeRest (sourceId : String) (messages : List Snowflake) (count : Nat) : List Draft → Attempt EventOutcome
  | [] => pure (.messageCreated sourceId messages count)
  | d :: ds => do
    match ← ExceptT.lift (Ask.createMessage d.message).run with
    | .ok () =>
      let n ← writeAttachments d.attachments
      writeRest sourceId (messages ++ [d.message.id]) (count + n) ds
    | .error (.duplicateSourceId ..) => writeRest sourceId messages count ds
    | .error e => throw e

/-- Writes drafts in order; the first decides whether the event is a duplicate. -/
def write (sourceId : String) : List Draft → Attempt EventOutcome
  | [] => pure (.messageCreated sourceId [] 0)
  | d :: ds => do
    match ← ExceptT.lift (Ask.createMessage d.message).run with
    | .ok () =>
      let n ← writeAttachments d.attachments
      writeRest sourceId [d.message.id] n ds
    | .error (.duplicateSourceId ..) => return .dropped sourceId .duplicate
    | .error e => throw e

/-! ## Events -/

/-- What happens between claim and release. -/
def persist (target : ResolvedChannel) (sourceId : String) (message : InboundMessage) (contact : NewContact) :
    Attempt EventOutcome := do
  match ← Ask.findMessage target.inbox.id sourceId with
  | some _ => return .dropped sourceId .duplicate
  | none =>
    let contact ← Ask.upsertContact contact
    let conversation ← resolveConversation target.inbox contact
    let draft := drafter target.inbox conversation contact.contact message.replyTo
    write sourceId (← drafts draft target.channel sourceId message)

/-- Runs `body` under the claim on a source id. -/
def claimed (channel : Snowflake) (sourceId : String) (body : Attempt EventOutcome) : Attempt EventOutcome := do
  if ← Ask.tryClaim channel sourceId then
    let result ← ExceptT.lift body.run
    let _ ← ExceptT.lift (Ask.release channel sourceId).run
    ExceptT.mk (pure result)
  else
    return .dropped sourceId .inFlight

/-- Why a message is dropped before it is claimed, or else its sender. -/
def accept (inbox : Inbox) (sender : Option Sender) (message : InboundMessage) : Except DropReason NewContact :=
  if !message.subtype.isProcessable then .error (.unprocessable message.subtype.name)
  else if message.isErrorEvent then .error .providerErrorEvent
  else match sender.bind (NewContact.ofSender? inbox) with
    | none => .error .missingSender
    | some contact => .ok contact

def ingestMessage (target : ResolvedChannel) (sourceId : String) (sender : Option Sender)
    (message : InboundMessage) : Attempt EventOutcome :=
  match accept target.inbox sender message with
  | .error reason => pure (.dropped sourceId reason)
  | .ok contact => claimed target.channel.id sourceId (persist target sourceId message contact)

/-- The error to remember: that of a failure, if it says one. -/
def externalError? (status : MessageStatus) (report : StatusReport) : Option String :=
  match status with
  | .failed => report.errors.head?.map ProviderError.diagnostic
  | _ => none

/-- Folds a delivery report into the message that it is about. -/
def reconcile (inbox : Inbox) (sourceId : String) (report : StatusReport) : Program EventOutcome := do
  match ← (Ask.findMessage inbox.id sourceId).run with
  | .error _ => return .dropped sourceId .storeUnavailable
  | .ok none => return .dropped sourceId .unknownMessage
  | .ok (some message) =>
    match MessageStatus.ofName? report.status with
    | none => return .dropped sourceId (.invalidStatus report.status)
    | some status =>
      match ← (Ask.updateStatus message.id status (externalError? status report)).run with
      | .ok () => return .statusUpdated sourceId status
      | .error _ => return .dropped sourceId .storeUnavailable

/-- Makes sure that an announced contact exists. -/
def resolveCard (inbox : Inbox) (sourceId : String) (sender : Option Sender) : Program EventOutcome :=
  match sender.bind (NewContact.ofSender? inbox) with
  | none => pure (.dropped sourceId .missingSender)
  | some contact => do
    match ← (Ask.upsertContact contact).run with
    | .ok resolved => return .contactResolved sourceId resolved.contact.id
    | .error _ => return .dropped sourceId .storeUnavailable

def handleEvent (target : ResolvedChannel) (event : IncomingEvent) : Attempt EventOutcome :=
  match event.body with
  | .message m => ingestMessage target event.sourceId event.sender m
  | .status r => ExceptT.lift (reconcile target.inbox event.sourceId r)
  | .contactCard => ExceptT.lift (resolveCard target.inbox event.sourceId event.sender)

/-- Handles events in order; the first error ends the run. -/
def handleEvents (target : ResolvedChannel) : List IncomingEvent → Attempt (List EventOutcome)
  | [] => pure []
  | e :: es => do
    let outcome ← handleEvent target e
    let outcomes ← handleEvents target es
    return outcome :: outcomes

end Intake.Ingest
