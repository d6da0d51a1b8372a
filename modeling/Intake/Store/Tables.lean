import Intake.Attachment
import Intake.Error

/-!
# Tables

All that is known about tenants, and all that was received from them. Rows are kept in the order of their creation; a
look-up finds the first row that fits. An inbox holds at most one message of a source id.
-/

namespace Intake

structure Tables where
  channels : List Channel := []
  inboxes : List Inbox := []
  accounts : List (Snowflake × AccountStatus) := []
  contacts : List Contact := []
  contactInboxes : List ContactInbox := []
  conversations : List Conversation := []
  messages : List Message := []
  attachments : List Attachment := []
deriving Repr, Inhabited

namespace Tables

/-- Changes the first element that satisfies `p`. -/
def modifyFirst {α : Type} (p : α → Bool) (f : α → α) : List α → List α
  | [] => []
  | a :: as => if p a then f a :: as else a :: modifyFirst p f as

/-! ## Channels -/

def findChannelByPhone (t : Tables) (phoneNumber : String) : Option Channel :=
  t.channels.find? (·.phoneNumber = phoneNumber)

def findGupshupChannel (t : Tables) (appName : String) : Option Channel :=
  t.channels.find? fun c => c.provider = .gupshup && c.credentials.appName? = some appName

def findInbox (t : Tables) (channel : Snowflake) : Option Inbox :=
  t.inboxes.find? (·.channel = channel)

/-- An account that is not known counts as suspended. -/
def accountStatus (t : Tables) (account : Snowflake) : AccountStatus :=
  (t.accounts.lookup account).getD .suspended

def setAccountStatus (t : Tables) (account : Snowflake) (status : AccountStatus) : Tables :=
  { t with accounts := (account, status) :: t.accounts.filter (·.1 ≠ account) }

def setReauthorizationRequired (t : Tables) (channel : Snowflake) (required : Bool) : Tables :=
  { t with
    channels := modifyFirst (·.id = channel) (fun c => { c with reauthorizationRequired := required }) t.channels }

def setLock (t : Tables) (inbox : Snowflake) (lock : Bool) : Tables :=
  { t with
    inboxes := modifyFirst (·.id = inbox) (fun i => { i with lockToSingleConversation := lock }) t.inboxes }

/-! ## Contacts -/

def findContact (t : Tables) (id : Snowflake) : Option Contact :=
  t.contacts.find? (·.id = id)

def findContactInbox (t : Tables) (inbox : Snowflake) (sourceId : String) : Option ContactInbox :=
  t.contactInboxes.find? fun c => c.inbox = inbox && c.sourceId = sourceId

def findContactByPhone (t : Tables) (account : Snowflake) (phoneNumber : String) : Option Contact :=
  t.contacts.find? fun c => c.account = account && c.phoneNumber = some phoneNumber

def addContact (t : Tables) (c : Contact) : Tables := { t with contacts := t.contacts ++ [c] }

def addContactInbox (t : Tables) (c : ContactInbox) : Tables :=
  { t with contactInboxes := t.contactInboxes ++ [c] }

/-! ## Conversations -/

def findConversation (t : Tables) (contactInbox : Snowflake) (filter : ConversationFilter) : Option Conversation :=
  Conversation.latest? (t.conversations.filter fun c => c.contactInbox = contactInbox && filter.admits c)

def addConversation (t : Tables) (c : Conversation) : Tables := { t with conversations := t.conversations ++ [c] }

def resolveConversations (t : Tables) : Tables :=
  { t with conversations := t.conversations.map fun c => { c with status := .resolved } }

/-! ## Messages -/

def findMessage (t : Tables) (inbox : Snowflake) (sourceId : String) : Option Message :=
  t.messages.find? fun m => m.inbox = inbox && m.sourceId = sourceId

/-- Adds a message, unless its inbox holds one of the same source id. -/
def addMessage (t : Tables) (m : Message) : Except DomainError Tables :=
  if (t.findMessage m.inbox m.sourceId).isSome then .error (.duplicateSourceId m.inbox m.sourceId)
  else .ok { t with messages := t.messages ++ [m] }

def updateStatus (t : Tables) (message : Snowflake) (status : MessageStatus) (externalError : Option String) :
    Except DomainError Tables :=
  if t.messages.any (·.id = message) then
    .ok { t with messages := modifyFirst (·.id = message) (·.applyStatus status externalError) t.messages }
  else .error (.messageNotFound message)

def addAttachment (t : Tables) (a : Attachment) : Tables := { t with attachments := t.attachments ++ [a] }

end Tables

end Intake
