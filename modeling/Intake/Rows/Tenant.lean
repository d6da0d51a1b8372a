import Intake.Conversation

/-!
# Channels, contacts and conversations as rows
-/

namespace Intake

structure ChannelRow where
  id : Snowflake
  account : Snowflake
  provider : String
  phoneNumber : String
  providerConfig : Json
  reauthorizationRequired : Bool
  messageTemplates : Option Json

def ChannelRow.toChannel (r : ChannelRow) : Channel :=
  { id := r.id
    account := r.account
    provider := .ofName r.provider
    phoneNumber := r.phoneNumber
    credentials := .ofJson r.providerConfig
    reauthorizationRequired := r.reauthorizationRequired
    messageTemplates := r.messageTemplates }

/-- A contact inbox joined with its contact. -/
structure ContactRow where
  contactInbox : Snowflake
  inbox : Snowflake
  sourceId : String
  contact : Snowflake
  account : Snowflake
  name : String
  phoneNumber : Option String
deriving DecidableEq, Repr

def ContactRow.toResolvedContact (r : ContactRow) : ResolvedContact :=
  { contact := { id := r.contact, account := r.account, name := r.name, phoneNumber := r.phoneNumber }
    contactInbox := { id := r.contactInbox, contact := r.contact, inbox := r.inbox, sourceId := r.sourceId } }

structure ConversationRow where
  id : Snowflake
  account : Snowflake
  inbox : Snowflake
  contact : Snowflake
  contactInbox : Snowflake
  status : String
  createdAt : Time
deriving DecidableEq, Repr

def ConversationRow.toConversation (r : ConversationRow) : Conversation :=
  { id := r.id
    account := r.account
    inbox := r.inbox
    contact := r.contact
    contactInbox := r.contactInbox
    status := .ofName r.status
    createdAt := r.createdAt }

end Intake
