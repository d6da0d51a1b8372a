import Intake.Error
import Intake.Media.Basic

/-!
# Programs of requests

Handling a delivery talks to a store, a guard, a fetcher, a clock and a source of ids. A `Program` is that conversation
as data: a request, and what to do with each possible reply. So one and the same program can be run by a handler, or
advanced request by request between the requests of others.
-/

namespace Intake

inductive Request where
  | findChannelByPhone (phoneNumber : String)
  | findGupshupChannel (appName : String)
  | accountStatus (account : Snowflake)
  | findInbox (channel : Snowflake)
  | tryClaim (channel : Snowflake) (sourceId : String)
  | release (channel : Snowflake) (sourceId : String)
  | findMessage (inbox : Snowflake) (sourceId : String)
  | createMessage (message : Message)
  | updateStatus (message : Snowflake) (status : MessageStatus) (externalError : Option String)
  | upsertContact (contact : NewContact)
  | findConversation (contactInbox : Snowflake) (filter : ConversationFilter)
  | createConversation (conversation : Conversation)
  | createAttachment (attachment : Attachment)
  | fetch (channel : Channel) (media : MediaDescriptor)
  | newId
  | now
  | pause (millis : Nat)

/-- What a request is answered with. -/
@[reducible] def Request.Reply : Request → Type
  | findChannelByPhone _ => Except DomainError (Option Channel)
  | findGupshupChannel _ => Except DomainError (Option Channel)
  | accountStatus _ => Except DomainError AccountStatus
  | findInbox _ => Except DomainError (Option Inbox)
  | tryClaim .. => Except DomainError Bool
  | release .. => Except DomainError Unit
  | findMessage .. => Except DomainError (Option Message)
  | createMessage _ => Except DomainError Unit
  | updateStatus .. => Except DomainError Unit
  | upsertContact _ => Except DomainError ResolvedContact
  | findConversation .. => Except DomainError (Option Conversation)
  | createConversation _ => Except DomainError Unit
  | createAttachment _ => Except DomainError Unit
  | fetch .. => Option FetchedMedia
  | newId => Snowflake
  | now => Time
  | pause _ => Unit

inductive Program (α : Type) : Type where
  | done (value : α)
  | ask (request : Request) (next : request.Reply → Program α)

namespace Program

variable {α β γ σ : Type}

def bind : Program α → (α → Program β) → Program β
  | done a, f => f a
  | ask r next, f => ask r fun b => (next b).bind f

instance : Monad Program where
  pure := done
  bind := bind

@[simp] theorem pure_eq (a : α) : (pure a : Program α) = done a := rfl

@[simp] theorem bind_done (a : α) (f : α → Program β) : (done a >>= f) = f a := rfl

@[simp] theorem bind_ask (r : Request) (next : r.Reply → Program α) (f : α → Program β) :
    (ask r next >>= f) = ask r fun b => next b >>= f := rfl

theorem bind_pure' (p : Program α) : p.bind done = p := by
  induction p with
  | done a => rfl
  | ask r next ih => simp only [bind, ih]

theorem bind_assoc' (p : Program α) (f : α → Program β) (g : β → Program γ) :
    (p.bind f).bind g = p.bind fun a => (f a).bind g := by
  induction p with
  | done a => rfl
  | ask r next ih => simp only [bind, ih]

instance : LawfulMonad Program :=
  LawfulMonad.mk' Program bind_pure' (fun _ _ => rfl) bind_assoc'

/-- Answers requests from a state. -/
abbrev Handler (σ : Type) := (r : Request) → σ → r.Reply × σ

/-- Runs a program alone. -/
def run (handle : Handler σ) : Program α → σ → α × σ
  | done a, s => (a, s)
  | ask r next, s =>
    let (b, s) := handle r s
    (next b).run handle s

theorem run_bind (handle : Handler σ) (p : Program α) (f : α → Program β) (s : σ) :
    (p >>= f).run handle s = (f (p.run handle s).1).run handle (p.run handle s).2 := by
  induction p generalizing s with
  | done a => rfl
  | ask r next ih => exact ih _ _

end Program

/-- A program that may be broken off by an error. -/
abbrev Attempt (α : Type) := ExceptT DomainError Program α

/-! ## Single requests -/

namespace Ask

def findChannelByPhone (phoneNumber : String) : Attempt (Option Channel) :=
  ExceptT.mk (.ask (.findChannelByPhone phoneNumber) .done)

def findGupshupChannel (appName : String) : Attempt (Option Channel) :=
  ExceptT.mk (.ask (.findGupshupChannel appName) .done)

def accountStatus (account : Snowflake) : Attempt AccountStatus :=
  ExceptT.mk (.ask (.accountStatus account) .done)

def findInbox (channel : Snowflake) : Attempt (Option Inbox) :=
  ExceptT.mk (.ask (.findInbox channel) .done)

def tryClaim (channel : Snowflake) (sourceId : String) : Attempt Bool :=
  ExceptT.mk (.ask (.tryClaim channel sourceId) .done)

def release (channel : Snowflake) (sourceId : String) : Attempt Unit :=
  ExceptT.mk (.ask (.release channel sourceId) .done)

def findMessage (inbox : Snowflake) (sourceId : String) : Attempt (Option Message) :=
  ExceptT.mk (.ask (.findMessage inbox sourceId) .done)

def createMessage (message : Message) : Attempt Unit :=
  ExceptT.mk (.ask (.createMessage message) .done)

def updateStatus (message : Snowflake) (status : MessageStatus) (externalError : Option String) : Attempt Unit :=
  ExceptT.mk (.ask (.updateStatus message status externalError) .done)

def upsertContact (contact : NewContact) : Attempt ResolvedContact :=
  ExceptT.mk (.ask (.upsertContact contact) .done)

def findConversation (contactInbox : Snowflake) (filter : ConversationFilter) : Attempt (Option Conversation) :=
  ExceptT.mk (.ask (.findConversation contactInbox filter) .done)

def createConversation (conversation : Conversation) : Attempt Unit :=
  ExceptT.mk (.ask (.createConversation conversation) .done)

def createAttachment (attachment : Attachment) : Attempt Unit :=
  ExceptT.mk (.ask (.createAttachment attachment) .done)

def fetch (channel : Channel) (media : MediaDescriptor) : Program (Option FetchedMedia) :=
  .ask (.fetch channel media) .done

def newId : Program Snowflake := .ask .newId .done

def now : Program Time := .ask .now .done

def pause (millis : Nat) : Program Unit := .ask (.pause millis) .done

end Ask

end Intake
