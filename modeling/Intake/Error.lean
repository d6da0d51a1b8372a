import Intake.Snowflake.Basic

/-!
# Errors

Three layers. A `DomainError` is the answer of a store or guard; an `IngestError` ends the run of a job; a
`ServiceError` is what a process reports. Each has a code, a text, and a verdict on whether trying again could help:
only failures of the database, the cache or an external service are worth a retry.
-/

namespace Intake

inductive DomainError where
  | channelNotFound (id : Snowflake)
  | inboxNotFound (channel : Snowflake)
  | messageNotFound (id : Snowflake)
  | conversationNotFound (id : Snowflake)
  | validation (reason : String)
  | invalidStatus (status : String)
  | malformedPayload (reason : String)
  | duplicateSourceId (inbox : Snowflake) (source : String)
  | database (reason : String)
  | cache (reason : String)
  | internal (reason : String)
deriving DecidableEq, Repr, Inhabited

namespace DomainError

def code : DomainError → String
  | channelNotFound _ => "UNKNOWN_CHANNEL"
  | inboxNotFound _ => "UNKNOWN_INBOX"
  | messageNotFound _ => "UNKNOWN_MESSAGE"
  | conversationNotFound _ => "UNKNOWN_CONVERSATION"
  | validation _ => "VALIDATION_ERROR"
  | invalidStatus _ => "INVALID_STATUS"
  | malformedPayload _ => "MALFORMED_PAYLOAD"
  | duplicateSourceId .. => "DUPLICATE_SOURCE_ID"
  | database _ => "DATABASE_ERROR"
  | cache _ => "CACHE_ERROR"
  | internal _ => "INTERNAL_ERROR"

def message : DomainError → String
  | channelNotFound id => "Channel not found: " ++ id.text
  | inboxNotFound channel => "Inbox not found for channel: " ++ channel.text
  | messageNotFound id => "Message not found: " ++ id.text
  | conversationNotFound id => "Conversation not found: " ++ id.text
  | validation reason => "Validation error: " ++ reason
  | invalidStatus status => "Invalid delivery status: " ++ status
  | malformedPayload reason => "Malformed payload: " ++ reason
  | duplicateSourceId inbox source =>
    "Message with source id " ++ source ++ " already exists in inbox " ++ inbox.text
  | database reason => "Database error: " ++ reason
  | cache reason => "Cache error: " ++ reason
  | internal reason => "Internal error: " ++ reason

def isNotFound : DomainError → Bool
  | channelNotFound _ | inboxNotFound _ | messageNotFound _ | conversationNotFound _ => true
  | _ => false

def isValidation : DomainError → Bool
  | validation _ | invalidStatus _ | malformedPayload _ => true
  | _ => false

def isConflict : DomainError → Bool
  | duplicateSourceId .. => true
  | _ => false

def isRetryable : DomainError → Bool
  | database _ | cache _ => true
  | _ => false

end DomainError

inductive ServiceError where
  | config (reason : String)
  | database (reason : String)
  | cache (reason : String)
  | externalService (reason : String)
  | invalidJob (reason : String)
  | internal (reason : String)
  | domain (error : DomainError)
deriving DecidableEq, Repr

namespace ServiceError

def code : ServiceError → String
  | config _ => "CONFIG_ERROR"
  | database _ => "DATABASE_ERROR"
  | cache _ => "CACHE_ERROR"
  | externalService _ => "EXTERNAL_SERVICE_ERROR"
  | invalidJob _ => "INVALID_JOB"
  | internal _ => "INTERNAL_ERROR"
  | domain e => e.code

/-- The reason of an internal error is not shown. -/
def message : ServiceError → String
  | config reason => "Configuration error: " ++ reason
  | database reason => "Database error: " ++ reason
  | cache reason => "Cache error: " ++ reason
  | externalService reason => "External service error: " ++ reason
  | invalidJob reason => "Invalid job: " ++ reason
  | internal _ => "Internal error"
  | domain e => e.message

def isRetryable : ServiceError → Bool
  | database _ | cache _ | externalService _ => true
  | domain e => e.isRetryable
  | config _ | invalidJob _ | internal _ => false

end ServiceError

inductive IngestError where
  | store (error : DomainError)
  | validation (reason : String)
deriving DecidableEq, Repr

namespace IngestError

def code : IngestError → String
  | store e => e.code
  | validation _ => "VALIDATION_ERROR"

def message : IngestError → String
  | store e => e.message
  | validation reason => "Validation error: " ++ reason

def isRetryable : IngestError → Bool
  | store e => e.isRetryable
  | validation _ => false

def toServiceError : IngestError → ServiceError
  | store e => .domain e
  | validation reason => .invalidJob reason

end IngestError

end Intake
