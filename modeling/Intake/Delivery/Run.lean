import Intake.Delivery.Ingest
import Intake.Webhook.Payload

/-!
# Running jobs

`perform` handles one delivery once. `JobRunner.run` repeats it while the failure is worth a retry, at most a fixed
number of times, with pauses that double from 200 ms up to 5 s.
-/

namespace Intake

/-- The events of a job, read the way of its channel's provider. -/
def ResolvedChannel.events (target : ResolvedChannel) (job : WebhookJob) : List IncomingEvent :=
  Webhook.normalize target.channel.provider job.payload
    { urlPhoneNumber := job.phoneNumber, phoneNumberId := target.channel.credentials.phoneNumberId? }

def performOn (job : WebhookJob) : Resolution → Attempt IngestReport
  | .notFound => pure (.skip .channelNotFound)
  | .inactive _ => pure (.skip .channelInactive)
  | .active target => do
    return .ofChannel target.channel.id (← Ingest.handleEvents target (target.events job))

def perform (job : WebhookJob) : Attempt IngestReport := do
  performOn job (← Routing.resolve job)

namespace JobRunner

def baseBackoff : Nat := 200

def maxBackoff : Nat := 5000

/-- The pause in milliseconds before retry number `attempt`, counted from one. -/
def backoff (attempt : Nat) : Nat :=
  min maxBackoff (baseBackoff * Nat.pow 2 (min (attempt - 1) 16))

/-- Makes attempt number `attempt` and at most `left` more; says how many there were, and how the last one ended. -/
def retry {α : Type} (body : Attempt α) : (left attempt : Nat) → Program (Nat × Except DomainError α)
  | 0, attempt => do return (attempt, ← body.run)
  | left + 1, attempt => do
    match ← body.run with
    | .ok a => return (attempt, .ok a)
    | .error e =>
      if e.isRetryable then
        Ask.pause (backoff attempt)
        retry body left (attempt + 1)
      else
        return (attempt, .error e)

inductive JobResult where
  | completed (report : IngestReport)
  | failed (error : ServiceError)
deriving Repr

/-- The answer to one line of input. -/
structure JobOutput where
  /-- The number of the line, from one. -/
  line : Nat
  /-- How often the job was run: never, if it could not be read. -/
  attempts : Nat
  result : JobResult
deriving Repr

def JobOutput.isCompleted (o : JobOutput) : Bool := o.result matches .completed _

def JobOutput.fieldsWith (w : IdWriter) (o : JobOutput) : List (String × Json) :=
  [("line", .ofNat o.line), ("attempts", .ofNat o.attempts)] ++
    match o.result with
    | .completed report => [("status", .string "completed"), ("report", .object (report.fieldsWith w))]
    | .failed error =>
      [("status", .string "failed"), ("code", .string error.code), ("error", .string error.message)]

def run (maxAttempts line : Nat) (job : WebhookJob) : Program JobOutput := do
  let (attempts, result) ← retry (perform job) (maxAttempts - 1) 1
  return { line, attempts
           result := match result with
             | .ok report => .completed report
             | .error e => .failed (IngestError.store e).toServiceError }

def runLine (maxAttempts line : Nat) (raw : String) : Program JobOutput :=
  match WebhookJob.parse raw with
  | .ok job => run maxAttempts line job
  | .error e => pure { line, attempts := 0, result := .failed e }

end JobRunner

end Intake
