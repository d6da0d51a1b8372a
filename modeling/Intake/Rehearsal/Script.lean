import Intake.Delivery.Run
import Intake.Rehearsal.Fault

/-!
# Scripts

A script sets up channels and media and then goes through steps: deliveries, changes behind their back, faults. A medium
may come with steps of its own, which are taken while it is downloaded for the first time.
-/

namespace Intake.Rehearsal

/-- A channel to be set up, with an inbox and an account of its own. -/
structure ChannelSetup where
  provider : Provider
  phoneNumber : String
  credentials : Credentials
  account : AccountStatus := .active
  reauthorizationRequired : Bool := false
  lock : Bool := false
  /-- Whether the inbox can be found. -/
  hasInbox : Bool := true

/-- Changes to a channel that is set up. -/
structure ChannelChange where
  account : Option AccountStatus := none
  reauthorizationRequired : Option Bool := none
  lock : Option Bool := none
  hasInbox : Option Bool := none

inductive Step where
  /-- One run of a job. -/
  | job (job : Json)
  /-- A line of input, with retries. -/
  | line (line maxAttempts : Nat) (text : String)
  | resolve (job : Json)
  /-- A delivery report alone, for the inbox of a channel. -/
  | status (channel : Nat) (sourceId : String) (report : StatusReport)
  | claim (channel : Nat) (sourceId : String)
  | release (channel : Nat) (sourceId : String)
  | fail (fault : Fault)
  /-- Lets the store itself fail. -/
  | failStore (lookups writes : Option Nat)
  | change (channel : Nat) (change : ChannelChange)
  | addChannel (setup : ChannelSetup)
  | resolveConversations
  /-- Has a medium served from now on, or its download fail. -/
  | serve (source : String) (file : Option FetchedMedia) (during : List Step)
  | seedConversation (channel : Nat) (phone : String) (status : ConversationStatus) (createdAt : Time)
      (id : Snowflake)
  | seedMessage (channel : Nat) (id : Snowflake) (sourceId content : String) (direction : MessageDirection)
      (status : MessageStatus) (externalError : Option String)
  /-- Looks at the tables. -/
  | look

mutual

/-- The number of steps, those taken during downloads included. -/
def Step.size : Step → Nat
  | .serve _ _ during => Step.sizeAll during + 1
  | _ => 1

def Step.sizeAll : List Step → Nat
  | [] => 0
  | s :: ss => s.size + Step.sizeAll ss

end

/-- What is served under a source, and the steps that its first download brings along. -/
structure Medium where
  source : String
  file : Option FetchedMedia
  during : List Step

structure Script where
  channels : List ChannelSetup
  media : List Medium
  steps : List Step

namespace Script

def size (s : Script) : Nat := Step.sizeAll (s.media.flatMap (·.during)) + Step.sizeAll s.steps

end Script

end Intake.Rehearsal
