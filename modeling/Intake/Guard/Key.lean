import Intake.Snowflake.Basic

/-!
# Claim keys

A delivery claims the pair of its channel and its source id, written as one key. The channel's id has no colon, so two
pairs never share a key.
-/

namespace Intake.Guard

def keyStart : String := "wa_message_source:"

def claimKey (channel : Snowflake) (sourceId : String) : String :=
  keyStart ++ channel.text ++ ":" ++ sourceId

end Intake.Guard
