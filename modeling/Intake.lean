import Intake.Delivery.Assembly
import Intake.Delivery.Run
import Intake.Event.Codec
import Intake.Guard.Address
import Intake.Guard.Memory
import Intake.Guard.Remote
import Intake.Json.Writer
import Intake.Media.Script
import Intake.Number.Reading
import Intake.Proofs.Concurrent.NoLoss
import Intake.Proofs.Concurrent.OneMessage
import Intake.Proofs.Retry.Cards
import Intake.Proofs.Retry.LateClaims
import Intake.Proofs.Routing.Safe
import Intake.Rehearsal.Run
import Intake.Rows.Message
import Intake.Rows.Tenant
import Intake.Settings.Lookup
import Intake.Webhook.Payload
import Intake.Proofs.Retry.Known
import Intake.Proofs.Retry.Redelivery
import Intake.Proofs.Nested.Hosts
import Intake.Proofs.Nested.Inside
import Intake.Proofs.Contest.Basic
import Intake.Proofs.Contest.Exclusive
import Intake.Proofs.Contest.Late
import Intake.Proofs.Integrity.Tables
import Intake.Proofs.Routing.Addressed
import Intake.Proofs.Snowflake.Issued
import Intake.Proofs.World.Runs
import Intake.Proofs.Integrity.Guided
import Intake.Proofs.Integrity.Handling
import Intake.Proofs.Integrity.Step
import Intake.Proofs.Integrity.Reached
import Intake.Proofs.Tenants.Outside
import Intake.Proofs.Tenants.Alike
import Intake.Proofs.Tenants.Twin
import Intake.Proofs.Tenants.Twice
import Intake.Proofs.Tenants.Apart
import Intake.Proofs.Tenants.Commute
import Intake.Proofs.Report.Additions
import Intake.Proofs.Report.Truth
import Intake.Proofs.Delivery.Attempts
import Intake.Proofs.Report.Attempts
import Intake.Proofs.Delivery.Fresh
import Intake.Proofs.Delivery.Serving
import Intake.Proofs.Standing.Fold
import Intake.Proofs.Standing.Told
import Intake.Proofs.Standing.Messages
import Intake.Proofs.Retry.Effects
import Intake.Proofs.Retry.Carried
import Intake.Proofs.Retry.Taken
import Intake.Proofs.Retry.Matching
import Intake.Proofs.Retry.Equivalence
import Intake.Proofs.Report.Dropped
import Intake.Proofs.Conversations.Looking
import Intake.Proofs.Conversations.Threads
import Intake.Proofs.Conversations.Crowded
import Intake.Proofs.Conversations.Single
import Intake.Proofs.Conversations.Policy
import Intake.Proofs.Downloads.Akin
import Intake.Proofs.Downloads.Bare
import Intake.Proofs.Downloads.Kin
import Intake.Proofs.Downloads.Files
import Intake.Proofs.Downloads.Harmless
import Intake.Proofs.Guard.Ledger
import Intake.Proofs.Guard.Lock
import Intake.Proofs.Guard.Interchangeable
import Intake.Proofs.Snowflake.Words
import Intake.Proofs.Snowflake.Race
import Intake.Proofs.Clashes.Ids
import Intake.Proofs.Clashes.Stored
import Intake.Proofs.Clashes.Pairs
import Intake.Proofs.Routing.Detected
import Intake.Proofs.Delivery.Runner
import Intake.Proofs.Contacts.Identity
import Intake.Proofs.Contacts.Shared
import Intake.Proofs.Webhook.Cloud
import Intake.Proofs.Webhook.Worded
import Intake.Proofs.Webhook.Keys
import Intake.Proofs.Webhook.Quoting
import Intake.Proofs.Rows.Lossless
import Intake.Proofs.Event.RoundTrip
import Intake.Proofs.Media.Whole
import Intake.Proofs.Media.Discreet
import Intake.Proofs.Text.Numerals
import Intake.Proofs.Json.Plain
import Intake.Proofs.Snowflake.Lossless
import Intake.Proofs.Settings.Numbers
import Intake.Proofs.Settings.AsWritten
import Intake.Proofs.Guard.Answered
import Intake.Proofs.Guard.Separate
import Intake.Proofs.World.Replay
