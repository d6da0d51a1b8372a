import Intake.Event.Basic

/-!
# Downloaded media
-/

namespace Intake

structure FetchedMedia where
  filename : String
  contentType : String
  data : List UInt8
deriving DecidableEq, Repr

end Intake
