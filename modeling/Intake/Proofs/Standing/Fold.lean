import Intake.Delivery.Ingest
import Intake.Proofs.World.Store

/-!
# Where messages stand

A history lists, in order, which messages were stored and which delivery reports were processed. `standings` says what
is stored after it: every message as it was created, but with the last valid status that was reported about it since,
and with the error of the last failure that named one. `Message.reported` is how one report is folded in, and the two
agree (`standings_reported`).
-/

namespace Intake

inductive Happening where
  | stored (m : Message)
  /-- A report on the inbox's message of that source id, whether or not there is one. -/
  | reported (inbox : Snowflake) (source : String) (report : StatusReport)

/-- The error that a report names: the first one of a failure. -/
def StatusReport.diagnostic? (r : StatusReport) : Option String :=
  if r.status = "failed" then r.errors.head?.map ProviderError.diagnostic else none

def StatusReport.status? (r : StatusReport) : Option MessageStatus := MessageStatus.ofName? r.status

/-- The reports on the message of that inbox and source id, in order. -/
def reportsOn (k : Snowflake × String) (hist : List Happening) : List StatusReport :=
  hist.filterMap fun
    | .stored _ => none
    | .reported inbox source report => if (inbox, source) = k then some report else none

/-- A message after reports: its status is the last valid one, its error the last one that was named. -/
def Message.standing (m : Message) (reports : List StatusReport) : Message :=
  { m with
    status := (reports.filterMap StatusReport.status?).getLast?.getD .sent
    externalError := (reports.filterMap StatusReport.diagnostic?).getLast? }

/-- What is stored after a history. Only reports after a message was stored count. -/
def standings : List Happening → List Message
  | [] => []
  | .stored m :: hist => m.standing (reportsOn m.key hist) :: standings hist
  | .reported .. :: hist => standings hist

/-- A message after one more report. -/
def Message.reported (m : Message) (r : StatusReport) : Message :=
  match r.status? with
  | some status => m.applyStatus status (Ingest.externalError? status r)
  | none => m

namespace StatusReport

variable {r : StatusReport} {status : MessageStatus}

theorem diagnostic?_of_invalid (h : r.status? = none) : r.diagnostic? = none := by
  rw [diagnostic?]
  split
  · next hfailed =>
    rw [status?, hfailed] at h
    cases h
  · rfl

theorem diagnostic?_of_valid (h : r.status? = some status) : Ingest.externalError? status r = r.diagnostic? := by
  have hname : r.status = status.name := by
    unfold status? MessageStatus.ofName? at h
    split at h <;> cases h <;> assumption
  rw [diagnostic?, hname]
  cases status <;> rfl

end StatusReport

namespace Message

variable {m : Message} {reports : List StatusReport}

theorem standing_nil (h : m.record = m) : m.standing [] = m := h

theorem standing_concat (m : Message) (reports : List StatusReport) (r : StatusReport) :
    m.standing (reports ++ [r]) = (m.standing reports).reported r := by
  cases h : r.status? with
  | none => simp [standing, reported, h, StatusReport.diagnostic?_of_invalid h]
  | some status =>
    have herror := StatusReport.diagnostic?_of_valid h
    cases hd : r.diagnostic? with
    | none => simp [standing, reported, applyStatus, h, hd, herror]
    | some error => simp [standing, reported, applyStatus, h, hd, herror]

theorem reported_of_invalid {r : StatusReport} (h : r.status? = none) : m.reported r = m := by
  rw [reported, h]

theorem reported_of_valid {r : StatusReport} {status : MessageStatus} (h : r.status? = some status) :
    m.reported r = m.applyStatus status (Ingest.externalError? status r) := by
  rw [reported, h]

end Message

theorem reportsOn_append (k : Snowflake × String) (hist hist' : List Happening) :
    reportsOn k (hist ++ hist') = reportsOn k hist ++ reportsOn k hist' := List.filterMap_append

theorem standings_stored {hist : List Happening} {m : Message} (h : m.record = m) :
    standings (hist ++ [.stored m]) = standings hist ++ [m] := by
  induction hist with
  | nil => exact congrArg (· :: []) (Message.standing_nil h)
  | cons x hist ih =>
    cases x with
    | stored m' =>
      rw [List.cons_append, standings, standings, ih, reportsOn_append]
      exact congrArg (· :: _) (congrArg m'.standing (List.append_nil _))
    | reported => exact ih

theorem standings_reported (hist : List Happening) (inbox : Snowflake) (source : String) (r : StatusReport) :
    standings (hist ++ [.reported inbox source r]) =
      (standings hist).map fun m => if m.key = (inbox, source) then m.reported r else m := by
  induction hist with
  | nil => rfl
  | cons x hist ih =>
    cases x with
    | stored m =>
      rw [List.cons_append, standings, standings, ih, reportsOn_append, List.map_cons]
      congr 1
      have hkey : (m.standing (reportsOn m.key hist)).key = m.key := rfl
      rw [hkey]
      by_cases h : m.key = (inbox, source)
      · have hon : reportsOn m.key [.reported inbox source r] = [r] := by simp [reportsOn, h]
        rw [if_pos h, hon, Message.standing_concat]
      · have hon : reportsOn m.key [.reported inbox source r] = [] := by simp [reportsOn, Ne.symm h]
        rw [if_neg h, hon, List.append_nil]
    | reported => exact ih

end Intake
