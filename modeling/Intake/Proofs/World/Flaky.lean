import Intake.Proofs.World.Runs

/-!
# Failures that come and go

`Conditions.flaky` are those under which a look-up of tenants or a write of a message may fail at any time, and nothing
else.
-/

namespace Intake

/-- Whether a flaky store may answer with that error. Only a message that is there is refused as a duplicate. -/
def Request.mayFail : Request → DomainError → Bool
  | createMessage _, .duplicateSourceId .. => false
  | createMessage _, _ => true
  | r, _ => r.isLookup

/-- Downloads bring what `fetch` says; look-ups of tenants and writes of messages may fail. -/
def Conditions.flaky (fetch : Channel → MediaDescriptor → Option FetchedMedia) : Conditions where
  serves channel media file := file = fetch channel media
  refuses r e := r.mayFail e = true

theorem Conditions.flaky_sparesGuard (fetch : Channel → MediaDescriptor → Option FetchedMedia) :
    (flaky fetch).SparesGuard := by
  intro r e he
  cases r with
  | tryClaim | release => cases he
  | _ => rfl

theorem World.Runs.flaky {fetch : Channel → MediaDescriptor → Option FetchedMedia} {w w' : World} {t : List Exchange}
    (h : w.Runs (.calm fetch) t w') : w.Runs (.flaky fetch) t w' :=
  h.mono (fun _ _ _ h => h) fun _ _ h => h.elim

/-- Downloads bring what `fetch` says, and faults may strike that a flaky store shows. -/
def Replay.flaky (fetch : Channel → MediaDescriptor → Option FetchedMedia) : Replay :=
  { fetch, refuses := Request.mayFail }

theorem Replay.flaky_within (fetch : Channel → MediaDescriptor → Option FetchedMedia) :
    (flaky fetch).Within (Conditions.flaky fetch).rules where
  clocks := Conditions.clocks_zero _
  refuses _ _ h := h
  serves _ _ := rfl
  visits _ _ _ := Replay.unvisited

theorem World.runs_of_flaky {fetch : Channel → MediaDescriptor → Option FetchedMedia} {α : Type} {p : Program α} {a : α}
    {w w' : World} {t : List Exchange} {faults : List Fault}
    (h : (Replay.flaky fetch).run? faults p w = some (t, a, w')) : p.Yields t a ∧ w.Runs (.flaky fetch) t w' :=
  (Replay.flaky_within fetch).run h

end Intake
