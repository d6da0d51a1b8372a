import Intake.Proofs.Delivery.Handle
import Intake.Proofs.World.Claims
import Intake.Proofs.World.Store
import Mathlib.Logic.Relation

/-!
# Contests for a claim

Deliveries of one pair of channel and source id join a contest, claim the pair, work if they are granted it, and give it
back (`Contest.Step`). They take turns of one request each, and between turns time passes. The guard knows a claim by
its key alone, so a contest keeps the deadline of each grant; a contender whose deadline has passed works on, and gives
back what may be the claim of another by then. `Stage.turn` says what a turn does to the deadlines of both sides.
-/

namespace Intake

variable {k : Snowflake × String}

/-- A delivery on its way, with the deadline of the claim under which it works. -/
structure Contender where
  due : Option Instant
  rest : Program (Except DomainError EventOutcome)

namespace Contender

/-- The deadline, unless it has passed. -/
def running (now : Instant) (c : Contender) : Option Instant := c.due.filter (now < ·)

/-- It gives its claim back next. -/
def releases (c : Contender) : Bool :=
  match c.rest with
  | .ask r _ => r.isRelease
  | .done _ => false

/-- It gives a claim back next that is live, although its own has run out. -/
def late (w : World) (k : Snowflake × String) (c : Contender) : Bool :=
  c.releases && (c.running w.instant).isNone && w.guard.holds w.instant (Guard.claimKey k.1 k.2)

end Contender

namespace World

/-- The deadline of a contender after an exchange. -/
def dueAfter (w : World) (due : Option Instant) : Exchange → Option Instant
  | ⟨.tryClaim .., .ok true⟩ => some (w.instant + w.guard.ttl)
  | ⟨.release .., _⟩ => none
  | _ => due

/-- The deadlines of the live claims of a pair. -/
def deadlines (w : World) (k : Snowflake × String) : List Instant :=
  w.guard.deadlines w.instant (Guard.claimKey k.1 k.2)

/-- What a turn does to the deadlines of a contender and of the guard: the claim is granted if it is free, or given
back, or left alone. -/
inductive Turned (w : World) (k : Snowflake × String) (w' : World) (due : Option Instant) (releases : Bool) :
    Option Instant → Prop
  | granted :
    due = none → w.deadlines k = [] →
      w'.deadlines k = (if w.instant < w.instant + w.guard.ttl then [w.instant + w.guard.ttl] else []) →
      Turned w k w' due releases (some (w.instant + w.guard.ttl))
  | released : releases = true → w'.deadlines k = [] → Turned w k w' due releases none
  | other : w'.deadlines k = w.deadlines k → Turned w k w' due releases due

theorem dueAfter_of_isGuard {w : World} {due : Option Instant} {x : Exchange} (h : x.request.isGuard = false) :
    w.dueAfter due x = due := by
  obtain ⟨r, b⟩ := x
  cases r <;> trivial

end World

structure Contest where
  world : World
  contenders : List Contender := []
  /-- Whether some claim was given back late. -/
  overrun : Bool := false

namespace Contest

def runningAt (now : Instant) (cs : List Contender) : List Instant := cs.filterMap (·.running now)

/-- The deadlines of the contenders that work under a claim which has not run out. -/
def running (K : Contest) : List Instant := runningAt K.world.instant K.contenders

inductive Step (k : Snowflake × String) : Contest → Contest → Prop
  | joins {w : World} {cs : List Contender} {overrun : Bool} {body : Attempt EventOutcome} :
    body.run.Asks (·.isGuard = false) →
      Step k ⟨w, cs, overrun⟩ ⟨w, cs ++ [⟨none, (Ingest.claimed k.1 k.2 body).run⟩], overrun⟩
  | turn {w w' : World} {before after : List Contender} {overrun : Bool} {due : Option Instant} {r : Request}
    {b : r.Reply} {next : r.Reply → Program (Except DomainError EventOutcome)} :
    w.Answers { writes := true } r b w' →
      Step k ⟨w, before ++ ⟨due, .ask r next⟩ :: after, overrun⟩
        ⟨w', before ++ ⟨w.dueAfter due ⟨r, b⟩, next b⟩ :: after, overrun || Contender.late w k ⟨due, .ask r next⟩⟩
  | waits {w : World} {cs : List Contender} {overrun : Bool} {now : Instant} :
    w.instant ≤ now → Step k ⟨w, cs, overrun⟩ ⟨{ w with instant := now }, cs, overrun⟩

def Reaches (k : Snowflake × String) : Contest → Contest → Prop := Relation.ReflTransGen (Step k)

end Contest

/-! ### What a contender asks for -/

namespace Ingest

def giveBack (k : Snowflake × String) (result : Except DomainError EventOutcome) :
    Program (Except DomainError EventOutcome) :=
  .ask (.release k.1 k.2) fun _ => .done result

theorem claimed_run (body : Attempt EventOutcome) : (claimed k.1 k.2 body).run =
    .ask (.tryClaim k.1 k.2) fun
      | .error e => .done (.error e)
      | .ok true => body.run >>= giveBack k
      | .ok false => .done (.ok (.dropped k.2 .inFlight)) := by
  show Program.ask _ _ = _
  congr 1
  funext b
  rcases b with e | - | -
  · rfl
  · rfl
  · show ((ExceptT.lift body.run : Attempt _) >>= fun result => do
      let _ ← ExceptT.lift (Ask.release k.1 k.2).run
      ExceptT.mk (pure result)).run = _
    rw [ExceptT.run_bind, ExceptT.run_lift, map_eq_pure_bind, bind_assoc]
    rfl

theorem persist_asks (target : ResolvedChannel) (source : String) (m : InboundMessage) (new : NewContact) :
    (persist target source m new).run.Asks (·.isGuard = false) :=
  .of_yields (Exchange.exists_fits {}) fun _ _ hy => (persist_yields hy).isGuard

end Ingest

/-- Where a contender stands: before its claim, at work under it, or through. -/
inductive Stage (k : Snowflake × String) : Contender → Prop
  | coming {body : Attempt EventOutcome} :
    body.run.Asks (·.isGuard = false) → Stage k ⟨none, (Ingest.claimed k.1 k.2 body).run⟩
  | working {due : Instant} {p : Program (Except DomainError EventOutcome)} :
    p.Asks (·.isGuard = false) → Stage k ⟨some due, p >>= Ingest.giveBack k⟩
  | through {r : Except DomainError EventOutcome} : Stage k ⟨none, .done r⟩

namespace Stage

variable {w w' : World} {due : Option Instant} {r : Request} {b : r.Reply}
  {next : r.Reply → Program (Except DomainError EventOutcome)}

/-- Whoever takes a turn is at work after it, or through. -/
theorem turn (h : Stage k ⟨due, .ask r next⟩) (ha : w.Answers { writes := true } r b w') :
    Stage k ⟨w.dueAfter due ⟨r, b⟩, next b⟩ ∧ w.Turned k w' due r.isRelease (w.dueAfter due ⟨r, b⟩) := by
  generalize hc : (⟨due, .ask r next⟩ : Contender) = c at h
  cases h with
  | @coming body hbody =>
    rw [Ingest.claimed_run] at hc
    cases hc
    obtain ⟨granted, rfl, hg, hi⟩ := ha.tryClaim
    rcases MemoryGuard.claimKey?_deadlines hg with ⟨rfl, hd⟩ | ⟨rfl, hfree, hd⟩
    · refine ⟨.through, .other ?_⟩
      rw [World.deadlines, hi]
      exact hd
    · refine ⟨.working hbody, .granted rfl hfree ?_⟩
      rw [World.deadlines, hi]
      exact hd
  | @working deadline p hp =>
    cases p with
    | done result =>
      cases hc
      refine ⟨.through, .released rfl ?_⟩
      rcases ha.release with ⟨-, hg, -⟩ | ⟨ho, -⟩
      · rw [World.deadlines, hg]
        exact MemoryGuard.deadlines_erase
      · cases ho
    | ask r' next' =>
      cases hc
      obtain ⟨hg, hi⟩ := ha.guard hp.1
      rw [World.dueAfter_of_isGuard hp.1]
      refine ⟨.working (hp.2 b), .other ?_⟩
      rw [World.deadlines, World.deadlines, hg, hi]
  | through => cases hc

end Stage

end Intake
