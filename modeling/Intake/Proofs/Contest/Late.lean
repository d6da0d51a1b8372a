import Intake.Proofs.Contest.Exclusive
import Intake.Proofs.Delivery.Perform
import Intake.Proofs.World.Play

/-!
# Claims that are given back late

A delivery that outlives its claim gives back whatever claim of its pair is live by then. It takes the claim of another
exactly if its own has run out and the pair is claimed, and then two deliveries come to work at once; as long as this
does not happen, none do.
-/

namespace Intake

variable {k : Snowflake × String} {K K' : Contest} {w w' : World} {cs : List Contender} {overrun : Bool}

/-! ### Playing a contest -/

inductive Contest.Move where
  | join
  | turn (place : Nat)
  | wait (millis : Nat)

namespace Contest

def turn? (k : Snowflake × String) (w : World) : List Contender → Nat → Option (World × List Contender × Bool)
  | [], _ => none
  | ⟨due, .ask r next⟩ :: cs, 0 => (w.answer? 0 none r).map fun (b, w') =>
    (w', ⟨w.dueAfter due ⟨r, b⟩, next b⟩ :: cs, Contender.late w k ⟨due, .ask r next⟩)
  | ⟨_, .done _⟩ :: _, 0 => none
  | c :: cs, place + 1 => (turn? k w cs place).map fun (w', cs, late) => (w', c :: cs, late)

def move? (k : Snowflake × String) (p : Program (Except DomainError EventOutcome)) (K : Contest) : Move → Option Contest
  | .join => some { K with contenders := K.contenders ++ [⟨none, p⟩] }
  | .turn place => (turn? k K.world K.contenders place).map fun (w, cs, late) => ⟨w, cs, K.overrun || late⟩
  | .wait millis => some { K with world := { K.world with instant := K.world.instant + millis } }

/-- Plays with contenders that all run the same program. -/
def play (k : Snowflake × String) (p : Program (Except DomainError EventOutcome)) : List Move → Contest → Option Contest
  | [], K => some K
  | m :: ms, K => (move? k p K m).bind (play k p ms)

theorem turn_of_turn? {late : Bool} {place : Nat} {cs' : List Contender} (h : turn? k w cs place = some (w', cs', late))
    (before : List Contender) : Step k ⟨w, before ++ cs, overrun⟩ ⟨w', before ++ cs', overrun || late⟩ := by
  induction cs generalizing before place cs' with
  | nil => cases h
  | cons c cs ih =>
    obtain ⟨due, rest⟩ := c
    cases place with
    | zero =>
      cases rest with
      | done => cases h
      | ask r next =>
        obtain ⟨⟨b, w₁⟩, hb, heq⟩ := Option.map_eq_some_iff.1 h
        cases heq
        exact .turn (.of_answer? hb)
    | succ place =>
      have h' : (turn? k w cs place).map (fun (w', cs, late) => (w', ⟨due, rest⟩ :: cs, late)) =
          some (w', cs', late) := by
        cases rest <;> exact h
      obtain ⟨⟨w₁, cs₁, late₁⟩, hturn, heq⟩ := Option.map_eq_some_iff.1 h'
      cases heq
      have hstep := ih hturn (before ++ [⟨due, rest⟩])
      simpa using hstep

theorem reaches_of_play {ms : List Move} {body : Attempt EventOutcome} (hbody : body.run.Asks (·.isGuard = false))
    (h : play k (Ingest.claimed k.1 k.2 body).run ms K = some K') : Reaches k K K' := by
  induction ms generalizing K with
  | nil =>
    cases h
    exact .refl
  | cons m ms ih =>
    obtain ⟨K₁, hmove, hplay⟩ := Option.bind_eq_some_iff.1 h
    refine .head ?_ (ih hplay)
    cases m with
    | join =>
      cases hmove
      exact .joins hbody
    | turn place =>
      obtain ⟨⟨w₁, cs₁, late⟩, hturn, heq⟩ := Option.map_eq_some_iff.1 hmove
      cases heq
      exact turn_of_turn? hturn []
    | wait millis =>
      cases hmove
      exact .waits (Nat.le_add_right ..)

end Contest

namespace Sample

/-- Plays with deliveries of the greeting, up to a contest that checks out. -/
def contends (ms : List Contest.Move) (check : Snowflake × String → Contest → Bool) : Bool :=
  (world.tables.accepted greeting).any fun (target, e, _) =>
    (Contest.play (target.channel.id, e.sourceId) (Ingest.handleEvent target e).run ms ⟨world, [], false⟩).any
      (check (target.channel.id, e.sourceId))

theorem exists_contest {ms : List Contest.Move} {check : Snowflake × String → Contest → Bool}
    (h : contends ms check = true) : ∃ target e m K, (target, e, m) ∈ world.tables.accepted greeting ∧
      Contest.Reaches (target.channel.id, e.sourceId) ⟨world, [], false⟩ K ∧
      check (target.channel.id, e.sourceId) K = true := by
  obtain ⟨⟨target, e, m⟩, hmem, hany⟩ := List.any_eq_true.1 h
  obtain ⟨K, hplay, hc⟩ := (Option.any_eq_true ..).1 hany
  obtain ⟨-, -, hm⟩ := Tables.mem_accepted_iff.1 hmem
  obtain ⟨new, heq⟩ := Ingest.handleEvent_of_accepted target hm
  rw [heq] at hplay
  exact ⟨target, e, m, K, hmem, Contest.reaches_of_play (Ingest.persist_asks ..) hplay, hc⟩

end Sample

/-- Of all deliveries of one pair, at most one works under a claim that has not run out, as long as no claim is given
back late. A release takes the claim of another exactly if it is late: its own claim has run out, and the pair is
claimed again. Whoever comes next is then granted a second claim. -/
theorem contest_exclusive_unless_late (h : Contest.Reaches k ⟨w, [], false⟩ K) (hin : K.overrun = false) :
    K.running.length ≤ 1 ∧
      ∀ before c after, K.contenders = before ++ c :: after → c.releases = true →
        (c.late K.world k = true ↔ ∃ c' ∈ before ++ after, (c'.running K.world.instant).isSome = true) ∧
          (c.late K.world k = true → (K.world.instant.deadline? K.world.guard.ttl).isSome = true →
            ∃ K', Contest.Reaches k K K' ∧ 1 < K'.running.length) := by
  have hK := Contest.Sound.reached h hin
  refine ⟨hK.le_one, fun before c after hcs hr => ?_⟩
  obtain ⟨w', cs, overrun⟩ := K
  obtain rfl : cs = before ++ c :: after := hcs
  refine ⟨?_, hK.exists_two⟩
  rw [← Bool.not_eq_false, hK.late_eq_false_iff hr, Contest.runningAt, List.filterMap_eq_nil_iff]
  simp [Option.isSome_iff_ne_none]

/-- The first greeting outlives its claim, and is about to give back that of the second. -/
theorem slow_greeting_is_late :
    ∃ target e m K c after, (target, e, m) ∈ Sample.world.tables.accepted Sample.greeting ∧
      Contest.Reaches (target.channel.id, e.sourceId) ⟨Sample.world, [], false⟩ K ∧ K.overrun = false ∧
      K.contenders = c :: after ∧ c.late K.world (target.channel.id, e.sourceId) = true ∧ K.running.length ≤ 1 ∧
      (∃ c' ∈ after, (c'.running K.world.instant).isSome = true) ∧
      ∃ K', Contest.Reaches (target.channel.id, e.sourceId) K K' ∧ 1 < K'.running.length := by
  have hplay : Sample.contends
      ([.join, .turn 0, .wait 300000, .join, .turn 1] ++ List.replicate 9 (.turn 0))
      (fun k K => !K.overrun && (K.world.instant.deadline? K.world.guard.ttl).isSome &&
        K.contenders.head?.any fun c => c.releases && c.late K.world k) = true := by
    decide +kernel
  obtain ⟨target, e, m, K, hmem, hreach, hc⟩ := Sample.exists_contest hplay
  simp only [Bool.and_eq_true, Bool.not_eq_true', Option.any_eq_true] at hc
  obtain ⟨⟨hin, hclock⟩, c, hhead, hr, hlate⟩ := hc
  obtain ⟨after, hcs⟩ := List.head?_eq_some_iff.1 hhead
  obtain ⟨hone, hreleases⟩ := contest_exclusive_unless_late hreach hin
  obtain ⟨hiff, htwo⟩ := hreleases [] c after hcs hr
  exact ⟨target, e, m, K, c, after, hmem, hreach, hin, hcs, hlate, hone, hiff.1 hlate, htwo hlate hclock⟩

/-- A third greeting is granted the claim that the second still holds. -/
theorem late_release_admits_two :
    ∃ target e m K, (target, e, m) ∈ Sample.world.tables.accepted Sample.greeting ∧
      Contest.Reaches (target.channel.id, e.sourceId) ⟨Sample.world, [], false⟩ K ∧ K.running.length = 2 := by
  have hplay : Sample.contends
      ([.join, .turn 0, .wait 300000, .join, .turn 1] ++ List.replicate 10 (.turn 0) ++ [.join, .turn 2])
      (fun _ K => decide (K.running.length = 2)) = true := by
    decide +kernel
  obtain ⟨target, e, m, K, hmem, hreach, hc⟩ := Sample.exists_contest hplay
  exact ⟨target, e, m, K, hmem, hreach, of_decide_eq_true hc⟩

end Intake
