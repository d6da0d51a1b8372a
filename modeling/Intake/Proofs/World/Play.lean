import Intake.Job.Basic
import Intake.Proofs.World.Pool
import Intake.Proofs.World.Replay

/-!
# Playing runs

Nothing can be downloaded, and the faults that an outage allows say which requests are refused. One delivery is replayed
(`World.exists_play`), or a pool whose deliveries take turns (`Pool.exists_play`).
-/

namespace Intake

variable {ι α : Type} {o : Outage}

def Outage.replay (o : Outage) : Replay := { refuses := o.strikes }

theorem Outage.replay_within (o : Outage) : o.replay.Within o.rules where
  clocks := trivial
  refuses _ _ h := h
  serves _ _ := trivial
  visits _ _ _ := Replay.unvisited

theorem World.exists_play {w : World} {faults : List Fault} {p : Program α} {check : List Exchange × α × World → Bool}
    (h : (o.replay.run? faults p w).any check = true) :
    ∃ t a w', p.Yields t a ∧ w.Passes o t w' ∧ check (t, a, w') = true := by
  obtain ⟨⟨t, a, w'⟩, hrun, hc⟩ := (Option.any_eq_true ..).1 h
  obtain ⟨hy, hp⟩ := o.replay_within.run hrun
  exact ⟨t, a, w', hy, hp, hc⟩

namespace Pool

/-- Takes one turn for the delivery at a position. From the name of its request `strike` tells the error that refuses
it, and the faults that are left. -/
def turn? (S : Replay) (strike : String → Option DomainError × List Fault) (w : World) :
    List (Delivery ι α) → Nat → Option (World × List (Delivery ι α) × List Fault)
  | [], _ => none
  | ⟨job, log, .ask r next⟩ :: ds, 0 =>
    (S.reply? (strike r.name).1 r w).map fun (b, w) => (w, ⟨job, log ++ [⟨r, b⟩], next b⟩ :: ds, (strike r.name).2)
  | ⟨_, _, .done _⟩ :: _, 0 => none
  | d :: ds, k + 1 => (turn? S strike w ds k).map fun (w, ds, faults) => (w, d :: ds, faults)

theorem turn?_eq_some {S : Replay} {strike : String → Option DomainError × List Fault} {w w' : World}
    {ds ds' : List (Delivery ι α)} {k : Nat} {faults : List Fault}
    (h : turn? S strike w ds k = some (w', ds', faults)) :
    ∃ before job log r next b after, ds = before ++ ⟨job, log, .ask r next⟩ :: after ∧
      ds' = before ++ ⟨job, log ++ [⟨r, b⟩], next b⟩ :: after ∧
      S.reply? (strike r.name).1 r w = some (b, w') := by
  induction ds generalizing k ds' with
  | nil => cases h
  | cons d ds ih =>
    obtain ⟨job, log, rest⟩ := d
    cases k with
    | zero =>
      cases rest with
      | done => cases h
      | ask r next =>
        obtain ⟨⟨b, w₁⟩, hb, heq⟩ := Option.map_eq_some_iff.1 h
        cases heq
        exact ⟨[], job, log, r, next, b, ds, rfl, rfl, hb⟩
    | succ k =>
      have h' : (turn? S strike w ds k).map (fun (w, ds, faults) => (w, ⟨job, log, rest⟩ :: ds, faults)) =
          some (w', ds', faults) := by
        cases rest <;> exact h
      obtain ⟨⟨w₁, ds₁, faults₁⟩, hturn, heq⟩ := Option.map_eq_some_iff.1 h'
      cases heq
      obtain ⟨before, job', log', r, next, b, after, rfl, rfl, hb⟩ := ih hturn
      exact ⟨⟨job, log, rest⟩ :: before, job', log', r, next, b, after, rfl, rfl, hb⟩

def play (o : Outage) : List Fault → List Nat → Pool ι α → Option (Pool ι α)
  | _, [], P => some P
  | faults, k :: ks, P =>
    (turn? o.replay (Fault.take · faults) P.world P.deliveries k).bind fun (w, ds, faults) => play o faults ks ⟨w, ds⟩

theorem advance_of_turn? {strike : String → Option DomainError × List Fault} {faults : List Fault} {w w' : World}
    {ds ds' : List (Delivery ι α)} {k : Nat} (h : turn? o.replay strike w ds k = some (w', ds', faults)) :
    Step o ⟨w, ds⟩ ⟨w', ds'⟩ := by
  obtain ⟨before, job, log, r, next, b, after, rfl, rfl, hb⟩ := turn?_eq_some h
  exact .advance (o.replay_within.replies hb)

theorem reaches_of_play {faults : List Fault} {ks : List Nat} {P P' : Pool ι α} (h : play o faults ks P = some P') :
    Reaches o P P' := by
  induction ks generalizing faults P with
  | nil =>
    cases h
    exact .refl
  | cons k ks ih =>
    obtain ⟨⟨w, ds, faults'⟩, hturn, hplay⟩ := Option.bind_eq_some_iff.1 h
    exact .head (advance_of_turn? hturn) (ih hplay)

theorem exists_play {faults : List Fault} {ks : List Nat} {P : Pool ι α} {check : Pool ι α → Bool}
    (h : (play o faults ks P).any check = true) : ∃ P', Reaches o P P' ∧ check P' = true := by
  obtain ⟨P', hplay, hc⟩ := (Option.any_eq_true ..).1 h
  exact ⟨P', reaches_of_play hplay, hc⟩

end Pool

/-! ## A channel to play on -/

namespace Sample

/-- One channel, and nothing stored or claimed. -/
def world : World where
  store := .seeded [(0, .default, "+15550001", ⟨[]⟩)]
  guard := .default

/-- A job for the channel with one message. -/
def job (kind : String) (content : Json) : WebhookJob :=
  let message := .object
    [("id", .string "wamid.1"), ("from", .string "15550002"), ("type", .string kind), (kind, content)]
  (WebhookJob.ofPayload (.object [("messages", .array [message])])).withPhoneNumber "15550001"

def greeting : WebhookJob := job "text" (.object [("body", .string "hello")])

def card (name phone : String) : Json :=
  .object
    [("name", .object [("formatted_name", .string name)]), ("phones", .array [.object [("phone", .string phone)]])]

def cards : WebhookJob := job "contacts" (.array [card "Ada" "15550003", card "Grace" "15550004"])

theorem not_claimed (c : Snowflake × String) : ¬ world.Claimed c := World.not_claimed_of_nil rfl c

end Sample

end Intake
