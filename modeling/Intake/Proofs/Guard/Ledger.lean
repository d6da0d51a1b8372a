import Intake.Guard.Memory
import Mathlib.Data.List.Basic

/-!
# The ledger of a guard

A guard is asked for claims and releases at moments of a clock. What it answers over time is its ledger, and the ledger
alone says which pairs are held: those with a granted claim that has not run out and has not been released since.
-/

namespace Intake.Guard

/-- What a guard can be asked. -/
inductive Call where
  | claim (pair : Snowflake × String)
  | release (pair : Snowflake × String)
deriving DecidableEq, Repr

abbrev Call.Reply : Call → Type
  | .claim _ => Bool
  | .release _ => Unit

/-- A call with its moment and the reply that it got. -/
structure Entry {κ : Type} (ρ : κ → Type) where
  time : Instant
  call : κ
  reply : ρ call

variable {κ : Type} {ρ : κ → Type} {m : Type → Type}

def Entry.asked (e : Entry ρ) : Instant × κ := (e.time, e.call)

/-- Asks one call after the other, and keeps what was answered. -/
def record [Monad m] (answer : Instant → (call : κ) → m (ρ call)) : List (Instant × κ) → m (List (Entry ρ))
  | [] => pure []
  | (now, call) :: calls => do
    let reply ← answer now call
    let log ← record answer calls
    return ⟨now, call, reply⟩ :: log

section

variable {σ ε : Type} {now : Instant} {call : κ} {reply : ρ call} {calls : List (Instant × κ)} {log : List (Entry ρ)}
  {s s₁ s' : σ}

theorem record_cons_some {answer : Instant → (call : κ) → StateT σ Option (ρ call)}
    (hcall : answer now call s = some (reply, s₁)) (hrest : record answer calls s₁ = some (log, s')) :
    record answer ((now, call) :: calls) s = some (⟨now, call, reply⟩ :: log, s') := by
  rw [record]
  simp only [bind, StateT.bind, hcall, Option.bind_some, hrest]
  rfl

theorem exists_of_record_cons {answer : Instant → (call : κ) → StateT σ Option (ρ call)}
    (h : record answer ((now, call) :: calls) s = some (log, s')) :
    ∃ reply s₁ rest, answer now call s = some (reply, s₁) ∧ record answer calls s₁ = some (rest, s') ∧
      log = ⟨now, call, reply⟩ :: rest := by
  obtain ⟨⟨reply, s₁⟩, hcall, htail⟩ := Option.bind_eq_some_iff.1 h
  obtain ⟨⟨rest, s₂⟩, hrest, hend⟩ := Option.bind_eq_some_iff.1 htail
  obtain ⟨rfl, rfl⟩ := Prod.mk.inj (Option.some.inj hend)
  exact ⟨reply, s₁, rest, hcall, hrest, rfl⟩

theorem record_cons_ok {answer : Instant → (call : κ) → ExceptT ε (StateM σ) (ρ call)}
    (hcall : answer now call s = (.ok reply, s₁)) (hrest : record answer calls s₁ = (.ok log, s')) :
    record answer ((now, call) :: calls) s = (.ok (⟨now, call, reply⟩ :: log), s') := by
  rw [record]
  simp only [bind, ExceptT.bind, ExceptT.mk, StateT.bind, hcall, ExceptT.bindCont, hrest]
  rfl

end

/-- The moments never go back, and every claim has a deadline that the clock can express. -/
structure Timely (ttl : Nat) (claim : Snowflake × String → κ) (calls : List (Instant × κ)) : Prop where
  sorted : (calls.map Prod.fst).Pairwise (· ≤ ·)
  deadline : ∀ now pair, (now, claim pair) ∈ calls → (now.deadline? ttl).isSome = true

namespace Timely

variable {ttl : Nat} {claim : Snowflake × String → κ} {c : Instant × κ} {calls : List (Instant × κ)}

theorem of_forall (hs : (calls.map Prod.fst).Pairwise (· ≤ ·))
    (hd : ∀ d ∈ calls, (d.1.deadline? ttl).isSome = true) : Timely ttl claim calls where
  sorted := hs
  deadline _ _ hmem := hd _ hmem

theorem tail (h : Timely ttl claim (c :: calls)) : Timely ttl claim calls where
  sorted := (List.pairwise_cons.1 h.sorted).2
  deadline now pair hmem := h.deadline now pair (.tail _ hmem)

theorem le_of_mem (h : Timely ttl claim (c :: calls)) {d : Instant × κ} (hd : d ∈ calls) : c.1 ≤ d.1 :=
  (List.pairwise_cons.1 h.sorted).1 d.1 (List.mem_map_of_mem hd)

theorem filter (h : Timely ttl claim calls) (keep : Instant × κ → Bool) : Timely ttl claim (calls.filter keep) where
  sorted := h.sorted.sublist (List.filter_sublist.map _)
  deadline now pair hmem := h.deadline now pair (List.mem_filter.1 hmem).1

end Timely

abbrev Ledger := List (Entry Call.Reply)

/-- A claim on the pair has been granted, has not run out and has not been released since. -/
def Held (ttl : Nat) (ledger : Ledger) (pair : Snowflake × String) (now : Instant) : Prop :=
  ∃ before t after, ledger = before ++ ⟨t, .claim pair, true⟩ :: after ∧ now < t + ttl ∧
    ∀ u, (⟨u, .release pair, ()⟩ : Entry Call.Reply) ∉ after

variable {ttl : Nat} {now later t : Instant} {ledger : Ledger} {pair p : Snowflake × String}

theorem not_held_nil : ¬Held ttl [] pair now := by
  rintro ⟨before, t, after, h, -⟩
  exact List.append_ne_nil_of_right_ne_nil before (List.cons_ne_nil _ after) h.symm

theorem Held.earlier (h : Held ttl ledger pair later) (hle : now ≤ later) : Held ttl ledger pair now := by
  obtain ⟨before, t, after, rfl, hlt, hkept⟩ := h
  exact ⟨before, t, after, rfl, Nat.lt_of_le_of_lt hle hlt, hkept⟩

/-- The claim that holds a pair is the last entry, or one before it that the last entry does not release. -/
theorem held_concat {e : Entry Call.Reply} :
    Held ttl (ledger ++ [e]) pair now ↔
      Held ttl ledger pair now ∧ (∀ u, e ≠ ⟨u, .release pair, ()⟩) ∨
        ∃ t, e = ⟨t, .claim pair, true⟩ ∧ now < t + ttl := by
  constructor
  · rintro ⟨before, t, after, h, hlt, hkept⟩
    rcases List.eq_nil_or_concat after with rfl | ⟨after, e', rfl⟩
    · obtain ⟨-, he⟩ := List.append_inj' h rfl
      exact .inr ⟨t, List.singleton_inj.1 he, hlt⟩
    · rw [List.concat_eq_append, ← List.cons_append, ← List.append_assoc] at h
      obtain ⟨rfl, he⟩ := List.append_inj' h rfl
      obtain rfl : e = e' := List.singleton_inj.1 he
      rw [List.concat_eq_append] at hkept
      refine .inl ⟨⟨before, t, after, rfl, hlt, fun u hu => hkept u (List.mem_append_left _ hu)⟩, fun u hu => ?_⟩
      exact hkept u (List.mem_append_right _ (List.mem_singleton.2 hu.symm))
  · rintro (⟨⟨before, t, after, rfl, hlt, hkept⟩, hlast⟩ | ⟨t, rfl, hlt⟩)
    · refine ⟨before, t, after ++ [e], by rw [List.append_assoc, List.cons_append], hlt, fun u hu => ?_⟩
      rcases List.mem_append.1 hu with hu | hu
      · exact hkept u hu
      · exact hlast u (List.mem_singleton.1 hu).symm
    · exact ⟨ledger, t, [], rfl, hlt, fun u => List.not_mem_nil⟩

theorem held_claim {b : Bool} :
    Held ttl (ledger ++ [⟨t, .claim p, b⟩]) pair now ↔
      Held ttl ledger pair now ∨ b = true ∧ p = pair ∧ now < t + ttl := by
  rw [held_concat]
  constructor
  · rintro (⟨h, -⟩ | ⟨u, he, hlt⟩)
    · exact .inl h
    · cases he
      exact .inr ⟨rfl, rfl, hlt⟩
  · rintro (h | ⟨rfl, rfl, hlt⟩)
    · exact .inl ⟨h, fun u => nofun⟩
    · exact .inr ⟨t, rfl, hlt⟩

theorem held_release {reply : Unit} :
    Held ttl (ledger ++ [⟨t, .release p, reply⟩]) pair now ↔ Held ttl ledger pair now ∧ p ≠ pair := by
  rw [held_concat]
  constructor
  · rintro (⟨h, hlast⟩ | ⟨u, he, -⟩)
    · refine ⟨h, ?_⟩
      rintro rfl
      exact hlast t rfl
    · cases he
  · rintro ⟨h, hne⟩
    refine .inl ⟨h, fun u he => ?_⟩
    cases he
    exact hne rfl

end Intake.Guard
