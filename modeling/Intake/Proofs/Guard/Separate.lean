import Intake.Proofs.Guard.Interchangeable

/-!
# Calls on different pairs

The answers to the calls on a pair depend on these calls alone. What a guard keeps is looked at from one key: calls on
the key are answered alike in states that look alike and leave them so, and calls on other keys do not show
(`Separates`). So the answers are those of the run with the other calls left out (`Separates.record_filter`), and
different pairs have different keys.
-/

namespace Intake

namespace Guard

/-- The moments never go back. -/
def Ordered {κ : Type} (calls : List (Instant × κ)) : Prop := (calls.map Prod.fst).Pairwise (· ≤ ·)

variable {κ σ : Type} {ρ : κ → Type} {calls calls' : List (Instant × κ)}

theorem Ordered.le_of_mem {c d : Instant × κ} (h : Ordered (c :: calls)) (hd : d ∈ calls) : c.1 ≤ d.1 :=
  (List.pairwise_cons.1 h).1 d.1 (List.mem_map_of_mem hd)

theorem Ordered.tail {c : Instant × κ} (h : Ordered (c :: calls)) : Ordered calls := (List.pairwise_cons.1 h).2

theorem record_cons {answer : Instant → (call : κ) → StateM σ (ρ call)} {now : Instant} {call : κ} {s : σ} :
    record answer ((now, call) :: calls) s =
      (⟨now, call, (answer now call s).1⟩ :: (record answer calls (answer now call s).2).1,
        (record answer calls (answer now call s).2).2) :=
  rfl

/-- Some calls are answered alike in states that look alike and leave them so; the other calls do not show. -/
structure Separates (answer : Instant → (call : κ) → StateM σ (ρ call)) (seen : κ → Bool)
    (alike : Instant → σ → σ → Prop) : Prop where
  mono : ∀ now later s s', now ≤ later → alike now s s' → alike later s s'
  own : ∀ now call s s', seen call = true → alike now s s' →
    (answer now call s).1 = (answer now call s').1 ∧ alike now (answer now call s).2 (answer now call s').2
  other : ∀ now call s s', seen call = false → alike now s s' → alike now (answer now call s).2 s'

namespace Separates

variable {answer : Instant → (call : κ) → StateM σ (ρ call)} {seen : κ → Bool} {alike : Instant → σ → σ → Prop}
  {now : Instant} {s s' : σ}

/-- What the other calls are does not show in the answers. -/
theorem record_filter (h : Separates answer seen alike) (hcalls : Ordered calls) (hafter : ∀ c ∈ calls, now ≤ c.1)
    (hs : alike now s s') :
    (record answer calls s).1.filter (seen ·.call) = (record answer (calls.filter (seen ·.2)) s').1 := by
  -- A call that is left out leads to another state, so the runs are compared from states that only look alike.
  induction calls generalizing now s s' with
  | nil => rfl
  | cons c calls ih =>
    obtain ⟨t, call⟩ := c
    have hrest : ∀ c ∈ calls, t ≤ c.1 := fun c hc => hcalls.le_of_mem hc
    have hnow : alike t s s' := h.mono now t s s' (hafter _ (.head _)) hs
    rw [record_cons, List.filter_cons, List.filter_cons]
    by_cases hcall : seen call = true
    · obtain ⟨hreply, hnext⟩ := h.own t call s s' hcall hnow
      rw [if_pos hcall, if_pos hcall, record_cons, hreply, ih hcalls.tail hrest hnext]
    · have hnext := h.other t call s s' (Bool.eq_false_iff.2 hcall) hnow
      rw [if_neg hcall, if_neg hcall]
      exact ih hcalls.tail hrest hnext

/-- Runs with the same calls of the kind that is looked at have the same answers to them. -/
theorem answers_eq (h : Separates answer seen alike) (hs : alike 0 s s) (hcalls : Ordered calls)
    (hcalls' : Ordered calls') (hsame : calls.filter (seen ·.2) = calls'.filter (seen ·.2)) :
    (record answer calls s).1.filter (seen ·.call) = (record answer calls' s).1.filter (seen ·.call) := by
  rw [h.record_filter hcalls (fun c _ => Nat.zero_le c.1) hs, h.record_filter hcalls' (fun c _ => Nat.zero_le c.1) hs,
    hsame]

end Separates

def Call.pair : Call → Snowflake × String
  | .claim pair | .release pair => pair

end Guard

open Guard (Ordered Separates record claimKey claimKey_eq_iff)

theorem Guard.claimKey_ne {p pair : Snowflake × String} (hne : p ≠ pair) :
    claimKey pair.1 pair.2 ≠ claimKey p.1 p.2 := fun hkey =>
  hne ((claimKey_eq_iff _ _).1 hkey).symm

/-! ### In memory -/

namespace MemoryGuard

variable {g g' g'' : MemoryGuard} {pair : Snowflake × String} {now later : Instant} {key k : String}

/-- A call by itself: a claim whose deadline cannot be expressed has no reply and leaves the guard as it was. -/
def respond (now : Instant) (call : Call) : StateM MemoryGuard (Option call.Reply) := fun g =>
  match answer now call g with
  | some (reply, g') => (some reply, g')
  | none => (none, g)

/-- Sweeps and counts are on no pair. -/
def Call.isOn (pair : Snowflake × String) : Call → Bool
  | .port call => call.pair = pair
  | .purge | .active => false

theorem respond_claim : respond now (.port (.claim pair)) g =
    if g.holds now (claimKey pair.1 pair.2) then (some false, g.count now)
    else match now.deadline? g.ttl with
      | some deadline => (some true, (g.insert (claimKey pair.1 pair.2) deadline).count now)
      | none => (none, g) := by
  simp only [respond, answer, answerPort, tryClaim?, claimKey?]
  cases g.holds now (claimKey pair.1 pair.2) with
  | true => rfl
  | false => cases now.deadline? g.ttl <;> rfl

/-- From now on, what the guards have of the key is the same. -/
structure Alike (key : String) (now : Instant) (g g' : MemoryGuard) : Prop where
  ttl_eq : g.ttl = g'.ttl
  deadlines_eq : g.deadlines now key = g'.deadlines now key

theorem deadlines_purge : (g.purge now).deadlines now key = g.deadlines now key := by
  rw [deadlines, deadlines, purge, List.filter_filter]
  congr 2
  funext c
  cases isLive now c <;> simp

theorem deadlines_erase_of_ne (hne : key ≠ k) : (g.erase k).deadlines now key = g.deadlines now key := by
  rw [deadlines, deadlines, erase, List.filter_filter]
  congr 2
  funext c
  by_cases hc : c.1 = key
  · simp [hc, hne]
  · simp [hc]

theorem deadlines_insert_of_ne {deadline : Instant} (hne : key ≠ k) :
    (g.insert k deadline).deadlines now key = g.deadlines now key := by
  have hskip : (g.insert k deadline).deadlines now key = (g.erase k).deadlines now key := by
    simp [deadlines, insert, Ne.symm hne]
  rw [hskip, deadlines_erase_of_ne hne]

namespace Alike

theorem refl : Alike key now g g := ⟨rfl, rfl⟩

theorem symm (h : Alike key now g g') : Alike key now g' g := ⟨h.ttl_eq.symm, h.deadlines_eq.symm⟩

theorem trans (h : Alike key now g g') (h' : Alike key now g' g'') : Alike key now g g'' :=
  ⟨h.ttl_eq.trans h'.ttl_eq, h.deadlines_eq.trans h'.deadlines_eq⟩

theorem mono (hle : now ≤ later) (h : Alike key now g g') : Alike key later g g' where
  ttl_eq := h.ttl_eq
  deadlines_eq := by rw [deadlines_later hle, deadlines_later hle, h.deadlines_eq]

theorem holds_eq (h : Alike key now g g') : g.holds now key = g'.holds now key := by
  have hfree : g.holds now key = false ↔ g'.holds now key = false := by
    rw [← deadlines_eq_nil_iff, ← deadlines_eq_nil_iff, h.deadlines_eq]
  cases hheld : g'.holds now key with
  | true => exact Bool.eq_true_of_not_eq_false fun hnot => Bool.false_ne_true ((hfree.1 hnot).symm.trans hheld)
  | false => exact hfree.2 hheld

theorem count : Alike key now (g.count now) g := ⟨count_ttl, deadlines_count⟩

theorem insert (h : Alike key now g g') (deadline : Instant) :
    Alike key now (g.insert key deadline) (g'.insert key deadline) where
  ttl_eq := h.ttl_eq
  deadlines_eq := by rw [deadlines_insert, deadlines_insert]

theorem claim (h : Alike (claimKey pair.1 pair.2) now g g') :
    (respond now (.port (.claim pair)) g).1 = (respond now (.port (.claim pair)) g').1 ∧
      Alike (claimKey pair.1 pair.2) now (respond now (.port (.claim pair)) g).2
        (respond now (.port (.claim pair)) g').2 := by
  rw [respond_claim, respond_claim, ← h.holds_eq, ← h.ttl_eq]
  split
  · exact ⟨rfl, count.trans (h.trans count.symm)⟩
  · split
    · next deadline _ => exact ⟨rfl, count.trans ((h.insert deadline).trans count.symm)⟩
    · exact ⟨rfl, h⟩

theorem release (h : Alike key now g g') : Alike key now (g.erase key) (g'.erase key) where
  ttl_eq := h.ttl_eq
  deadlines_eq := by rw [deadlines_erase, deadlines_erase]

theorem claim_of_ne {p : Snowflake × String} (hne : key ≠ claimKey p.1 p.2) :
    Alike key now (respond now (.port (.claim p)) g).2 g := by
  rw [respond_claim]
  split
  · exact count
  · split
    · exact count.trans ⟨rfl, deadlines_insert_of_ne hne⟩
    · exact refl

end Alike

theorem separates (pair : Snowflake × String) :
    Separates respond (Call.isOn pair) (Alike (claimKey pair.1 pair.2)) where
  mono _ _ _ _ hle h := h.mono hle
  own now call g g' hcall h := by
    match call with
    | .port (.claim p) =>
      obtain rfl : p = pair := of_decide_eq_true hcall
      exact h.claim
    | .port (.release p) =>
      obtain rfl : p = pair := of_decide_eq_true hcall
      exact ⟨rfl, h.release⟩
    | .purge | .active => cases hcall
  other now call g g' hcall h := by
    match call with
    | .port (.claim p) =>
      have hne : p ≠ pair := of_decide_eq_false hcall
      exact (Alike.claim_of_ne (Guard.claimKey_ne hne)).trans h
    | .port (.release p) =>
      have hne : p ≠ pair := of_decide_eq_false hcall
      have hrelease : Alike (claimKey pair.1 pair.2) now (g.release p.1 p.2) g :=
        ⟨rfl, deadlines_erase_of_ne (Guard.claimKey_ne hne)⟩
      exact hrelease.trans h
    | .purge =>
      have hpurge : Alike (claimKey pair.1 pair.2) now (g.purge now) g := ⟨rfl, deadlines_purge⟩
      exact hpurge.trans h
    | .active => exact h

end MemoryGuard

/-! ### On a key server -/

variable {σ α : Type}

/-- The key that a command is about. -/
def KeyCommand.key? : KeyCommand → Option String
  | .set key _ | .delete key | .timeToLive key => some key
  | .ping => none

/-- A command is answered by what the server has of its key, and does nothing to other keys; these only run out. So it
is on a server that has room for its keys. Commands may fail, at any moment and with any text. -/
structure KeyServer.Keyed (server : Instant → KeyServer σ) (deadline? : σ → Instant → String → Option Instant) :
    Prop where
  later : ∀ s now later key, now ≤ later → deadline? s later key = (deadline? s now key).filter (later < ·)
  own : ∀ s s' now key command, command.key? = some key → deadline? s now key = deadline? s' now key →
    (server now command s).1 = (server now command s').1 ∧
      deadline? (server now command s).2 now key = deadline? (server now command s').2 now key
  other : ∀ s now key command, command.key? ≠ some key →
    deadline? (server now command s).2 now key = deadline? s now key

section

variable {server : KeyServer σ} {command : KeyCommand} {read? : KeyReply → Option α} {s s' : σ}

theorem KeyServer.send_fst (h : (server command s).1 = (server command s').1) :
    (server.send command read? s).1 = (server.send command read? s').1 := by
  simp only [send, ExceptT.mk]
  rw [← h]
  split <;> rfl

theorem KeyServer.send_snd : (server.send command read? s).2 = (server command s).2 := by
  simp only [send, ExceptT.mk]
  split <;> rfl

end

namespace RemoteGuard

/-- A call, or a look at the seconds that a claim has left. -/
inductive Call where
  | port (call : Guard.Call)
  | remaining (pair : Snowflake × String)
deriving DecidableEq, Repr

namespace Call

/-- Every call can fail. -/
abbrev Reply : Call → Type
  | .port call => Except DomainError call.Reply
  | .remaining _ => Except DomainError (Option Int)

def pair : Call → Snowflake × String
  | .port call => call.pair
  | .remaining pair => pair

/-- The command that is sent for a call. -/
def command (g : RemoteGuard) : Call → KeyCommand
  | .port (.claim pair) => .set (claimKey pair.1 pair.2) g.ttlSeconds
  | .port (.release pair) => .delete (claimKey pair.1 pair.2)
  | .remaining pair => .timeToLive (claimKey pair.1 pair.2)

theorem key?_command (g : RemoteGuard) (call : Call) :
    (call.command g).key? = some (claimKey call.pair.1 call.pair.2) := by
  match call with
  | .port (.claim _) | .port (.release _) | .remaining _ => rfl

end Call

def respond (g : RemoteGuard) (server : Instant → KeyServer σ) (now : Instant) : (call : Call) → StateM σ call.Reply
  | .port (.claim pair) => (g.tryClaim (server now) pair.1 pair.2).run
  | .port (.release pair) => (release (server now) pair.1 pair.2).run
  | .remaining pair => (remainingSeconds (server now) pair.1 pair.2).run

variable {g : RemoteGuard} {server : Instant → KeyServer σ} {deadline? : σ → Instant → String → Option Instant}
  {now : Instant} {call : Call} {s s' : σ}

theorem respond_fst (h : (server now (call.command g) s).1 = (server now (call.command g) s').1) :
    (g.respond server now call s).1 = (g.respond server now call s').1 := by
  match call with
  | .port (.claim _) | .port (.release _) | .remaining _ => exact KeyServer.send_fst h

theorem respond_snd : (g.respond server now call s).2 = (server now (call.command g) s).2 := by
  match call with
  | .port (.claim _) | .port (.release _) | .remaining _ => exact KeyServer.send_snd

theorem separates (hserver : KeyServer.Keyed server deadline?) (g : RemoteGuard) (pair : Snowflake × String) :
    Separates (g.respond server) (fun call => call.pair = pair) fun now s s' =>
      deadline? s now (claimKey pair.1 pair.2) = deadline? s' now (claimKey pair.1 pair.2) where
  mono now later s s' hle h := by rw [hserver.later s now later _ hle, hserver.later s' now later _ hle, h]
  own now call s s' hcall h := by
    obtain rfl : call.pair = pair := of_decide_eq_true hcall
    obtain ⟨hreply, hkept⟩ := hserver.own s s' now _ _ (call.key?_command g) h
    rw [respond_snd, respond_snd]
    exact ⟨respond_fst hreply, hkept⟩
  other now call s s' hcall h := by
    have hne : call.pair ≠ pair := of_decide_eq_false hcall
    have hkey : (call.command g).key? ≠ some (claimKey pair.1 pair.2) := by
      rw [call.key?_command g]
      exact fun hsame => Guard.claimKey_ne hne (Option.some.inj hsame).symm
    rw [respond_snd, hserver.other s now _ _ hkey, h]

end RemoteGuard

namespace KeyDeadlines

variable {keys keys' : KeyDeadlines} {now later : Instant} {key : String}

/-- The moment at which a key runs out that has not run out yet. -/
def deadline? (keys : KeyDeadlines) (now : Instant) (key : String) : Option Instant := (keys key).filter (now < ·)

theorem left?_eq : keys.left? now key = (keys.deadline? now key).map (· - now) := by
  rw [left?, deadline?]
  cases keys key with
  | none => rfl
  | some d =>
    by_cases hlt : now < d
    · simp [hlt]
    · simp [hlt, Nat.le_of_not_lt hlt]

theorem deadline?_update {d : Option Instant} :
    deadline? (Function.update keys key d) now key = d.filter (now < ·) := by
  rw [deadline?, Function.update_self]

theorem deadline?_update_of_ne {k : String} {d : Option Instant} (hne : key ≠ k) :
    deadline? (Function.update keys k d) now key = keys.deadline? now key := by
  rw [deadline?, Function.update_of_ne hne, deadline?]

theorem deadline?_later (hle : now ≤ later) :
    keys.deadline? later key = (keys.deadline? now key).filter (later < ·) := by
  rw [deadline?, deadline?, Option.filter_filter]
  congr 1
  funext d
  by_cases hlt : later < d
  · simp [hlt, Nat.lt_of_le_of_lt hle hlt]
  · simp [hlt]

theorem serve_own {command : KeyCommand} (hkey : command.key? = some key)
    (h : keys.deadline? now key = keys'.deadline? now key) :
    (serve now command keys).1 = (serve now command keys').1 ∧
      (serve now command keys).2.deadline? now key = (serve now command keys').2.deadline? now key := by
  have hleft : keys.left? now key = keys'.left? now key := by rw [left?_eq, left?_eq, h]
  cases command with
  | set k seconds =>
    obtain rfl := Option.some.inj hkey
    simp only [serve, hleft]
    split
    · exact ⟨rfl, h⟩
    · exact ⟨rfl, deadline?_update.trans deadline?_update.symm⟩
  | delete k =>
    obtain rfl := Option.some.inj hkey
    simp only [serve, hleft]
    exact ⟨trivial, deadline?_update.trans deadline?_update.symm⟩
  | timeToLive k =>
    obtain rfl := Option.some.inj hkey
    simp only [serve, hleft]
    split <;> exact ⟨rfl, h⟩
  | ping => cases hkey

theorem serve_other {command : KeyCommand} (hkey : command.key? ≠ some key) :
    (serve now command keys).2.deadline? now key = keys.deadline? now key := by
  cases command with
  | set k seconds =>
    have hne : key ≠ k := fun hk => hkey (congrArg some hk.symm)
    simp only [serve]
    split
    · rfl
    · exact deadline?_update_of_ne hne
  | delete k =>
    have hne : key ≠ k := fun hk => hkey (congrArg some hk.symm)
    exact deadline?_update_of_ne hne
  | timeToLive k =>
    simp only [serve]
    split <;> rfl
  | ping => rfl

theorem keyed : KeyServer.Keyed serve deadline? where
  later _ _ _ _ hle := deadline?_later hle
  own _ _ _ _ _ hkey h := serve_own hkey h
  other _ _ _ _ hkey := serve_other hkey

end KeyDeadlines

/-- Different pairs have different keys, and the calls on a pair are answered as though there were no others: two runs
with the same calls on it, whatever calls each has on other pairs, have the same answers on it. -/
theorem answers_by_pair :
    (∀ p q : Snowflake × String, claimKey p.1 p.2 = claimKey q.1 q.2 → p = q) ∧
    (∀ (pair : Snowflake × String) (g : MemoryGuard) (calls calls' : List (Instant × MemoryGuard.Call)),
      Ordered calls → Ordered calls' → calls.filter (·.2.isOn pair) = calls'.filter (·.2.isOn pair) →
        (record MemoryGuard.respond calls g).1.filter (·.call.isOn pair) =
          (record MemoryGuard.respond calls' g).1.filter (·.call.isOn pair)) ∧
    ∀ (σ : Type) (server : Instant → KeyServer σ) (deadline? : σ → Instant → String → Option Instant),
      KeyServer.Keyed server deadline? → ∀ (pair : Snowflake × String) (g : RemoteGuard) (s : σ)
        (calls calls' : List (Instant × RemoteGuard.Call)), Ordered calls → Ordered calls' →
          calls.filter (·.2.pair = pair) = calls'.filter (·.2.pair = pair) →
            (record (g.respond server) calls s).1.filter (·.call.pair = pair) =
              (record (g.respond server) calls' s).1.filter (·.call.pair = pair) := by
  refine ⟨fun p q hkey => (claimKey_eq_iff p q).1 hkey, fun pair g calls calls' hcalls hcalls' hsame => ?_, ?_⟩
  · exact (MemoryGuard.separates pair).answers_eq .refl hcalls hcalls' hsame
  · intro σ server deadline? hserver pair g s calls calls' hcalls hcalls' hsame
    exact (RemoteGuard.separates hserver g pair).answers_eq rfl hcalls hcalls' hsame

/-- Claims and releases on pairs that are written with the same characters, but for the colon or a sign. -/
def lookalikes : List (Instant × Guard.Call) :=
  [(0, .claim (⟨1⟩, "2:wamid.1")), (1, .claim (⟨12⟩, "wamid.1")), (2, .release (⟨12⟩, "wamid.1")),
    (2, .release (⟨-1⟩, "2:wamid.1")), (3, .claim (⟨1⟩, "2:wamid.1"))]

def alone : List (Instant × Guard.Call) := [(0, .claim (⟨1⟩, "2:wamid.1")), (3, .claim (⟨1⟩, "2:wamid.1"))]

/-- Among the lookalikes, the pair is refused at its second claim as it is without them. -/
theorem lookalike_pairs_apart :
    KeyServer.Keyed KeyDeadlines.serve KeyDeadlines.deadline? ∧
    (record MemoryGuard.respond (lookalikes.map (Prod.map id .port)) .default).1.filter
        (·.call.isOn (⟨1⟩, "2:wamid.1")) =
      [⟨0, .port (.claim (⟨1⟩, "2:wamid.1")), some true⟩, ⟨3, .port (.claim (⟨1⟩, "2:wamid.1")), some false⟩] ∧
    (record ((RemoteGuard.ofSeconds 300).respond KeyDeadlines.serve) (lookalikes.map (Prod.map id .port))
        fun _ => none).1.filter (·.call.pair = (⟨1⟩, "2:wamid.1")) =
      [⟨0, .port (.claim (⟨1⟩, "2:wamid.1")), .ok true⟩, ⟨3, .port (.claim (⟨1⟩, "2:wamid.1")), .ok false⟩] := by
  obtain ⟨-, hmemory, hremote⟩ := answers_by_pair
  refine ⟨KeyDeadlines.keyed, ?_, ?_⟩
  · have halone := hmemory (⟨1⟩, "2:wamid.1") .default (lookalikes.map (Prod.map id .port))
      (alone.map (Prod.map id .port)) (by simp [Ordered, lookalikes]) (by simp [Ordered, alone]) (by decide +kernel)
    rw [halone]
    rfl
  · have halone := hremote KeyDeadlines KeyDeadlines.serve KeyDeadlines.deadline? KeyDeadlines.keyed
      (⟨1⟩, "2:wamid.1") (.ofSeconds 300) (fun _ => none) (lookalikes.map (Prod.map id .port))
      (alone.map (Prod.map id .port)) (by simp [Ordered, lookalikes]) (by simp [Ordered, alone]) (by decide +kernel)
    rw [halone]
    rfl

end Intake
