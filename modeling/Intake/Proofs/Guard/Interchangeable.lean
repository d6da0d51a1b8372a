import Intake.Guard.Remote
import Intake.Proofs.Guard.Lock

/-!
# Both guards answer alike

A server that drops a key when its time is up (`Expires`) keeps the same ledger as the table in memory: a key is there
exactly as long as the ledger holds its pair (`Mirrors`). So both guards give the same answers, whatever they are asked
(`record_interchangeable`).
-/

namespace Intake

open Guard (Entry Ledger Held Timely record claimKey claimKey_eq_iff)

variable {σ : Type}

/-- A key that has been set is present until its seconds are over or it is deleted. The server is asked for seconds that
make a lifetime and a deadline that the clock can express. -/
structure KeyServer.Expires (server : Instant → KeyServer σ) (present : σ → Instant → String → Prop) : Prop where
  set_absent : ∀ s now key seconds, ¬present s now key → 0 < seconds → (now.deadline? (seconds * 1000)).isSome = true →
    ∃ s', server now (.set key seconds) s = (.ok (.text "OK"), s') ∧ ∀ later, now ≤ later → ∀ k,
      present s' later k ↔ present s later k ∨ k = key ∧ later < now + seconds * 1000
  set_present : ∀ s now key seconds, present s now key → 0 < seconds → (now.deadline? (seconds * 1000)).isSome = true →
    ∃ s', server now (.set key seconds) s = (.ok .absent, s') ∧ ∀ later, now ≤ later → ∀ k,
      present s' later k ↔ present s later k
  delete : ∀ s now key, ∃ n s', server now (.delete key) s = (.ok (.integer n), s') ∧ ∀ later, now ≤ later → ∀ k,
    present s' later k ↔ present s later k ∧ k ≠ key
  timeToLive : ∀ s now key, ∃ n s', server now (.timeToLive key) s = (.ok (.integer n), s') ∧
    (n = -2 ↔ ¬present s now key) ∧ ∀ later, now ≤ later → ∀ k, present s' later k ↔ present s later k

/-! ### Calls -/

/-- A call, or a look at whether a claim is live. -/
inductive Guard.Query where
  | port (call : Guard.Call)
  | live (pair : Snowflake × String)
deriving DecidableEq, Repr

abbrev Guard.Query.Reply : Guard.Query → Type
  | .port call => call.Reply
  | .live _ => Bool

def MemoryGuard.answerQuery (now : Instant) : (query : Guard.Query) → StateT MemoryGuard Option query.Reply
  | .port call => answerPort now call
  | .live pair => fun g => some (g.holds now (claimKey pair.1 pair.2), g)

/-- On the server a claim is live if it has seconds left. -/
def RemoteGuard.answerQuery (g : RemoteGuard) (server : Instant → KeyServer σ) (now : Instant) :
    (query : Guard.Query) → ExceptT DomainError (StateM σ) query.Reply
  | .port (.claim pair) => g.tryClaim (server now) pair.1 pair.2
  | .port (.release pair) => RemoteGuard.release (server now) pair.1 pair.2
  | .live pair => Option.isSome <$> RemoteGuard.remainingSeconds (server now) pair.1 pair.2

namespace RemoteGuard

/-- From now on the server says of every pair what the ledger says. -/
def Mirrors (present : σ → Instant → String → Prop) (ttl : Nat) (ledger : Ledger) (now : Instant) (s : σ) : Prop :=
  ∀ later, now ≤ later → ∀ pair : Snowflake × String,
    present s later (claimKey pair.1 pair.2) ↔ Held ttl ledger pair later

variable {server : Instant → KeyServer σ} {present : σ → Instant → String → Prop} {ledger : Ledger}
  {now later : Instant} {s : σ} {seconds : Nat}

namespace Mirrors

theorem mono {ttl : Nat} (h : Mirrors present ttl ledger now s) (hle : now ≤ later) :
    Mirrors present ttl ledger later s :=
  fun t ht => h t (Nat.le_trans hle ht)

theorem claim (hserver : KeyServer.Expires server present) (h : Mirrors present (seconds * 1000) ledger now s)
    (hpos : 0 < seconds) (hd : (now.deadline? (seconds * 1000)).isSome = true) (pair : Snowflake × String) :
    ∃ granted s', tryClaim ⟨seconds⟩ (server now) pair.1 pair.2 s = (.ok granted, s') ∧
      (granted = true ↔ ¬Held (seconds * 1000) ledger pair now) ∧
      Mirrors present (seconds * 1000) (ledger ++ [⟨now, .claim pair, granted⟩]) now s' := by
  have hnow := h now (Nat.le_refl now) pair
  by_cases hheld : Held (seconds * 1000) ledger pair now
  · obtain ⟨s', hreply, hsame⟩ := hserver.set_present s now _ seconds (hnow.2 hheld) hpos hd
    refine ⟨false, s', ?_, by simp [hheld], fun later hle p => ?_⟩
    · simp [tryClaim, KeyServer.send, hreply, ExceptT.mk]
    · rw [hsame later hle, h later hle, Guard.held_claim]
      simp
  · obtain ⟨s', hreply, hset⟩ := hserver.set_absent s now _ seconds (mt hnow.1 hheld) hpos hd
    refine ⟨true, s', ?_, by simp [hheld], fun later hle p => ?_⟩
    · simp [tryClaim, KeyServer.send, hreply, ExceptT.mk]
    · rw [hset later hle, h later hle, Guard.held_claim, claimKey_eq_iff]
      simp [eq_comm]

theorem release {ttl : Nat} (hserver : KeyServer.Expires server present) (h : Mirrors present ttl ledger now s)
    (pair : Snowflake × String) :
    ∃ s', RemoteGuard.release (server now) pair.1 pair.2 s = (.ok (), s') ∧
      Mirrors present ttl (ledger ++ [⟨now, .release pair, ()⟩]) now s' := by
  obtain ⟨n, s', hreply, hdelete⟩ := hserver.delete s now (claimKey pair.1 pair.2)
  refine ⟨s', ?_, fun later hle p => ?_⟩
  · simp [RemoteGuard.release, KeyServer.send, hreply, ExceptT.mk]
  · rw [hdelete later hle, h later hle, Guard.held_release, Ne, claimKey_eq_iff, eq_comm]

theorem remainingSeconds {ttl : Nat} (hserver : KeyServer.Expires server present) (h : Mirrors present ttl ledger now s)
    (pair : Snowflake × String) :
    ∃ left s', RemoteGuard.remainingSeconds (server now) pair.1 pair.2 s = (.ok left, s') ∧
      (left.isSome = true ↔ Held ttl ledger pair now) ∧ Mirrors present ttl ledger now s' := by
  obtain ⟨n, s', hreply, hgone, hsame⟩ := hserver.timeToLive s now (claimKey pair.1 pair.2)
  refine ⟨if n = -2 then none else some n, s', ?_, ?_, fun later hle p => (hsame later hle _).trans (h later hle p)⟩
  · simp [RemoteGuard.remainingSeconds, KeyServer.send, hreply, ExceptT.mk]
  · rw [← h now (Nat.le_refl now) pair]
    by_cases hn : n = -2
    · simp [hn, hgone.1 hn]
    · simpa [hn] using mt hgone.2 hn

end Mirrors

end RemoteGuard

/-! ### Both together -/

section

variable {server : Instant → KeyServer σ} {present : σ → Instant → String → Prop} {ledger : Ledger} {now : Instant}
  {g : MemoryGuard} {s : σ} {seconds : Nat}

/-- One query is answered alike, and leaves both with the same ledger. -/
theorem answerQuery_alike (hserver : KeyServer.Expires server present)
    (hg : MemoryGuard.Tracks (seconds * 1000) ledger now g)
    (hs : RemoteGuard.Mirrors present (seconds * 1000) ledger now s) (hpos : 0 < seconds) (query : Guard.Query)
    (hd : ∀ pair, query = .port (.claim pair) → (now.deadline? (seconds * 1000)).isSome = true) :
    ∃ reply g' s' ledger', MemoryGuard.answerQuery now query g = some (reply, g') ∧
      RemoteGuard.answerQuery ⟨seconds⟩ server now query s = (.ok reply, s') ∧
      MemoryGuard.Tracks (seconds * 1000) ledger' now g' ∧
      RemoteGuard.Mirrors present (seconds * 1000) ledger' now s' := by
  match query with
  | .port (.claim pair) =>
    obtain ⟨granted, g', hclaim, hgranted, hg'⟩ := hg.claim pair (hd pair rfl)
    obtain ⟨granted', s', hclaim', hgranted', hs'⟩ := hs.claim hserver hpos (hd pair rfl) pair
    obtain rfl : granted = granted' := Bool.eq_iff_iff.2 (hgranted.trans hgranted'.symm)
    exact ⟨granted, g', s', _, hclaim, hclaim', hg', hs'⟩
  | .port (.release pair) =>
    obtain ⟨s', hrelease, hs'⟩ := hs.release hserver pair
    exact ⟨(), _, s', _, rfl, hrelease, hg.release pair, hs'⟩
  | .live pair =>
    obtain ⟨left, s', hleft, hlive, hs'⟩ := hs.remainingSeconds hserver pair
    have hsame : g.holds now (claimKey pair.1 pair.2) = left.isSome :=
      Bool.eq_iff_iff.2 ((hg.held now (Nat.le_refl now) pair).trans hlive.symm)
    refine ⟨left.isSome, g, s', ledger, ?_, ?_, hg, hs'⟩
    · show some (g.holds now (claimKey pair.1 pair.2), g) = some (left.isSome, g)
      rw [hsame]
    · simp only [RemoteGuard.answerQuery, Functor.map, ExceptT.map, ExceptT.mk, bind, StateT.bind, hleft]
      rfl

theorem record_alike (hserver : KeyServer.Expires server present) (hpos : 0 < seconds)
    {queries : List (Instant × Guard.Query)} (hqueries : Timely (seconds * 1000) (.port ∘ .claim) queries)
    (hafter : ∀ q ∈ queries, now ≤ q.1) (hg : MemoryGuard.Tracks (seconds * 1000) ledger now g)
    (hs : RemoteGuard.Mirrors present (seconds * 1000) ledger now s) :
    ∃ log g' s', log.map Entry.asked = queries ∧ record MemoryGuard.answerQuery queries g = some (log, g') ∧
      record (RemoteGuard.answerQuery ⟨seconds⟩ server) queries s = (.ok log, s') := by
  induction queries generalizing ledger now g s with
  | nil => exact ⟨[], g, s, rfl, rfl, rfl⟩
  | cons q queries ih =>
    obtain ⟨t, query⟩ := q
    have hle : now ≤ t := hafter _ (.head _)
    obtain ⟨reply, g₁, s₁, ledger₁, hmemory, hremote, hg₁, hs₁⟩ := answerQuery_alike hserver (hg.mono hle)
      (hs.mono hle) hpos query fun pair hq => hqueries.deadline t pair (hq ▸ .head _)
    obtain ⟨log, g', s', hasked, hlog, hlog'⟩ := ih hqueries.tail (fun q hq => hqueries.le_of_mem hq) hg₁ hs₁
    exact ⟨⟨t, query, reply⟩ :: log, g', s', by rw [List.map_cons, hasked, Entry.asked],
      Guard.record_cons_some hmemory hlog, Guard.record_cons_ok hremote hlog'⟩

end

/-- Whatever is claimed, released and looked at in whatever order, both guards give the same answers, and a claim has
seconds left on the server exactly while the table holds it. -/
theorem record_interchangeable {server : Instant → KeyServer σ} {present : σ → Instant → String → Prop}
    (hserver : KeyServer.Expires server present) (s : σ)
    (hempty : ∀ now (pair : Snowflake × String), ¬present s now (claimKey pair.1 pair.2)) (ttl : Nat)
    (queries : List (Instant × Guard.Query)) (hqueries : Timely (max ttl 1 * 1000) (.port ∘ .claim) queries) :
    ∃ log g s', log.map Entry.asked = queries ∧
      record MemoryGuard.answerQuery queries (MemoryGuard.ofSeconds ttl) = some (log, g) ∧
      record ((RemoteGuard.ofSeconds ttl).answerQuery server) queries s = (.ok log, s') := by
  have hpos : 0 < max ttl 1 := Nat.lt_of_lt_of_le Nat.zero_lt_one (Nat.le_max_right ttl 1)
  have httl : (MemoryGuard.ofSeconds ttl).ttl = max ttl 1 * 1000 := if_neg (Nat.mul_ne_zero hpos.ne' (by decide))
  have htracks : MemoryGuard.Tracks (max ttl 1 * 1000) [] 0 (MemoryGuard.ofSeconds ttl) := httl ▸ .nil _ rfl
  have hmirrors : RemoteGuard.Mirrors present (max ttl 1 * 1000) [] 0 s := fun later _ pair =>
    iff_of_false (hempty later pair) Guard.not_held_nil
  exact record_alike hserver hpos hqueries (fun q _ => Nat.zero_le q.1) htracks hmirrors

/-! ### A server -/

/-- The moments at which keys run out. -/
abbrev KeyDeadlines := String → Option Instant

namespace KeyDeadlines

/-- The time that a key has left, if any. -/
def left? (keys : KeyDeadlines) (now : Instant) (key : String) : Option Nat :=
  match keys key with
  | some deadline => if now < deadline then some (deadline - now) else none
  | none => none

def serve (now : Instant) : KeyServer KeyDeadlines
  | .set key seconds, keys =>
    if (keys.left? now key).isSome then (.ok .absent, keys)
    else (.ok (.text "OK"), Function.update keys key (some (now + seconds * 1000)))
  | .delete key, keys => (.ok (.integer (if (keys.left? now key).isSome then 1 else 0)), Function.update keys key none)
  | .timeToLive key, keys =>
    match keys.left? now key with
    | some left => (.ok (.integer ((left + 500) / 1000 : Nat)), keys)
    | none => (.ok (.integer (-2)), keys)
  | .ping, keys => (.ok (.text "PONG"), keys)

variable {keys : KeyDeadlines} {now later : Instant} {key k : String}

theorem left?_update {deadline : Option Instant} : (left? (Function.update keys key deadline) now k).isSome = true ↔
    (keys.left? now k).isSome = true ∧ k ≠ key ∨ k = key ∧ ∃ d, deadline = some d ∧ now < d := by
  by_cases hk : k = key
  · subst hk
    cases deadline with
    | none => simp [left?]
    | some d => by_cases hlt : now < d <;> simp [left?, hlt]
  · simp [left?, hk]

theorem left?_later (hle : now ≤ later) (h : (keys.left? later key).isSome = true) :
    (keys.left? now key).isSome = true := by
  rw [left?] at h ⊢
  split at h
  · next deadline heq =>
    by_cases hlt : later < deadline
    · simp [Nat.lt_of_le_of_lt hle hlt]
    · simp [hlt] at h
  · simp at h

theorem expires : KeyServer.Expires serve fun keys now key => (left? keys now key).isSome = true where
  set_absent keys now key seconds habsent _ _ := by
    refine ⟨_, if_neg habsent, fun later hle k => ?_⟩
    rw [left?_update]
    constructor
    · rintro (⟨h, -⟩ | ⟨hk, d, hd, hlt⟩)
      · exact .inl h
      · cases hd
        exact .inr ⟨hk, hlt⟩
    · rintro (h | ⟨hk, hlt⟩)
      · refine .inl ⟨h, ?_⟩
        rintro rfl
        exact habsent (left?_later hle h)
      · exact .inr ⟨hk, _, rfl, hlt⟩
  set_present keys now key seconds hpresent _ _ := ⟨keys, if_pos hpresent, fun _ _ _ => Iff.rfl⟩
  delete keys now key := by
    refine ⟨_, _, rfl, fun later _ k => ?_⟩
    rw [left?_update]
    simp
  timeToLive keys now key := by
    rw [serve]
    split
    · next left heq => exact ⟨_, keys, rfl, by simp [heq]; omega, fun _ _ _ => Iff.rfl⟩
    · next heq => exact ⟨_, keys, rfl, by simp [heq], fun _ _ _ => Iff.rfl⟩

end KeyDeadlines

/-- Claims and looks at and around the moment at which a claim runs out, and releases of claims that are not held. -/
def reclaiming : List (Instant × Guard.Query) :=
  [(0, .port (.claim (⟨7⟩, "wamid.1"))), (500, .live (⟨7⟩, "wamid.1")), (999, .port (.claim (⟨7⟩, "wamid.1"))),
    (999, .port (.release (⟨8⟩, "wamid.1"))), (1000, .live (⟨7⟩, "wamid.1")), (1000, .port (.release (⟨7⟩, "wamid.1"))),
    (1000, .port (.claim (⟨7⟩, "wamid.1"))), (1999, .live (⟨7⟩, "wamid.1"))]

def truth? : Entry Guard.Query.Reply → Option Bool
  | ⟨_, .port (.claim _), reply⟩ | ⟨_, .live _, reply⟩ => some reply
  | ⟨_, .port (.release _), _⟩ => none

theorem reclaimed_alike : Timely 1000 (.port ∘ .claim) reclaiming ∧
    ∃ log g s, log.map Entry.asked = reclaiming ∧ log.filterMap truth? = [true, true, false, false, true, true] ∧
      record MemoryGuard.answerQuery reclaiming (MemoryGuard.ofSeconds 0) = some (log, g) ∧
      record ((RemoteGuard.ofSeconds 0).answerQuery KeyDeadlines.serve) reclaiming (fun _ => none) = (.ok log, s) := by
  have htimely : Timely 1000 (.port ∘ .claim) reclaiming := .of_forall (by decide) (by decide)
  obtain ⟨log, g, s, hasked, hmemory, hremote⟩ :=
    record_interchangeable KeyDeadlines.expires (fun _ => none) (fun _ _ => nofun) 0 reclaiming htimely
  have hanswers : (record MemoryGuard.answerQuery reclaiming (MemoryGuard.ofSeconds 0)).map
      (fun r => r.1.filterMap truth?) = some [true, true, false, false, true, true] := by
    decide +kernel
  rw [hmemory, Option.map_some, Option.some.injEq] at hanswers
  exact ⟨htimely, log, g, s, hasked, hanswers, hmemory, hremote⟩

end Intake
