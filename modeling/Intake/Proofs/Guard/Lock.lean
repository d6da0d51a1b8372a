import Intake.Proofs.Guard.Claims
import Intake.Proofs.Guard.Ledger
import Mathlib.Data.Set.Card

/-!
# The guard in memory is a lock with expiry

The table drops claims when it is swept and keeps claims that have run out until then; no answer depends on either.
`Tracks` ties the table to the ledger of what was granted and released, each call preserves it (`Tracks.step`), and so
the answers are those that the ledger gives (`record_lawful`).
-/

namespace Intake.MemoryGuard

open Guard (Entry Ledger Held Timely record claimKey claimKey_eq_iff)

/-! ### What is held later on -/

variable {g g' : MemoryGuard} {now later : Instant} {key k : String}

theorem purge_sublist : (g.purge now).claims.Sublist g.claims := List.filter_sublist

theorem erase_sublist : (g.erase k).claims.Sublist g.claims := List.filter_sublist

theorem count_sublist : (g.count now).claims.Sublist g.claims := by
  rw [count]
  split
  · exact List.filter_sublist
  · exact List.Sublist.refl _

theorem holds_purge_later (hle : now ≤ later) : (g.purge now).holds later key = true ↔ g.holds later key = true := by
  rw [holds_iff, holds_iff]
  constructor
  · rintro ⟨deadline, hmem, hlt⟩
    exact ⟨deadline, purge_sublist.subset hmem, hlt⟩
  · rintro ⟨deadline, hmem, hlt⟩
    exact ⟨deadline, List.mem_filter.2 ⟨hmem, decide_eq_true (Nat.lt_of_le_of_lt hle hlt)⟩, hlt⟩

/-- A sweep does the work of an earlier one. So one that a claim sets off may read the clock anew: it leaves what the
claim's own sweep and then a sweep at that reading leave. -/
theorem purge_purge (hle : now ≤ later) : (g.purge now).purge later = g.purge later := by
  have hlive : ∀ c : String × Instant, (isLive later c && isLive now c) = isLive later c := by
    intro c
    by_cases hlt : later < c.2
    · simp [isLive, hlt, Nat.lt_of_le_of_lt hle hlt]
    · simp [isLive, hlt]
  simp only [purge, List.filter_filter, hlive]

theorem holds_count_later (hle : now ≤ later) : (g.count now).holds later key = true ↔ g.holds later key = true := by
  rw [count]
  split
  · exact holds_purge_later hle
  · rfl

theorem holds_insert_iff {deadline : Instant} :
    (g.insert k deadline).holds later key = true ↔ g.holds later key = true ∧ key ≠ k ∨ key = k ∧ later < deadline := by
  rw [← holds_erase, holds_iff, holds_iff, insert]
  simp only [List.mem_cons, Prod.mk.injEq]
  constructor
  · rintro ⟨until', ⟨hk, rfl⟩ | hmem, hlt⟩
    · exact .inr ⟨hk, hlt⟩
    · exact .inl ⟨until', hmem, hlt⟩
  · rintro (⟨until', hmem, hlt⟩ | ⟨hk, hlt⟩)
    · exact ⟨until', .inr hmem, hlt⟩
    · exact ⟨deadline, .inl ⟨hk, rfl⟩, hlt⟩

theorem eq_of_deadline? {ttl : Nat} {deadline : Instant} (h : now.deadline? ttl = some deadline) :
    deadline = now + ttl := by
  rw [Instant.deadline?] at h
  split at h
  · exact (Option.some.inj h).symm
  · cases h

/-! ### Calls -/

/-- What the guard can be asked, apart from claims and releases it can be swept and counted. -/
inductive Call where
  | port (call : Guard.Call)
  | purge
  | active
deriving DecidableEq, Repr

abbrev Call.Reply : Call → Type
  | .port call => call.Reply
  | .purge => Unit
  | .active => Nat

/-- There is no answer if a deadline cannot be expressed. -/
def answerPort (now : Instant) : (call : Guard.Call) → StateT MemoryGuard Option call.Reply
  | .claim pair => fun g => g.tryClaim? now pair.1 pair.2
  | .release pair => fun g => some ((), g.release pair.1 pair.2)

def answer (now : Instant) : (call : Call) → StateT MemoryGuard Option call.Reply
  | .port call => answerPort now call
  | .purge => fun g => some ((), g.purge now)
  | .active => fun g => some (g.activeClaims now, g)

abbrev Log := List (Entry Call.Reply)

def onPort? : Entry Call.Reply → Option (Entry Guard.Call.Reply)
  | ⟨now, .port call, reply⟩ => some ⟨now, call, reply⟩
  | ⟨_, .purge, _⟩ | ⟨_, .active, _⟩ => none

/-- What the guard was asked as any guard can be, with its answers. -/
def Log.ledger (log : Log) : Ledger := log.filterMap onPort?

theorem Log.ledger_cons (e : Entry Call.Reply) (log : Log) : ledger (e :: log) = (onPort? e).toList ++ ledger log := by
  rw [ledger, List.filterMap_cons]
  cases onPort? e <;> rfl

/-! ### Lawful answers -/

/-- The answer is the one that the ledger gives. -/
def Lawful (ttl : Nat) (ledger : Ledger) : Entry Call.Reply → Prop
  | ⟨now, .port (.claim pair), granted⟩ => granted = true ↔ ¬Held ttl ledger pair now
  | ⟨now, .active, n⟩ => (n : ℕ∞) = {pair | Held ttl ledger pair now}.encard
  | ⟨_, .port (.release _), _⟩ | ⟨_, .purge, _⟩ => True

/-- Every answer is the one that the ledger gives at its time. -/
def AllLawful (ttl : Nat) : Ledger → Log → Prop
  | _, [] => True
  | ledger, e :: log => Lawful ttl ledger e ∧ AllLawful ttl (ledger ++ (onPort? e).toList) log

variable {ttl : Nat} {ledger : Ledger}

theorem AllLawful.lawful {e : Entry Call.Reply} {before after : Log} (h : AllLawful ttl ledger (before ++ e :: after)) :
    Lawful ttl (ledger ++ before.ledger) e := by
  induction before generalizing ledger with
  | nil =>
    rw [Log.ledger, List.filterMap_nil, List.append_nil]
    exact h.1
  | cons e' before ih =>
    rw [Log.ledger_cons, ← List.append_assoc]
    exact ih h.2

/-- The ledger leaves an entry no choice. -/
theorem Lawful.unique {e e' : Entry Call.Reply} (h : Lawful ttl ledger e) (h' : Lawful ttl ledger e')
    (hasked : e.asked = e'.asked) : e = e' := by
  obtain ⟨now, call, reply⟩ := e
  obtain ⟨now', call', reply'⟩ := e'
  obtain ⟨rfl, rfl⟩ := Prod.mk.inj hasked
  have hreply : reply = reply' := by
    match call with
    | .port (.claim _) => exact Bool.eq_iff_iff.2 (h.trans h'.symm)
    | .port (.release _) | .purge => rfl
    | .active => exact ENat.natCast_inj.1 (h.trans h'.symm)
  rw [hreply]

theorem AllLawful.unique {log log' : Log} (h : AllLawful ttl ledger log) (h' : AllLawful ttl ledger log')
    (hasked : log.map Entry.asked = log'.map Entry.asked) : log = log' := by
  induction log generalizing ledger log' with
  | nil => exact (List.map_eq_nil_iff.1 hasked.symm).symm
  | cons e log ih =>
    cases log' with
    | nil => cases hasked
    | cons e' log' =>
      obtain ⟨he, hrest⟩ := List.cons.inj hasked
      obtain rfl := h.1.unique h'.1 he
      rw [ih h.2 h'.2 hrest]

/-- Sweeps leave nothing in the ledger, so the other answers are lawful without them. -/
theorem AllLawful.filter {log : Log} (h : AllLawful ttl ledger log) :
    AllLawful ttl ledger (log.filter (·.call ≠ .purge)) := by
  induction log generalizing ledger with
  | nil => trivial
  | cons e log ih =>
    rw [List.filter_cons]
    split
    · exact ⟨h.1, ih h.2⟩
    · next hpurge =>
      obtain ⟨now, call, reply⟩ := e
      obtain rfl : call = .purge := by simpa using hpurge
      have hrest := h.2
      rw [onPort?, Option.toList_none, List.append_nil] at hrest
      exact ih hrest

/-! ### The table and the ledger -/

/-- From now on the table says of every pair what the ledger says. -/
structure Tracks (ttl : Nat) (ledger : Ledger) (now : Instant) (g : MemoryGuard) : Prop where
  ttl_eq : g.ttl = ttl
  held : ∀ later, now ≤ later → ∀ pair : Snowflake × String,
    g.holds later (claimKey pair.1 pair.2) = true ↔ Held ttl ledger pair later
  distinct : (g.claims.map Prod.fst).Nodup
  keyed : ∀ c ∈ g.claims, ∃ pair : Snowflake × String, c.1 = claimKey pair.1 pair.2

namespace Tracks

theorem nil (g : MemoryGuard) (hempty : g.claims = []) : Tracks g.ttl [] now g where
  ttl_eq := rfl
  held later _ pair := by simp [holds, hempty, Guard.not_held_nil]
  distinct := by rw [hempty]; exact List.nodup_nil
  keyed c hc := by rw [hempty] at hc; cases hc

theorem mono (h : Tracks ttl ledger now g) (hle : now ≤ later) : Tracks ttl ledger later g :=
  { h with held := fun t ht => h.held t (Nat.le_trans hle ht) }

theorem purge (h : Tracks ttl ledger now g) : Tracks ttl ledger now (g.purge now) where
  ttl_eq := h.ttl_eq
  held later hle pair := (holds_purge_later hle).trans (h.held later hle pair)
  distinct := h.distinct.sublist (purge_sublist.map _)
  keyed c hc := h.keyed c (purge_sublist.subset hc)

theorem count (h : Tracks ttl ledger now g) : Tracks ttl ledger now (g.count now) where
  ttl_eq := count_ttl.trans h.ttl_eq
  held later hle pair := (holds_count_later hle).trans (h.held later hle pair)
  distinct := h.distinct.sublist (count_sublist.map _)
  keyed c hc := h.keyed c (count_sublist.subset hc)

theorem release (h : Tracks ttl ledger now g) (pair : Snowflake × String) :
    Tracks ttl (ledger ++ [⟨now, .release pair, ()⟩]) now (g.release pair.1 pair.2) where
  ttl_eq := h.ttl_eq
  held later hle p := by
    rw [MemoryGuard.release, holds_erase, h.held later hle, Guard.held_release, Ne, claimKey_eq_iff, eq_comm]
  distinct := h.distinct.sublist (erase_sublist.map _)
  keyed c hc := h.keyed c (erase_sublist.subset hc)

/-- A claim that the table grants starts anew: what the ledger had of the pair has run out or been released. -/
theorem insert (h : Tracks ttl ledger now g) (pair : Snowflake × String) (hfree : ¬Held ttl ledger pair now) :
    Tracks ttl (ledger ++ [⟨now, .claim pair, true⟩]) now (g.insert (claimKey pair.1 pair.2) (now + ttl)) where
  ttl_eq := h.ttl_eq
  held later hle p := by
    rw [holds_insert_iff, h.held later hle, Guard.held_claim, Ne, claimKey_eq_iff]
    constructor
    · rintro (⟨hheld, -⟩ | ⟨rfl, hlt⟩)
      · exact .inl hheld
      · exact .inr ⟨rfl, rfl, hlt⟩
    · rintro (hheld | ⟨-, rfl, hlt⟩)
      · refine .inl ⟨hheld, ?_⟩
        rintro rfl
        exact hfree (hheld.earlier hle)
      · exact .inr ⟨rfl, hlt⟩
  distinct := by
    rw [MemoryGuard.insert, List.map_cons, List.nodup_cons]
    refine ⟨fun hmem => ?_, h.distinct.sublist (erase_sublist.map _)⟩
    obtain ⟨c, hc, hkey⟩ := List.mem_map.1 hmem
    exact (mem_erase.1 hc).2 hkey
  keyed c hc := by
    rcases List.mem_cons.1 hc with rfl | hc
    · exact ⟨pair, rfl⟩
    · exact h.keyed c (erase_sublist.subset hc)

theorem claim (h : Tracks ttl ledger now g) (pair : Snowflake × String) (hd : (now.deadline? ttl).isSome = true) :
    ∃ granted g', g.tryClaim? now pair.1 pair.2 = some (granted, g') ∧ (granted = true ↔ ¬Held ttl ledger pair now) ∧
      Tracks ttl (ledger ++ [⟨now, .claim pair, granted⟩]) now g' := by
  have hholds := h.held now (Nat.le_refl now) pair
  rw [tryClaim?, claimKey?]
  by_cases hheld : g.holds now (claimKey pair.1 pair.2) = true
  · refine ⟨false, g.count now, by rw [if_pos hheld], by simp [← hholds, hheld], ?_⟩
    have hsame : ∀ p later, Held ttl (ledger ++ [⟨now, .claim pair, false⟩]) p later ↔ Held ttl ledger p later := by
      simp [Guard.held_claim]
    exact { h.count with held := fun later hle p => (h.count.held later hle p).trans (hsame p later).symm }
  · obtain ⟨deadline, hdeadline⟩ := Option.isSome_iff_exists.1 hd
    obtain rfl := eq_of_deadline? hdeadline
    have hfree : ¬Held ttl ledger pair now := fun hp => hheld (hholds.2 hp)
    refine ⟨true, (g.insert (claimKey pair.1 pair.2) (now + ttl)).count now, ?_, by simp [hfree], ?_⟩
    · rw [if_neg hheld, h.ttl_eq, hdeadline, Option.map_some]
    · exact (h.insert pair hfree).count

theorem activeClaims (h : Tracks ttl ledger now g) :
    (g.activeClaims now : ℕ∞) = {pair | Held ttl ledger pair now}.encard := by
  have hpairs : {pair : Snowflake × String | Held ttl ledger pair now} =
      Set.preimage (fun pair => claimKey pair.1 pair.2) {key | key ∈ (g.purge now).claims.map Prod.fst} := by
    ext pair
    rw [Set.mem_ofPred_eq, ← h.held now (Nat.le_refl now), holds_iff]
    simp [MemoryGuard.purge, isLive]
  have hinj : Function.Injective fun pair : Snowflake × String => claimKey pair.1 pair.2 :=
    fun p q hpq => (claimKey_eq_iff p q).1 hpq
  have hrange : {key | key ∈ (g.purge now).claims.map Prod.fst} ⊆
      Set.range fun pair : Snowflake × String => claimKey pair.1 pair.2 := by
    intro key hkey
    obtain ⟨c, hc, rfl⟩ := List.mem_map.1 hkey
    obtain ⟨pair, hpair⟩ := h.keyed c (purge_sublist.subset hc)
    exact ⟨pair, hpair.symm⟩
  have hnodup : ((g.purge now).claims.map Prod.fst).Nodup := h.distinct.sublist (purge_sublist.map _)
  have hcard : {key | key ∈ (g.purge now).claims.map Prod.fst}.encard = ((g.purge now).claims.map Prod.fst).length := by
    rw [← List.coe_toFinset, Set.encard_coe_eq_coe_finsetCard, List.toFinset_card_of_nodup hnodup]
  rw [hpairs, Set.encard_preimage_of_injective_subset_range hinj hrange, hcard, List.length_map,
    MemoryGuard.activeClaims, List.countP_eq_length_filter]
  rfl

theorem step (h : Tracks ttl ledger now g) (call : Call)
    (hd : ∀ pair, call = .port (.claim pair) → (now.deadline? ttl).isSome = true) :
    ∃ reply g', answer now call g = some (reply, g') ∧ Lawful ttl ledger ⟨now, call, reply⟩ ∧
      Tracks ttl (ledger ++ (onPort? ⟨now, call, reply⟩).toList) now g' := by
  match call with
  | .port (.claim pair) => exact h.claim pair (hd pair rfl)
  | .port (.release pair) => exact ⟨(), _, rfl, trivial, h.release pair⟩
  | .purge => exact ⟨(), _, rfl, trivial, by simpa [onPort?] using h.purge⟩
  | .active => exact ⟨_, _, rfl, h.activeClaims, by simpa [onPort?] using h⟩

end Tracks

/-! ### Runs -/

theorem Tracks.run {calls : List (Instant × Call)} (h : Tracks ttl ledger now g)
    (hcalls : Timely ttl (.port ∘ .claim) calls) (hafter : ∀ c ∈ calls, now ≤ c.1) :
    ∃ log g', record answer calls g = some (log, g') ∧ log.map Entry.asked = calls ∧ AllLawful ttl ledger log := by
  induction calls generalizing ledger now g with
  | nil => exact ⟨[], g, rfl, rfl, trivial⟩
  | cons c calls ih =>
    obtain ⟨t, call⟩ := c
    obtain ⟨reply, g₁, hcall, hlawful, htracks⟩ := (h.mono (hafter _ (.head _))).step call fun pair hc =>
      hcalls.deadline t pair (hc ▸ .head _)
    obtain ⟨log, g', hlog, hasked, hall⟩ := ih htracks hcalls.tail fun c hc => hcalls.le_of_mem hc
    refine ⟨⟨t, call, reply⟩ :: log, g', Guard.record_cons_some hcall hlog, ?_, hlawful, hall⟩
    rw [List.map_cons, hasked, Entry.asked]

/-- A guard that has been asked any number of claims, all of them gone, starts with an empty ledger. -/
theorem exists_record {calls : List (Instant × Call)} (h : Timely ttl (.port ∘ .claim) calls)
    (hempty : g.claims = []) (httl : g.ttl = ttl) :
    ∃ log g', record answer calls g = some (log, g') ∧ log.map Entry.asked = calls ∧ AllLawful ttl [] log := by
  subst httl
  have htracks : Tracks g.ttl [] 0 g := .nil g hempty
  exact htracks.run h fun c _ => Nat.zero_le c.1

/-- Whatever the guard has counted before and wherever it is swept, a claim is granted exactly if its pair is not held,
and what is counted are the held pairs. -/
theorem record_lawful (ttl : Nat) (calls : List (Instant × Call))
    (hcalls : Timely (if ttl = 0 then 1000 else ttl) (.port ∘ .claim) calls) :
    ∃ log : Log, log.map Entry.asked = calls ∧
      (∀ before now pair granted after, log = before ++ ⟨now, .port (.claim pair), granted⟩ :: after →
        (granted = true ↔ ¬Held (if ttl = 0 then 1000 else ttl) (Log.ledger before) pair now)) ∧
      (∀ before now (n : Nat) after, log = before ++ ⟨now, .active, n⟩ :: after →
        (n : ℕ∞) = {pair | Held (if ttl = 0 then 1000 else ttl) (Log.ledger before) pair now}.encard) ∧
      ∀ asked, (∃ g, record answer calls { ofMillis ttl with asked } = some (log, g)) ∧
        ∃ g, record answer (calls.filter (·.2 ≠ .purge)) { ofMillis ttl with asked } =
          some (log.filter (·.call ≠ .purge), g) := by
  obtain ⟨log, -, -, hasked, hall⟩ := exists_record (g := ofMillis ttl) hcalls rfl rfl
  refine ⟨log, hasked, ?_, ?_, fun asked => ⟨?_, ?_⟩⟩
  · rintro before now pair granted after rfl
    exact hall.lawful
  · rintro before now n after rfl
    exact hall.lawful
  · obtain ⟨log', g', hlog', hasked', hall'⟩ := exists_record (g := { ofMillis ttl with asked }) hcalls rfl rfl
    rw [hall.unique hall' (hasked.trans hasked'.symm)]
    exact ⟨g', hlog'⟩
  · obtain ⟨log', g', hlog', hasked', hall'⟩ :=
      exists_record (g := { ofMillis ttl with asked }) (hcalls.filter (·.2 ≠ .purge)) rfl rfl
    have hfilter : (log.filter (·.call ≠ .purge)).map Entry.asked = calls.filter (·.2 ≠ .purge) := by
      rw [← hasked, List.filter_map]
      rfl
    rw [hall.filter.unique hall' (hfilter.trans hasked'.symm)]
    exact ⟨g', hlog'⟩

/-- Claims, counts, a sweep and a release, at and around the moment at which the first claim runs out. -/
def retaking : List (Instant × Call) :=
  [(0, .port (.claim (⟨7⟩, "wamid.1"))), (5, .active), (999, .port (.claim (⟨7⟩, "wamid.1"))), (999, .purge),
    (1000, .active), (1000, .port (.claim (⟨7⟩, "wamid.1"))), (1000, .active),
    (1500, .port (.release (⟨7⟩, "wamid.1"))), (1500, .active), (1500, .port (.claim (⟨7⟩, "wamid.1")))]

def granted? : Entry Call.Reply → Option Bool
  | ⟨_, .port (.claim _), granted⟩ => some granted
  | _ => none

def counted? : Entry Call.Reply → Option Nat
  | ⟨_, .active, n⟩ => some n
  | _ => none

theorem retaken_at_expiry : Timely 1000 (.port ∘ .claim) retaking ∧
    ∃ log : Log, log.map Entry.asked = retaking ∧ log.filterMap granted? = [true, false, true, true] ∧
      log.filterMap counted? = [1, 0, 1, 0] ∧
      ∀ asked, ∃ g, record answer retaking { ofMillis 0 with asked } = some (log, g) := by
  have htimely : Timely 1000 (.port ∘ .claim) retaking := .of_forall (by decide) (by decide)
  obtain ⟨log, hasked, -, -, hany⟩ := record_lawful 0 retaking htimely
  -- The counter stands at the word's last value, so the first claim sweeps and wraps it around.
  obtain ⟨⟨g, hrun⟩, -⟩ := hany (-1)
  have hanswers : (record answer retaking { ofMillis 0 with asked := -1 }).map
      (fun r => (r.1.filterMap granted?, r.1.filterMap counted?)) = some ([true, false, true, true], [1, 0, 1, 0]) := by
    decide +kernel
  rw [hrun, Option.map_some, Option.some.injEq, Prod.mk.injEq] at hanswers
  exact ⟨htimely, log, hasked, hanswers.1, hanswers.2, fun asked => (hany asked).1⟩

end Intake.MemoryGuard
