import Intake.Proofs.Guard.Lock
import Intake.Proofs.Settings.AsWritten

/-!
# Which claims are answered

A claim on a pair that is not held has a deadline to compute, and there is no answer if the clock cannot express it. No
call changes for how long a guard holds claims (`record_ttl`), so whether a run is answered depends on its last moment
and on the settings alone (`claims_answered_iff`): settings are accepted with which no claim ever is.
-/

namespace Intake

open Guard (Entry record claimKey)

theorem Instant.deadline?_isSome_iff {now : Instant} {seconds : Nat} :
    (now.deadline? (seconds * 1000)).isSome = true ↔ now / 1000 + seconds < 2 ^ 63 := by
  have hseconds : (now + seconds * 1000) / 1000 = now / 1000 + seconds :=
    Nat.add_mul_div_right now seconds (by decide)
  rw [deadline?, hseconds, Option.isSome_ite]
  exact Iff.rfl

namespace MemoryGuard

variable {g g' : MemoryGuard} {now : Instant} {calls : List (Instant × Call)} {log : Log}

theorem ofSeconds_ttl (ttl : Nat) : (ofSeconds ttl).ttl = max ttl 1 * 1000 := by
  have hpos : 0 < max ttl 1 := Nat.lt_of_lt_of_le Nat.zero_lt_one (Nat.le_max_right ttl 1)
  exact if_neg (Nat.mul_ne_zero hpos.ne' (by decide))

/-- It is the same for a pair that was never claimed and for one whose claim has run out: neither is held. -/
theorem tryClaim?_isSome_iff {channel : Snowflake} {sourceId : String} :
    (g.tryClaim? now channel sourceId).isSome = true ↔
      g.holds now (claimKey channel sourceId) = true ∨ (now.deadline? g.ttl).isSome = true := by
  rw [tryClaim?, claimKey?]
  split
  · next hheld => exact iff_of_true rfl (.inl hheld)
  · next hfree => rw [Option.isSome_map, or_iff_right hfree]

/-! ### Runs -/

theorem answer_ttl {call : Call} {reply : call.Reply} (h : answer now call g = some (reply, g')) : g'.ttl = g.ttl := by
  match call with
  | .port (.claim pair) => exact claimKey?_ttl h
  | .port (.release pair) | .purge | .active =>
    obtain ⟨-, rfl⟩ := Prod.mk.inj (Option.some.inj h)
    rfl

theorem answer_isSome (call : Call) (h : (now.deadline? g.ttl).isSome = true) : (answer now call g).isSome = true := by
  match call with
  | .port (.claim pair) => exact tryClaim?_isSome_iff.2 (.inr h)
  | .port (.release _) | .purge | .active => rfl

theorem record_ttl (h : record answer calls g = some (log, g')) : g'.ttl = g.ttl := by
  induction calls generalizing g log with
  | nil =>
    obtain ⟨-, rfl⟩ := Prod.mk.inj (Option.some.inj h)
    rfl
  | cons c calls ih =>
    obtain ⟨now, call⟩ := c
    obtain ⟨reply, g₁, rest, hcall, hrest, -⟩ := Guard.exists_of_record_cons h
    exact (ih hrest).trans (answer_ttl hcall)

theorem record_isSome (h : ∀ c ∈ calls, (c.1.deadline? g.ttl).isSome = true) :
    (record answer calls g).isSome = true := by
  induction calls generalizing g with
  | nil => rfl
  | cons c calls ih =>
    obtain ⟨now, call⟩ := c
    obtain ⟨hnow, hcalls⟩ := List.forall_mem_cons.1 h
    obtain ⟨⟨reply, g₁⟩, hcall⟩ := Option.isSome_iff_exists.1 (answer_isSome call hnow)
    have hrest : (record answer calls g₁).isSome = true := ih (answer_ttl hcall ▸ hcalls)
    obtain ⟨⟨log, g'⟩, hlog⟩ := Option.isSome_iff_exists.1 hrest
    rw [Guard.record_cons_some hcall hlog, Option.isSome_some]

end MemoryGuard

namespace Settings

open MemoryGuard (answer)

variable {lookup : Lookup} {s : Settings}

/-- The guard in memory, which is there for want of a key server. -/
def memoryGuard? (s : Settings) : Option MemoryGuard :=
  match s.keyServer with
  | none => some (.ofSeconds s.dedupTtlSeconds.toNat)
  | some _ => none

/-- The seconds for which claims are held, by what the variable says or else the usual ones. -/
def TtlSays (lookup : Lookup) (ttl : Nat) : Prop :=
  lookup "DEDUP_TTL_SECONDS" = none ∧ ttl = 300 ∨ ∃ text, lookup "DEDUP_TTL_SECONDS" = some text ∧ Denotes text ttl

theorem exists_memoryGuard (hs : ofLookup lookup = .ok s) (hserver : ¬lookup.Addresses "REDIS_URL") :
    ∃ ttl, s.memoryGuard? = some (.ofSeconds ttl) ∧ TtlSays lookup ttl := by
  obtain ⟨worker, database, keyServer, dedupTtl, fetchTimeout, concurrency, maxAttempts, -, -, hkeyServer, hdedupTtl,
    -, -, -, rfl⟩ := ofLookup_eq_ok_iff.1 hs
  obtain rfl : keyServer = none :=
    Except.ok.inj (hkeyServer.symm.trans (Lookup.keyServer_of_not_addresses hserver))
  refine ⟨_, rfl, ?_⟩
  rcases Lookup.number_eq_ok_iff.1 hdedupTtl with ⟨hnone, rfl⟩ | ⟨text, w, htext, rfl, hw⟩
  · exact .inl ⟨hnone, rfl⟩
  · exact .inr ⟨text, htext, hw⟩

/-- Whatever is accepted as time to hold claims, a claim is answered exactly if its pair is held or the clock can
express the claim's deadline; and all calls up to some moment are, exactly if it can at that moment. -/
theorem claims_answered_iff (hs : ofLookup lookup = .ok s) (hserver : ¬lookup.Addresses "REDIS_URL") :
    ∃ g ttl, s.memoryGuard? = some g ∧ TtlSays lookup ttl ∧
      (∀ last : Instant, (∀ calls, (∀ c ∈ calls, c.1 ≤ last) → (record answer calls g).isSome = true) ↔
        last / 1000 + max ttl 1 < 2 ^ 63) ∧
      ∀ calls log g', record answer calls g = some (log, g') → ∀ (now : Instant) (pair : Snowflake × String),
        (g'.tryClaim? now pair.1 pair.2).isSome = true ↔
          g'.holds now (claimKey pair.1 pair.2) = true ∨ now / 1000 + max ttl 1 < 2 ^ 63 := by
  obtain ⟨ttl, hguard, hsays⟩ := exists_memoryGuard hs hserver
  have hfits : ∀ now : Instant, (now.deadline? (MemoryGuard.ofSeconds ttl).ttl).isSome = true ↔
      now / 1000 + max ttl 1 < 2 ^ 63 := fun now => by
    rw [MemoryGuard.ofSeconds_ttl, Instant.deadline?_isSome_iff]
  refine ⟨_, ttl, hguard, hsays, fun last => ⟨fun h => ?_, fun hlast calls hcalls => ?_⟩, ?_⟩
  · -- A first claim at the last moment is on a pair that nobody holds.
    have hfirst := h [(last, .port (.claim (⟨1⟩, "")))] (by simp)
    obtain ⟨⟨log, g'⟩, hlog⟩ := Option.isSome_iff_exists.1 hfirst
    obtain ⟨granted, g₁, rest, hclaim, -, -⟩ := Guard.exists_of_record_cons hlog
    have hanswered : ((MemoryGuard.ofSeconds ttl).tryClaim? last ⟨1⟩ "").isSome = true :=
      Option.isSome_iff_exists.2 ⟨_, hclaim⟩
    rcases MemoryGuard.tryClaim?_isSome_iff.1 hanswered with hheld | hdeadline
    · exact absurd hheld Bool.false_ne_true
    · exact (hfits last).1 hdeadline
  · refine MemoryGuard.record_isSome fun c hc => (hfits c.1).2 ?_
    have hle : c.1 / 1000 ≤ last / 1000 := Nat.div_le_div_right (hcalls c hc)
    exact Nat.lt_of_le_of_lt (Nat.add_le_add_right hle _) hlast
  · intro calls log g' hlog now pair
    rw [MemoryGuard.tryClaim?_isSome_iff, MemoryGuard.record_ttl hlog, hfits]

/-- Nothing but where the database is. -/
def usualVariables : Lookup
  | "DATABASE_URL" => some "postgres://localhost/relay"
  | _ => none

/-- With the usual time, all claims before the year 2100 are answered. -/
theorem usual_ttl_answered : ¬usualVariables.Addresses "REDIS_URL" ∧ ∃ s g, ofLookup usualVariables = .ok s ∧
    s.memoryGuard? = some g ∧
    ∀ calls, (∀ c ∈ calls, c.1 ≤ 4102444800000) → (record answer calls g).isSome = true := by
  have hserver : ¬usualVariables.Addresses "REDIS_URL" := by
    rintro ⟨url, hurl, -⟩
    cases hurl
  have hsome : (ofLookup usualVariables).toOption.isSome = true := by decide +kernel
  obtain ⟨s, htoOption⟩ := Option.isSome_iff_exists.1 hsome
  have hs := Lookup.eq_ok_of_toOption htoOption
  obtain ⟨g, ttl, hguard, hsays, hanswered, -⟩ := claims_answered_iff hs hserver
  refine ⟨hserver, s, g, hs, hguard, (hanswered _).2 ?_⟩
  rcases hsays with ⟨-, rfl⟩ | ⟨text, htext, -⟩
  · decide
  · cases htext

def endlessTtl : Lookup
  | "DATABASE_URL" => some "postgres://localhost/relay"
  | "DEDUP_TTL_SECONDS" => some "9223372036854775807"
  | _ => none

/-- A time that is accepted, and with which no claim is answered once the clock has run for a second. -/
theorem endless_ttl_overflows : endlessTtl "REDIS_URL" = none ∧ ∃ s g, ofLookup endlessTtl = .ok s ∧
    s.memoryGuard? = some g ∧
      ∀ now : Instant, 1000 ≤ now → ∀ channel sourceId, g.tryClaim? now channel sourceId = none := by
  have hguard : (ofLookup endlessTtl).toOption.map (fun s => (s.keyServer, s.dedupTtlSeconds.toNat)) =
      some (none, 9223372036854775807) := by
    decide +kernel
  obtain ⟨s, hs, hread⟩ := Option.map_eq_some_iff.1 hguard
  obtain ⟨hserver, httl⟩ := Prod.mk.inj hread
  refine ⟨rfl, s, .ofSeconds 9223372036854775807, Lookup.eq_ok_of_toOption hs, ?_, fun now hnow channel sourceId => ?_⟩
  · rw [memoryGuard?, hserver, httl]
  · rw [← Option.not_isSome_iff_eq_none, MemoryGuard.tryClaim?_isSome_iff, MemoryGuard.ofSeconds_ttl,
      Instant.deadline?_isSome_iff]
    rintro (hheld | hfits)
    · exact absurd hheld Bool.false_ne_true
    · have hsecond : 1 ≤ now / 1000 := Nat.div_le_div_right (c := 1000) hnow
      have hendless : 2 ^ 63 ≤ now / 1000 + max 9223372036854775807 1 :=
        calc 2 ^ 63 = 1 + 9223372036854775807 := rfl
          _ ≤ now / 1000 + max 9223372036854775807 1 := Nat.add_le_add hsecond (Nat.le_max_left _ _)
      exact absurd hfits (Nat.not_lt_of_le hendless)

end Settings

end Intake
