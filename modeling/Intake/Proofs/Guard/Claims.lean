import Intake.Guard.Memory

/-!
# Claims do not interfere

Different pairs of channel and source id have different keys (`claimKey_inj`), and an operation of the guard brings no
other claim to life: a claim that is held afterwards was held before, unless it has just been granted.
-/

namespace Intake

theorem Snowflake.text_inj {a b : Snowflake} (h : a.text = b.text) : a = b := by
  have h' := congrArg (fun s : String => Digits.int? s.toList) h
  simp only [text, Digits.int?_toString, Option.some.injEq, toInt] at h'
  exact congrArg Snowflake.mk (Int64.toInt_inj.1 h')

theorem Snowflake.colon_notMem_text (a : Snowflake) : ':' ∉ a.text.toList := by
  intro h
  rcases Digits.of_mem_toString h with h | h
  · exact absurd h (by decide)
  · exact absurd h (by decide)

namespace Guard

theorem append_colon_inj {a b s t : List Char} (ha : ':' ∉ a) (hb : ':' ∉ b) (h : a ++ ':' :: s = b ++ ':' :: t) :
    a = b ∧ s = t := by
  induction a generalizing b with
  | nil =>
    cases b with
    | nil => exact ⟨rfl, (List.cons.inj h).2⟩
    | cons c b => exact absurd (List.cons.inj h).1 fun hc => hb (hc ▸ List.mem_cons_self)
  | cons c a ih =>
    cases b with
    | nil => exact absurd (List.cons.inj h).1 fun hc => ha (hc ▸ List.mem_cons_self)
    | cons d b =>
      obtain ⟨rfl, htail⟩ := List.cons.inj h
      rw [List.mem_cons, not_or] at ha hb
      obtain ⟨rfl, hst⟩ := ih ha.2 hb.2 htail
      exact ⟨rfl, hst⟩

theorem claimKey_inj {c c' : Snowflake} {s s' : String} (h : claimKey c s = claimKey c' s') : c = c' ∧ s = s' := by
  have h' := congrArg String.toList h
  simp only [claimKey, String.toList_append, List.append_assoc, List.append_cancel_left_eq] at h'
  obtain ⟨ht, hs⟩ := append_colon_inj c.colon_notMem_text c'.colon_notMem_text h'
  exact ⟨Snowflake.text_inj (String.toList_inj.1 ht), String.toList_inj.1 hs⟩

theorem claimKey_eq_iff (c c' : Snowflake × String) : claimKey c.1 c.2 = claimKey c'.1 c'.2 ↔ c = c' := by
  constructor
  · intro h
    obtain ⟨h₁, h₂⟩ := claimKey_inj h
    exact Prod.ext h₁ h₂
  · rintro rfl
    rfl

end Guard

namespace MemoryGuard

variable {g g' : MemoryGuard} {now : Instant} {key k : String}

theorem holds_iff : g.holds now key = true ↔ ∃ deadline, (key, deadline) ∈ g.claims ∧ now < deadline := by
  simp only [holds, isLive, List.any_eq_true, Bool.and_eq_true, decide_eq_true_eq]
  constructor
  · rintro ⟨⟨_, deadline⟩, hmem, rfl, hlt⟩
    exact ⟨deadline, hmem, hlt⟩
  · rintro ⟨deadline, hmem, hlt⟩
    exact ⟨_, hmem, rfl, hlt⟩

/-- Claims only go, and so does time: nothing comes to be held. -/
theorem holds_of_subset {now' : Instant} (hc : ∀ c ∈ g'.claims, c ∈ g.claims) (hle : now ≤ now')
    (h : g'.holds now' key = true) : g.holds now key = true := by
  obtain ⟨deadline, hmem, hlt⟩ := holds_iff.1 h
  exact holds_iff.2 ⟨deadline, hc _ hmem, Nat.lt_of_le_of_lt hle hlt⟩

theorem mem_count {c : String × Instant} (h : c ∈ (g.count now).claims) : c ∈ g.claims := by
  rw [count] at h
  split at h
  · exact (List.mem_filter.1 h).1
  · exact h

theorem mem_erase {c : String × Instant} : c ∈ (g.erase k).claims ↔ c ∈ g.claims ∧ c.1 ≠ k := by
  rw [erase, List.mem_filter, decide_eq_true_eq]

theorem not_holds_erase : (g.erase k).holds now k ≠ true := by
  rw [Ne, holds_iff]
  rintro ⟨deadline, hmem, -⟩
  exact (mem_erase.1 hmem).2 rfl

/-- What a claim answers: it is refused to those who ask for a held key, and granted to all others. -/
theorem claimKey?_cases {b : Bool} (h : g.claimKey? now key = some (b, g')) :
    (b = false ∧ g.holds now key = true ∧ ∀ c ∈ g'.claims, c ∈ g.claims) ∨
      b = true ∧ g.holds now key ≠ true ∧ ∀ c ∈ g'.claims, c ∈ g.claims ∨ c.1 = key := by
  rw [claimKey?] at h
  split at h
  · obtain ⟨rfl, rfl⟩ := Prod.mk.inj (Option.some.inj h)
    exact .inl ⟨rfl, ‹_›, fun c hc => mem_count hc⟩
  · obtain ⟨deadline, -, h⟩ := Option.map_eq_some_iff.1 h
    obtain ⟨rfl, rfl⟩ := Prod.mk.inj h
    refine .inr ⟨rfl, ‹_›, fun c hc => ?_⟩
    rcases List.mem_cons.1 (mem_count hc) with rfl | hc
    · exact .inr rfl
    · exact .inl (mem_erase.1 hc).1

/-! ### What is held after an operation -/

theorem holds_count : (g.count now).holds now key = true ↔ g.holds now key = true := by
  rw [holds_iff, holds_iff]
  constructor
  · rintro ⟨deadline, hmem, hlt⟩
    exact ⟨deadline, mem_count hmem, hlt⟩
  · rintro ⟨deadline, hmem, hlt⟩
    refine ⟨deadline, ?_, hlt⟩
    rw [count]
    split
    · exact List.mem_filter.2 ⟨hmem, decide_eq_true hlt⟩
    · exact hmem

theorem mem_count_iff {deadline : Instant} (hlive : now < deadline) :
    (key, deadline) ∈ (g.count now).claims ↔ (key, deadline) ∈ g.claims := by
  refine ⟨mem_count, fun hmem => ?_⟩
  rw [count]
  split
  · exact List.mem_filter.2 ⟨hmem, decide_eq_true hlive⟩
  · exact hmem

theorem mem_claimKey?_iff {b : Bool} {deadline : Instant} (h : g.claimKey? now k = some (b, g')) (hne : key ≠ k)
    (hlive : now < deadline) : (key, deadline) ∈ g'.claims ↔ (key, deadline) ∈ g.claims := by
  rw [claimKey?] at h
  split at h
  · cases h
    exact mem_count_iff hlive
  · obtain ⟨until', -, heq⟩ := Option.map_eq_some_iff.1 h
    cases heq
    rw [mem_count_iff hlive, insert, List.mem_cons, mem_erase]
    simp [hne]

theorem holds_erase : (g.erase k).holds now key = true ↔ g.holds now key = true ∧ key ≠ k := by
  simp only [holds_iff, mem_erase]
  constructor
  · rintro ⟨deadline, ⟨hmem, hne⟩, hlt⟩
    exact ⟨⟨deadline, hmem, hlt⟩, hne⟩
  · rintro ⟨⟨deadline, hmem, hlt⟩, hne⟩
    exact ⟨deadline, ⟨hmem, hne⟩, hlt⟩

theorem holds_insert {deadline : Instant} (hd : now < deadline) :
    (g.insert k deadline).holds now key = true ↔ g.holds now key = true ∨ key = k := by
  by_cases hk : key = k
  · subst hk
    have hmem : (key, deadline) ∈ (g.insert key deadline).claims := List.mem_cons_self
    simp only [or_true, iff_true]
    exact holds_iff.2 ⟨deadline, hmem, hd⟩
  · have hsame : (g.insert k deadline).holds now key = (g.erase k).holds now key := by
      simp [holds, insert, Ne.symm hk]
    rw [hsame, holds_erase]
    simp [hk]

theorem lt_of_deadline? {ttl : Nat} {deadline : Instant} (httl : 0 < ttl) (h : now.deadline? ttl = some deadline) :
    now < deadline := by
  rw [Instant.deadline?] at h
  split at h
  · cases h
    exact Nat.lt_add_of_pos_right httl
  · cases h

theorem holds_claimKey? {b : Bool} (httl : 0 < g.ttl) (h : g.claimKey? now k = some (b, g')) :
    (b = true ↔ g.holds now k ≠ true) ∧
      ∀ key, g'.holds now key = true ↔ g.holds now key = true ∨ b = true ∧ key = k := by
  rw [claimKey?] at h
  split at h
  · next hk =>
    cases h
    simp [hk, holds_count]
  · next hk =>
    obtain ⟨deadline, hd, heq⟩ := Option.map_eq_some_iff.1 h
    cases heq
    simp [hk, holds_count, holds_insert (lt_of_deadline? httl hd)]

/-- A claim leaves those alone that have longer to live, and none of these is granted again. -/
theorem holds_claimKey?_later {b : Bool} {later : Instant} (h : g.claimKey? now k = some (b, g')) (hle : now ≤ later)
    (hheld : g.holds later key = true) : g'.holds later key = true ∧ ¬(b = true ∧ key = k) := by
  obtain ⟨deadline, hmem, hlt⟩ := holds_iff.1 hheld
  have hlive : now < deadline := Nat.lt_of_le_of_lt hle hlt
  by_cases hk : key = k
  · subst hk
    rw [claimKey?, if_pos (holds_iff.2 ⟨deadline, hmem, hlive⟩)] at h
    cases h
    exact ⟨holds_iff.2 ⟨deadline, (mem_count_iff hlive).2 hmem, hlt⟩, nofun⟩
  · have hmem' := (mem_claimKey?_iff h hk hlive).2 hmem
    exact ⟨holds_iff.2 ⟨deadline, hmem', hlt⟩, fun hgranted => hk hgranted.2⟩

/-! ### The clock -/

theorem ofMillis_pos (ttl : Nat) : 0 < (ofMillis ttl).ttl := by
  rw [ofMillis]
  split
  · exact Nat.zero_lt_succ _
  · exact Nat.pos_of_ne_zero ‹_›

theorem count_ttl : (g.count now).ttl = g.ttl := by
  rw [count]
  split <;> rfl

theorem claimKey?_ttl {b : Bool} (h : g.claimKey? now key = some (b, g')) : g'.ttl = g.ttl := by
  rw [claimKey?] at h
  split at h
  · cases h
    exact count_ttl
  · obtain ⟨deadline, -, h⟩ := Option.map_eq_some_iff.1 h
    cases h
    exact count_ttl

theorem claimKey?_isSome (h : (now.deadline? g.ttl).isSome = true) : (g.claimKey? now key).isSome = true := by
  rw [claimKey?]
  split
  · rfl
  · rw [Option.isSome_map, h]

/-! ### When claims run out -/

/-- The deadlines of the live claims of a key. -/
def deadlines (g : MemoryGuard) (now : Instant) (key : String) : List Instant :=
  (g.claims.filter fun c => c.1 = key && isLive now c).map Prod.snd

theorem deadlines_eq_nil_iff : g.deadlines now key = [] ↔ g.holds now key = false := by
  rw [holds, deadlines, List.map_eq_nil_iff, List.filter_eq_nil_iff, List.any_eq_false]

theorem deadlines_count : (g.count now).deadlines now key = g.deadlines now key := by
  rw [count]
  split
  · rw [deadlines, deadlines, purge, List.filter_filter]
    congr 2
    funext c
    cases isLive now c <;> simp
  · rfl

theorem deadlines_erase : (g.erase key).deadlines now key = [] := by
  rw [deadlines_eq_nil_iff, ← Bool.not_eq_true]
  exact not_holds_erase

theorem deadlines_insert {deadline : Instant} :
    (g.insert key deadline).deadlines now key = if now < deadline then [deadline] else [] := by
  have herase : (g.erase key).deadlines now key = [] := deadlines_erase
  rw [deadlines] at herase ⊢
  rw [insert, List.filter_cons]
  split
  · next hlive =>
    have hlt : now < deadline := by simpa [isLive] using hlive
    rw [if_pos hlt, List.map_cons, herase]
  · next hlive =>
    have hle : ¬ now < deadline := by simpa [isLive] using hlive
    rw [if_neg hle, herase]

theorem deadlines_later {now' : Instant} (hle : now ≤ now') :
    g.deadlines now' key = (g.deadlines now key).filter (now' < ·) := by
  rw [deadlines, deadlines, List.filter_map, List.filter_filter]
  congr 2
  funext c
  by_cases hlt : now' < c.2
  · simp [isLive, hlt, Nat.lt_of_le_of_lt hle hlt]
  · simp [isLive, hlt]

theorem claimKey?_deadlines {b : Bool} (h : g.claimKey? now key = some (b, g')) :
    (b = false ∧ g'.deadlines now key = g.deadlines now key) ∨
      b = true ∧ g.deadlines now key = [] ∧
        g'.deadlines now key = if now < now + g.ttl then [now + g.ttl] else [] := by
  rw [claimKey?] at h
  split at h
  · cases h
    exact .inl ⟨rfl, deadlines_count⟩
  · next hfree =>
    obtain ⟨deadline, hd, heq⟩ := Option.map_eq_some_iff.1 h
    cases heq
    obtain rfl : now + g.ttl = deadline := by
      rw [Instant.deadline?] at hd
      split at hd
      · exact Option.some.inj hd
      · cases hd
    refine .inr ⟨rfl, ?_, ?_⟩
    · rwa [deadlines_eq_nil_iff, ← Bool.not_eq_true]
    · rw [deadlines_count, deadlines_insert]

end MemoryGuard

end Intake
