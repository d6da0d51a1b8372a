import Intake.Proofs.Contest.Basic

/-!
# One contender at a time, unless a claim is given back late

As long as no claim is given back late, at most one contender works under a claim that has not run out, for the
deadlines of such contenders are the guard's own (`Contest.Sound`). Once a claim is given back late, that is no longer
so, and a newcomer is granted what another still holds.
-/

namespace Intake

variable {k : Snowflake × String} {K K' : Contest} {w w' : World} {before after cs : List Contender} {c : Contender}
  {overrun overrun' : Bool} {now : Instant} {p : Program (Except DomainError EventOutcome)}

theorem Stage.eq_of_releases (h : Stage k c) (hr : c.releases = true) :
    ∃ deadline result, c = ⟨some deadline, Ingest.giveBack k result⟩ := by
  cases h with
  | coming => cases hr
  | @working deadline p hp =>
    cases p with
    | done result => exact ⟨deadline, result, rfl⟩
    | ask r next =>
      have hrelease : r.isRelease = true := hr
      rw [Request.isRelease_of_isGuard hp.1] at hrelease
      cases hrelease
  | through => cases hr

namespace Contest

/-! ### Who runs -/

theorem runningAt_append : runningAt now (before ++ after) = runningAt now before ++ runningAt now after :=
  List.filterMap_append

theorem runningAt_middle :
    runningAt now (before ++ c :: after) = runningAt now before ++ ((c.running now).toList ++ runningAt now after) := by
  rw [runningAt_append, runningAt, runningAt, List.filterMap_cons]
  cases c.running now <;> rfl

/-- A contender that holds nothing does not count. -/
theorem runningAt_idle : runningAt now (before ++ ⟨none, p⟩ :: after) = runningAt now (before ++ after) := by
  rw [runningAt_middle, runningAt_append]
  rfl

theorem runningAt_later {now' : Instant} (hle : now ≤ now') :
    runningAt now' cs = (runningAt now cs).filter (now' < ·) := by
  rw [runningAt, runningAt, List.filter_filterMap]
  congr 1
  funext c
  rw [Contender.running, Contender.running, Option.filter_filter]
  congr 1
  funext deadline
  rw [← Bool.decide_and, decide_eq_decide]
  exact ⟨fun hlt => ⟨Nat.lt_of_le_of_lt hle hlt, hlt⟩, And.right⟩

theorem Step.in_time (h : Step k K K') (hin : K'.overrun = false) : K.overrun = false := by
  cases h with
  | joins | waits => exact hin
  | turn => exact (Bool.or_eq_false_iff.1 hin).1

/-! ### The invariant -/

/-- What holds as long as no claim is given back late. -/
structure Sound (k : Snowflake × String) (K : Contest) : Prop where
  stage : ∀ c ∈ K.contenders, Stage k c
  le_one : K.running.length ≤ 1
  /-- The guard may hold a claim from before, but only until a contender is granted one. -/
  agrees : (∀ c ∈ K.contenders, c.due = none) ∨ K.running = K.world.deadlines k
  ttl : K.running ≠ [] → 0 < K.world.guard.ttl

namespace Sound

theorem start (w : World) : Sound k ⟨w, [], false⟩ where
  stage := nofun
  le_one := Nat.zero_le _
  agrees := .inl nofun
  ttl h := absurd rfl h

theorem running_eq_nil (h : Sound k K) (hfree : K.world.deadlines k = []) : K.running = [] := by
  rcases h.agrees with hnone | hlive
  · refine List.filterMap_eq_nil_iff.2 fun c hc => ?_
    rw [Contender.running, hnone c hc]
    rfl
  · exact hlive.trans hfree

theorem late_eq_false_iff (h : Sound k ⟨w, before ++ c :: after, overrun⟩) (hr : c.releases = true) :
    c.late w k = false ↔ runningAt w.instant (before ++ after) = [] := by
  have hmem : c ∈ before ++ c :: after := List.mem_append_right _ List.mem_cons_self
  obtain ⟨deadline, result, hc⟩ := (h.stage c hmem).eq_of_releases hr
  have hlive : runningAt w.instant (before ++ c :: after) = w.deadlines k := by
    refine h.agrees.resolve_left fun hnone => ?_
    have hdue := hnone c hmem
    rw [hc] at hdue
    cases hdue
  have hone : (runningAt w.instant (before ++ c :: after)).length ≤ 1 := h.le_one
  rw [runningAt_middle] at hlive hone
  rw [Contender.late, hr, runningAt_append]
  cases hrun : c.running w.instant with
  | some deadline =>
    -- The only one that runs is the contender itself.
    rw [hrun] at hone
    simp only [Option.toList_some, List.length_append, List.length_singleton] at hone
    have hbefore : runningAt w.instant before = [] := List.eq_nil_of_length_eq_zero (by omega)
    have hafter : runningAt w.instant after = [] := List.eq_nil_of_length_eq_zero (by omega)
    simp [hbefore, hafter]
  | none =>
    rw [hrun, Option.toList_none, List.nil_append] at hlive
    rw [hlive, World.deadlines, MemoryGuard.deadlines_eq_nil_iff]
    simp

/-- When no other contender runs, the guard has to agree with one only. -/
theorem of_others (hstage : ∀ c' ∈ before ++ c :: after, Stage k c')
    (hothers : runningAt w.instant (before ++ after) = []) (hlive : (c.running w.instant).toList = w.deadlines k)
    (httl : c.running w.instant ≠ none → 0 < w.guard.ttl) : Sound k ⟨w, before ++ c :: after, overrun⟩ := by
  have hrun : running ⟨w, before ++ c :: after, overrun⟩ = (c.running w.instant).toList := by
    rw [runningAt_append, List.append_eq_nil_iff] at hothers
    rw [running, runningAt_middle, hothers.1, hothers.2, List.nil_append, List.append_nil]
  constructor
  · exact hstage
  · rw [hrun]
    exact Option.length_toList_le
  · exact .inr (hrun.trans hlive)
  · rw [hrun]
    intro hne
    exact httl fun hnone => hne (by rw [hnone]; rfl)

theorem congr (h : Sound k K) (hstage : ∀ c ∈ K'.contenders, Stage k c) (hrun : K'.running = K.running)
    (hdue : (∀ c ∈ K.contenders, c.due = none) → ∀ c ∈ K'.contenders, c.due = none)
    (hlive : K'.world.deadlines k = K.world.deadlines k) (httl : K'.world.guard.ttl = K.world.guard.ttl) :
    Sound k K' := by
  constructor
  · exact hstage
  · rw [hrun]
    exact h.le_one
  · rw [hrun, hlive]
    exact h.agrees.imp_left hdue
  · rw [hrun, httl]
    exact h.ttl

theorem joins {body : Attempt EventOutcome} (hbody : body.run.Asks (·.isGuard = false))
    (h : Sound k ⟨w, cs, overrun⟩) : Sound k ⟨w, cs ++ [⟨none, (Ingest.claimed k.1 k.2 body).run⟩], overrun⟩ := by
  refine h.congr ?_ ?_ ?_ rfl rfl
  · exact List.forall_mem_append.2 ⟨h.stage, List.forall_mem_singleton.2 (.coming hbody)⟩
  · rw [running, runningAt_idle, List.append_nil]
    rfl
  · exact fun hnone => List.forall_mem_append.2 ⟨hnone, List.forall_mem_singleton.2 rfl⟩

theorem waits (hle : w.instant ≤ now) (h : Sound k ⟨w, cs, overrun⟩) :
    Sound k ⟨{ w with instant := now }, cs, overrun⟩ := by
  have hrun : running ⟨{ w with instant := now }, cs, overrun⟩ = (running ⟨w, cs, overrun⟩).filter (now < ·) :=
    runningAt_later hle
  constructor
  · exact h.stage
  · rw [hrun]
    exact Nat.le_trans (List.length_filter_le ..) h.le_one
  · refine h.agrees.imp_right fun hlive => ?_
    rw [hrun, hlive]
    exact (MemoryGuard.deadlines_later hle).symm
  · rw [hrun]
    intro hne
    exact h.ttl fun hnil => hne (by rw [hnil]; rfl)

theorem turn {due : Option Instant} {r : Request} {b : r.Reply}
    {next : r.Reply → Program (Except DomainError EventOutcome)} (ha : w.Answers { writes := true } r b w')
    (hlate : Contender.late w k ⟨due, .ask r next⟩ = false)
    (h : Sound k ⟨w, before ++ ⟨due, .ask r next⟩ :: after, overrun⟩) :
    Sound k ⟨w', before ++ ⟨w.dueAfter due ⟨r, b⟩, next b⟩ :: after, overrun'⟩ := by
  obtain ⟨hi, httl⟩ := ha.clock
  obtain ⟨hbefore, hself, hafter⟩ := List.forall_mem_append.1 h.stage |>.imp_right List.forall_mem_cons.1
  obtain ⟨hstage, hturned⟩ := hself.turn ha
  have hstages : ∀ c ∈ before ++ ⟨w.dueAfter due ⟨r, b⟩, next b⟩ :: after, Stage k c :=
    List.forall_mem_append.2 ⟨hbefore, List.forall_mem_cons.2 ⟨hstage, hafter⟩⟩
  generalize w.dueAfter due ⟨r, b⟩ = due' at hturned hstages
  cases hturned with
  | granted hdue hfree hlive =>
    have hnil := h.running_eq_nil hfree
    rw [hdue, running, runningAt_idle] at hnil
    refine of_others hstages ?_ ?_ ?_
    · rw [hi]
      exact hnil
    · rw [hlive, hi, Contender.running, Option.filter_some]
      simp only [decide_eq_true_eq]
      split <;> rfl
    · rw [httl, hi, Contender.running, Option.filter_some]
      simp [Nat.pos_iff_ne_zero]
  | released hr hlive =>
    refine of_others hstages ?_ ?_ ?_
    · rw [hi]
      exact (h.late_eq_false_iff hr).1 hlate
    · rw [hlive]
      rfl
    · exact fun hne => absurd rfl hne
  | other hlive =>
    refine h.congr hstages ?_ ?_ hlive httl
    · rw [running, running, runningAt_middle, runningAt_middle, hi]
      rfl
    · simp only [List.forall_mem_append, List.forall_mem_cons]
      exact id

theorem step (hK : Sound k K) (h : Step k K K') (hin : K'.overrun = false) : Sound k K' := by
  cases h with
  | joins hbody => exact hK.joins hbody
  | waits hle => exact hK.waits hle
  | turn ha => exact hK.turn ha (Bool.or_eq_false_iff.1 hin).2

theorem reached (h : Reaches k ⟨w, [], false⟩ K) (hin : K.overrun = false) : Sound k K := by
  induction h with
  | refl => exact .start w
  | tail _ hs ih => exact (ih (hs.in_time hin)).step hs hin

end Sound

/-! ### After a late release -/

theorem exists_granted (hfree : ¬ w.Claimed k) (httl : 0 < w.guard.ttl)
    (hclock : (w.instant.deadline? w.guard.ttl).isSome = true) :
    ∃ K', Reaches k ⟨w, cs, overrun⟩ K' ∧ K'.running = runningAt w.instant cs ++ [w.instant + w.guard.ttl] := by
  obtain ⟨b, w', hclaim⟩ := w.exists_answers (o := { writes := true }) hclock (.tryClaim k.1 k.2)
  obtain ⟨granted, rfl, -, hi⟩ := hclaim.tryClaim
  obtain rfl : granted = true := (hclaim.claimed_of_tryClaim httl).1.2 hfree
  have hjoins : Step k ⟨w, cs, overrun⟩
      ⟨w, cs ++ [⟨none, (Ingest.claimed k.1 k.2 (pure (.dropped k.2 .duplicate))).run⟩], overrun⟩ :=
    .joins trivial
  rw [Ingest.claimed_run] at hjoins
  have hself {p : Program (Except DomainError EventOutcome)} :
      Contender.running w.instant ⟨some (w.instant + w.guard.ttl), p⟩ = some (w.instant + w.guard.ttl) := by
    simp [Contender.running, httl]
  refine ⟨_, .tail (.single hjoins) (.turn hclaim), ?_⟩
  rw [running, runningAt_append, hi, World.dueAfter]
  congr 1
  exact List.filterMap_cons_some hself

/-- Once a claim is given back late, a newcomer is granted what another still holds. -/
theorem Sound.exists_two (hK : Sound k ⟨w, before ++ c :: after, overrun⟩) (hlate : c.late w k = true)
    (hclock : (w.instant.deadline? w.guard.ttl).isSome = true) :
    ∃ K', Reaches k ⟨w, before ++ c :: after, overrun⟩ K' ∧ 1 < K'.running.length := by
  have hr : c.releases = true := by
    rw [Contender.late, Bool.and_assoc] at hlate
    exact (Bool.and_eq_true_iff.1 hlate).1
  have hothers : runningAt w.instant (before ++ after) ≠ [] := by
    intro hnil
    rw [(hK.late_eq_false_iff hr).2 hnil] at hlate
    cases hlate
  have httl : 0 < w.guard.ttl := by
    refine hK.ttl fun hnil => hothers ?_
    rw [running, runningAt_middle, List.append_eq_nil_iff, List.append_eq_nil_iff] at hnil
    rw [runningAt_append, hnil.1, hnil.2.2]
    rfl
  obtain ⟨deadline, result, rfl⟩ := (hK.stage c (List.mem_append_right _ List.mem_cons_self)).eq_of_releases hr
  obtain ⟨w₁, hrelease⟩ : ∃ w₁, w.Answers { writes := true } (.release k.1 k.2) (.ok ()) w₁ := by
    have hanswer : w.answer? 0 none (.release k.1 k.2) = some (.ok (), { w with guard := w.guard.release k.1 k.2 }) :=
      rfl
    exact ⟨_, .of_answer? hanswer⟩
  obtain ⟨hi, httl₁⟩ := hrelease.clock
  obtain ⟨K', hreach, hrun⟩ := exists_granted hrelease.not_claimed_of_release (by rwa [httl₁]) (by rwa [hi, httl₁])
  refine ⟨K', .head (.turn hrelease) hreach, ?_⟩
  have hpos := List.length_pos_iff.2 hothers
  rw [hrun, List.length_append, World.dueAfter, runningAt_idle, hi]
  exact Nat.succ_lt_succ hpos

end Contest

end Intake
