import Intake.Proofs.Delivery.Brackets
import Intake.Proofs.World.Runs

/-!
# Claims that last

A delivery gives back what it is granted before it asks for more, so it leaves no claim behind. If in addition no claim
runs out that was live before it, then the same claims are live after it, and whatever it tries to claim is refused
exactly if it was claimed before (`Runs.heeds`): the guard's answers do not depend on the time that the delivery takes.
-/

namespace Intake

/-- A claim is granted unless it is one of `K`. -/
def Exchange.Heeds (K : Snowflake × String → Prop) : Exchange → Prop
  | ⟨.tryClaim channel source, b⟩ => ∃ granted, b = .ok granted ∧ (granted = true ↔ ¬ K (channel, source))
  | _ => True

namespace World

namespace Runs

variable {o : Conditions} {w w' : World} {t : List Exchange} {h h' : Option (Snowflake × String)}
  {c : Snowflake × String}

theorem instant_le (hr : Runs o w t w') : w.instant ≤ w'.instant := by
  induction hr with
  | nil => exact Nat.le_refl _
  | exchange hd _ ih => exact hd.clock.1 ▸ ih
  | waits hle _ ih => exact Nat.le_trans hle ih

/-- Claims that are live after a run, besides the one that is held, were so before it. -/
theorem claimed_of_bracketed (hr : Runs o w t w') (ho : o.SparesGuard) (ht : Bracketed h t h') (hc : w'.Claimed c)
    (hh : h' ≠ some c) : w.Claimed c ∧ h ≠ some c := by
  induction hr generalizing h with
  | nil =>
    cases ht
    exact ⟨hc, hh⟩
  | exchange hd _ ih =>
    cases ht with
    | claim ht =>
      obtain ⟨hc₁, hne⟩ := ih ht hc
      exact ⟨((hd.answers_of_isGuard ho rfl).claimed hc₁).resolve_right hne, nofun⟩
    | release ht =>
      obtain ⟨hc₁, -⟩ := ih ht hc
      have ha := hd.answers_of_isGuard ho rfl
      rcases ha.release with ⟨rfl, -⟩ | ⟨hr, -⟩
      · obtain ⟨hc₀, hne⟩ := ha.claimed_of_release.1 hc₁
        exact ⟨hc₀, fun heq => hne (Option.some.inj heq).symm⟩
      · cases hr
    | other hx ht =>
      obtain ⟨hc₁, hne⟩ := ih ht hc
      obtain ⟨hg, hi⟩ := hd.guard hx
      rw [Claimed, hg, hi] at hc₁
      exact ⟨hc₁, hne⟩
  | waits hle _ ih =>
    obtain ⟨hc₁, hne⟩ := ih ht hc
    exact ⟨.of_later hle hc₁, hne⟩

/-- A claim that has not run out in the end is live then, if it was live before the run and not held. -/
theorem lasts (hr : Runs o w t w') (ho : o.SparesGuard) (ht : Bracketed h t h') (hc : (w.later w'.instant).Claimed c)
    (hne : h ≠ some c) : w'.Claimed c := by
  induction hr generalizing h with
  | nil => exact hc
  | @exchange w w₁ w' r b t hd hrest ih =>
    have hle : w.instant ≤ w'.instant := hd.clock.1 ▸ hrest.instant_le
    cases ht with
    | @claim channel source _ _ _ ht =>
      obtain ⟨granted, rfl, hg, -⟩ := (hd.answers_of_isGuard ho rfl).tryClaim
      obtain ⟨hheld, hother⟩ := MemoryGuard.holds_claimKey?_later hg hle hc
      refine ih ht hheld fun heq => hother ?_
      cases granted with
      | true =>
        cases heq
        exact ⟨rfl, rfl⟩
      | false => cases heq
    | @release channel source _ _ _ ht =>
      rcases (hd.answers_of_isGuard ho rfl).release with ⟨-, hg, -⟩ | ⟨hrelease, -⟩
      · refine ih ht ?_ nofun
        rw [Claimed, later, hg]
        refine MemoryGuard.holds_erase.2 ⟨hc, fun heq => hne ?_⟩
        rw [(Guard.claimKey_eq_iff c (channel, source)).1 heq]
      · cases hrelease
    | other hx ht =>
      obtain ⟨hg, -⟩ := hd.guard hx
      refine ih ht ?_ hne
      rw [Claimed, later, hg]
      exact hc
  | waits _ _ ih => exact ih ht hc hne

/-- If the claims of `K` last, and no others are live, then the guard heeds them. -/
theorem heeds_of_lasting {K : Snowflake × String → Prop} (hr : Runs o w t w') (ho : o.SparesGuard)
    (httl : 0 < w.guard.ttl) (ht : Bracketed h t h') (hlast : ∀ c, K c → w'.Claimed c ∧ h' ≠ some c)
    (hfirst : ∀ c, w.Claimed c → h ≠ some c → K c) : ∀ x ∈ t, x.Heeds K := by
  induction hr generalizing h with
  | nil => exact fun _ hx => absurd hx List.not_mem_nil
  | @exchange w w₁ w' r b t hd hrest ih =>
    have hlater : ∀ h₁, Bracketed h [⟨r, b⟩] h₁ → Bracketed h₁ t h' → ∀ x ∈ t, x.Heeds K := by
      intro h₁ hone hothers
      refine ih (hd.clock.2 ▸ httl) hothers hlast fun c hc hne => ?_
      obtain ⟨hc₀, hne₀⟩ := claimed_of_bracketed (.exchange hd .nil) ho hone hc hne
      exact hfirst c hc₀ hne₀
    cases ht with
    | @claim channel source _ _ _ ht =>
      refine List.forall_mem_cons.2 ⟨?_, hlater _ (.claim .nil) ht⟩
      have hiff : w.Claimed (channel, source) ↔ K (channel, source) := by
        refine ⟨fun hc => hfirst _ hc nofun, fun hK => ?_⟩
        obtain ⟨hc, hne⟩ := hlast _ hK
        exact (claimed_of_bracketed (.exchange hd hrest) ho (.claim ht) hc hne).1
      have ha := hd.answers_of_isGuard ho rfl
      obtain ⟨granted, rfl, -⟩ := ha.tryClaim
      exact ⟨granted, rfl, (ha.claimed_of_tryClaim httl).1.trans (not_congr hiff)⟩
    | release ht => exact List.forall_mem_cons.2 ⟨trivial, hlater _ (.release .nil) ht⟩
    | other hx ht =>
      refine List.forall_mem_cons.2 ⟨?_, hlater _ (.other hx .nil) ht⟩
      cases r <;> trivial
  | waits hle _ ih =>
    exact ih httl ht hlast fun c hc hne => hfirst c (.of_later hle hc) hne

theorem claimed_iff_of_lasting (hr : Runs o w t w') (ho : o.SparesGuard) (ht : Bracketed none t none)
    (hlast : ∀ c, w.Claimed c → w'.Claimed c) (c : Snowflake × String) : w'.Claimed c ↔ w.Claimed c :=
  ⟨fun hc => (hr.claimed_of_bracketed ho ht hc nofun).1, hlast c⟩

theorem heeds (hr : Runs o w t w') (ho : o.SparesGuard) (httl : 0 < w.guard.ttl) (ht : Bracketed none t none)
    (hlast : ∀ c, w.Claimed c → w'.Claimed c) : ∀ x ∈ t, x.Heeds w.Claimed :=
  hr.heeds_of_lasting ho httl ht (fun c hc => ⟨hlast c hc, nofun⟩) fun _ hc _ => hc

end Runs

end World

end Intake
