import Intake.Proofs.Guard.Claims
import Intake.Proofs.World.Basic

/-!
# What requests do to claims

A claim, a pair of channel and source id, is live or not (`Claimed`). Only a granted request brings one to life; a
release that is carried out ends it, and so may the passing of time.
-/

namespace Intake

/-- What the guard is asked is not refused. -/
def Conditions.SparesGuard (o : Conditions) : Prop := ∀ r e, o.refuses r e → r.isGuard = false

namespace World

def Claimed (w : World) (c : Snowflake × String) : Prop :=
  w.guard.holds w.instant (Guard.claimKey c.1 c.2) = true

variable {o : Outage} {w w' : World} {t : List Exchange} {c : Snowflake × String} {channel : Snowflake}
  {source : String}

theorem Claimed.of_lapse {now : Instant} {keep : String × Instant → Bool} (hle : w.instant ≤ now)
    (h : (w.lapse now keep).Claimed c) : w.Claimed c :=
  MemoryGuard.holds_of_subset (fun _ hmem => (List.mem_filter.1 hmem).1) hle h

theorem not_claimed_of_nil (h : w.guard.claims = []) (c : Snowflake × String) : ¬ w.Claimed c := by
  rw [Claimed, MemoryGuard.holds_iff, h]
  rintro ⟨deadline, hmem, -⟩
  cases hmem

namespace Replies

variable {clocks : Time → Prop} {o : Conditions} {r : Request} {b : r.Reply}

theorem guard (h : w.Replies clocks o r b w') (hr : r.isGuard = false) :
    w'.guard = w.guard ∧ w'.instant = w.instant := by
  rcases h with ⟨clock, file, -, -, h⟩ | ⟨e, -, -, rfl⟩
  · cases r with
    | tryClaim | release => cases hr
    | _ =>
      obtain ⟨rfl, rfl⟩ := Prod.mk.inj (Option.some.inj h)
      exact ⟨rfl, rfl⟩
  · exact ⟨rfl, rfl⟩

theorem clock (h : w.Replies clocks o r b w') : w'.instant = w.instant ∧ w'.guard.ttl = w.guard.ttl := by
  cases hr : r.isGuard with
  | false =>
    obtain ⟨hg, hi⟩ := h.guard hr
    exact ⟨hi, by rw [hg]⟩
  | true =>
    rcases h with ⟨clock, file, -, -, h⟩ | ⟨e, -, -, rfl⟩
    · cases r with
      | tryClaim channel source =>
        obtain ⟨⟨granted, guard⟩, hg, h⟩ := Option.map_eq_some_iff.1 h
        obtain ⟨-, rfl⟩ := Prod.mk.inj h
        exact ⟨rfl, MemoryGuard.claimKey?_ttl hg⟩
      | release channel source =>
        obtain ⟨-, rfl⟩ := Prod.mk.inj (Option.some.inj h)
        exact ⟨rfl, rfl⟩
      | _ => cases hr
    · exact ⟨rfl, rfl⟩

theorem answers_of_isGuard (h : w.Replies clocks o r b w') (ho : o.SparesGuard) (hr : r.isGuard = true) :
    w.Answers {} r b w' := by
  rcases h with ⟨clock, file, -, -, ha⟩ | ⟨e, he, -, -⟩
  · exact .of_answer? ha
  · cases hr.symm.trans (ho r e he)

end Replies

namespace Answers

theorem tryClaim {b : Except DomainError Bool} (h : w.Answers o (.tryClaim channel source) b w') :
    ∃ granted, b = .ok granted ∧ w.guard.tryClaim? w.instant channel source = some (granted, w'.guard) ∧
      w'.instant = w.instant := by
  rcases h with ⟨clock, file, -, -, h⟩ | ⟨e, hs, -, -⟩
  · obtain ⟨⟨granted, guard⟩, hg, h⟩ := Option.map_eq_some_iff.1 h
    obtain ⟨rfl, rfl⟩ := Prod.mk.inj h
    exact ⟨granted, rfl, hg, rfl⟩
  · cases hs

theorem release {b : Except DomainError Unit} (h : w.Answers o (.release channel source) b w') :
    (b = .ok () ∧ w'.guard = w.guard.release channel source ∧ w'.instant = w.instant) ∨
      o.releases = true ∧ w' = w ∧ ∃ e, b = .error e := by
  rcases h with ⟨clock, file, -, -, h⟩ | ⟨e, hs, hr, rfl⟩
  · obtain ⟨rfl, rfl⟩ := Prod.mk.inj (Option.some.inj h)
    exact .inl ⟨rfl, rfl, rfl⟩
  · exact .inr ⟨hs, rfl, e, (Option.some.inj hr).symm⟩

theorem claimed {r : Request} {b : r.Reply} (h : w.Answers o r b w') (hc : w'.Claimed c) :
    w.Claimed c ∨ Exchange.granted ⟨r, b⟩ = some c := by
  cases hr : r.isGuard with
  | false =>
    obtain ⟨hg, hi⟩ := h.guard hr
    rw [Claimed, hg, hi] at hc
    exact .inl hc
  | true =>
    cases r with
    | tryClaim channel source =>
      obtain ⟨granted, rfl, hg, hi⟩ := h.tryClaim
      rw [Claimed, hi] at hc
      rcases MemoryGuard.claimKey?_cases hg with ⟨rfl, -, hsub⟩ | ⟨rfl, -, hsub⟩
      · exact .inl (MemoryGuard.holds_of_subset hsub (Nat.le_refl _) hc)
      · obtain ⟨deadline, hmem, hlt⟩ := MemoryGuard.holds_iff.1 hc
        rcases hsub _ hmem with hmem | hkey
        · exact .inl (MemoryGuard.holds_iff.2 ⟨deadline, hmem, hlt⟩)
        · obtain ⟨rfl, rfl⟩ := Guard.claimKey_inj hkey
          exact .inr rfl
    | release channel source =>
      rcases h.release with ⟨-, hg, hi⟩ | ⟨-, rfl, -⟩
      · rw [Claimed, hg, hi] at hc
        exact .inl (MemoryGuard.holds_of_subset (fun _ hmem => (MemoryGuard.mem_erase.1 hmem).1) (Nat.le_refl _) hc)
      · exact .inl hc
    | _ => cases hr

theorem claimed_of_tryClaim {b : Bool} (httl : 0 < w.guard.ttl)
    (h : w.Answers o (.tryClaim channel source) (.ok b) w') :
    (b = true ↔ ¬ w.Claimed (channel, source)) ∧
      ∀ c, w'.Claimed c ↔ w.Claimed c ∨ b = true ∧ c = (channel, source) := by
  obtain ⟨granted, hb, hg, hi⟩ := h.tryClaim
  cases hb
  obtain ⟨hiff, hholds⟩ := MemoryGuard.holds_claimKey? httl hg
  refine ⟨hiff, fun c => ?_⟩
  rw [Claimed, hi, hholds, Guard.claimKey_eq_iff c (channel, source)]
  rfl

theorem claimed_of_release (h : w.Answers o (.release channel source) (.ok ()) w') :
    w'.Claimed c ↔ w.Claimed c ∧ c ≠ (channel, source) := by
  rcases h.release with ⟨-, hg, hi⟩ | ⟨-, -, e, hb⟩
  · rw [Claimed, hg, hi, MemoryGuard.release, MemoryGuard.holds_erase, Ne,
      Guard.claimKey_eq_iff c (channel, source)]
    rfl
  · cases hb

theorem claimed_of_denied (h : w.Answers o (.tryClaim channel source) (.ok false) w') :
    w.Claimed (channel, source) := by
  obtain ⟨granted, hb, hg, -⟩ := h.tryClaim
  cases hb
  rcases MemoryGuard.claimKey?_cases hg with ⟨-, hh, -⟩ | ⟨hb, -, -⟩
  · exact hh
  · cases hb

theorem not_claimed_of_release (h : w.Answers o (.release channel source) (.ok ()) w') :
    ¬ w'.Claimed (channel, source) := by
  rcases h.release with ⟨-, hg, -⟩ | ⟨-, -, e, hb⟩
  · rw [Claimed, hg]
    exact MemoryGuard.not_holds_erase
  · cases hb

end Answers

namespace Passes

theorem claimed (h : Passes o w t w') (hc : w'.Claimed c) : w.Claimed c ∨ ∃ x ∈ t, x.granted = some c := by
  induction h with
  | nil => exact .inl hc
  | @exchange w w₁ w' r b t ha _ ih =>
    rcases ih hc with hc | ⟨x, hx, hg⟩
    · exact (ha.claimed hc).imp_right fun hg => ⟨⟨r, b⟩, List.mem_cons_self, hg⟩
    · exact .inr ⟨x, List.mem_cons_of_mem _ hx, hg⟩
  | lapse hle _ ih =>
    exact (ih hc).imp_left (Claimed.of_lapse hle)

theorem unclaimed (h : Passes o w t w') (ht : ∀ x ∈ t, x.request.isGuard = false) (hc : ∀ c, ¬ w.Claimed c) :
    ∀ c, ¬ w'.Claimed c := by
  intro c hc'
  rcases h.claimed hc' with hbefore | ⟨x, hx, hg⟩
  · exact hc c hbefore
  · rw [Exchange.granted_eq_none (ht x hx)] at hg
    cases hg

theorem claimed_of_denied (h : Passes o w [⟨.tryClaim channel source, .ok false⟩] w') :
    w.Claimed (channel, source) := by
  obtain ⟨w₀, w₁, h₀, ha, -⟩ := h.uncons
  rcases h₀.claimed ha.claimed_of_denied with hc | ⟨x, hx, -⟩
  · exact hc
  · cases hx

theorem not_claimed_of_release (h : Passes o w (t ++ [⟨.release channel source, .ok ()⟩]) w') :
    ¬ w'.Claimed (channel, source) := by
  obtain ⟨w₁, -, h₁⟩ := h.split
  obtain ⟨w₂, w₃, -, ha, h₃⟩ := h₁.uncons
  intro hc
  rcases h₃.claimed hc with hc | ⟨x, hx, -⟩
  · exact ha.not_claimed_of_release hc
  · cases hx

end Passes

/-! ### Every request gets an answer -/

theorem answer?_isSome (h : (w.instant.deadline? w.guard.ttl).isSome = true) (clock : Time)
    (file : Option FetchedMedia) (r : Request) : (w.answer? clock file r).isSome = true := by
  cases r with
  | tryClaim channel source =>
    rw [answer?, Option.isSome_map]
    exact MemoryGuard.claimKey?_isSome h
  | _ => rfl

theorem exists_answers (h : (w.instant.deadline? w.guard.ttl).isSome = true) (r : Request) :
    ∃ b w', w.Answers o r b w' := by
  obtain ⟨⟨b, w'⟩, hb⟩ := Option.isSome_iff_exists.1 (answer?_isSome h 0 none r)
  exact ⟨b, w', .of_answer? hb⟩

/-- Every program can be carried out under rules that leave the clock and downloads some value. -/
theorem exists_takes {R : Rules} {α : Type} (clock : Time) (p : Program α) (hclock : R.clocks clock)
    (hserves : ∀ channel media, ∃ file, R.serves channel media file)
    (h : (w.instant.deadline? w.guard.ttl).isSome = true) : ∃ t a w', p.Yields t a ∧ w.Takes R t w' := by
  induction p generalizing w with
  | done a => exact ⟨[], a, w, ⟨rfl, rfl⟩, .nil⟩
  | ask r next ih =>
    -- Only a fetch reads the file.
    obtain ⟨file, hfile⟩ : ∃ file, ∀ channel media, r = .fetch channel media → R.serves channel media file := by
      cases r with
      | fetch channel media =>
        obtain ⟨file, hfile⟩ := hserves channel media
        exact ⟨file, by rintro _ _ ⟨⟩; exact hfile⟩
      | _ => exact ⟨none, by rintro _ _ ⟨⟩⟩
    obtain ⟨⟨b, w₁⟩, hb⟩ := Option.isSome_iff_exists.1 (answer?_isSome h clock file r)
    have hr : w.Replies R.clocks R.toConditions r b w₁ := .of_answer? hb hclock hfile
    obtain ⟨hinstant, httl⟩ := hr.clock
    obtain ⟨t, a, w', hy, ht⟩ := ih b (by rwa [hinstant, httl])
    exact ⟨⟨r, b⟩ :: t, a, w', ⟨b, t, rfl, hy⟩, .exchange hr ht⟩

theorem exists_passes {α : Type} (p : Program α) (h : (w.instant.deadline? w.guard.ttl).isSome = true) :
    ∃ t a w', p.Yields t a ∧ w.Passes o t w' :=
  exists_takes (R := o.rules) 0 p trivial (fun _ _ => ⟨none, trivial⟩) h

end World

end Intake
