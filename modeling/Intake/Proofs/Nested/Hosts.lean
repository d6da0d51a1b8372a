import Intake.Proofs.Delivery.Brackets
import Intake.Proofs.World.Claims

/-!
# Runs that host others

While a delivery waits for a download, other deliveries may run from start to end, and the store may be changed at will;
so may they host others in turn (`Rules.hosting`). In `Hosts` a program has exchanges of its own, among all those that
took place. What a run does to claims is read off its own exchanges
(`Hosts.holding`): a guest leaves the live claims as it found them, so its host need not know of it.
-/

namespace Intake

variable {w w₁ w' v : World} {t u : List Exchange} {job : WebhookJob}

/-- Time has passed, and every live claim is still live. -/
structure World.Waits (w : World) (now : Instant) : Prop where
  le : w.instant ≤ now
  claims : ∀ c, w.Claimed c → World.Claimed { w with instant := now } c

/-- During a download deliveries may be performed and the store be changed at will. Any request may fail but those of
the guard, and live claims stay so. -/
def Rules.hosting : Rules where
  refuses r _ := r.isGuard = false
  lapses w guard now := guard = w.guard ∧ w.Waits now
  intrudes _ _ _ := True
  hosts t := ∃ job r, (perform job).run.Yields t r

/-- `w` carries out the exchanges `t` and is `w'` then, where `u` is all that was exchanged. -/
def World.Hosts : World → List Exchange → List Exchange → World → Prop := Goes .hosting

theorem perform_bracketed {r : Except DomainError IngestReport} (h : (perform job).run.Yields t r) :
    Bracketed none t none := by
  obtain ⟨q, t', res, rfl, hq, hrest⟩ := perform_resolves h
  have hq' : Bracketed none q none :=
    .of_isGuard fun x hx => Request.isGuard_of_isQuiet ((Routing.resolve_quiet job).mem hq x hx)
  refine hq'.append ?_
  rcases hrest with ⟨e, -, rfl, -⟩ | ⟨resolution, -, h'⟩
  · exact .nil
  · cases resolution with
    | active target =>
      obtain ⟨_, hevents, -⟩ := performOn_active h'
      exact (Ingest.handleEvents_yields hevents).bracketed
    | _ =>
      obtain ⟨rfl, -⟩ := h'
      exact .nil

namespace World

variable {base : Snowflake × String → Prop} {held held' : Option (Snowflake × String)}

/-- The live claims are those of others and the one that is held, which is no other's. -/
structure Holding (w : World) (base : Snowflake × String → Prop) (held : Option (Snowflake × String)) : Prop where
  ttl : 0 < w.guard.ttl
  claimed : ∀ c, w.Claimed c ↔ base c ∨ held = some c
  apart : ∀ c, held = some c → ¬ base c

namespace Holding

theorem start (httl : 0 < w.guard.ttl) : w.Holding w.Claimed none :=
  ⟨httl, fun c => by simp, nofun⟩

theorem congr (h : w.Holding base held) (httl : w'.guard.ttl = w.guard.ttl) (hc : ∀ c, w'.Claimed c ↔ w.Claimed c) :
    w'.Holding base held :=
  ⟨httl ▸ h.ttl, fun c => (hc c).trans (h.claimed c), h.apart⟩

theorem of_guard (h : w.Holding base held) (hg : w'.guard = w.guard) (hi : w'.instant = w.instant) :
    w'.Holding base held :=
  h.congr (by rw [hg]) fun c => by rw [Claimed, Claimed, hg, hi]

theorem waits {now : Instant} (h : w.Holding base held) (hw : w.Waits now) :
    World.Holding { w with instant := now } base held := by
  refine h.congr rfl fun c => ⟨fun hc => ?_, hw.claims c⟩
  exact MemoryGuard.holds_of_subset (fun _ hmem => hmem) hw.le hc

/-- What a reply does to the claim that is held is what the exchange says. -/
theorem replied {clocks : Time → Prop} {o : Conditions} {r : Request} {b : r.Reply} (h : w.Holding base held)
    (hr : w.Replies clocks o r b w₁) (ho : o.SparesGuard) (hb : Bracketed held (⟨r, b⟩ :: t) held') :
    ∃ mid, w₁.Holding base mid ∧ Bracketed mid t held' := by
  have httl : w₁.guard.ttl = w.guard.ttl := hr.clock.2
  cases hb with
  | @claim channel source b _ _ ht =>
    have ha := hr.answers_of_isGuard ho rfl
    obtain ⟨granted, rfl, -, -⟩ := ha.tryClaim
    obtain ⟨hiff, hclaimed⟩ := ha.claimed_of_tryClaim h.ttl
    refine ⟨_, ⟨httl ▸ h.ttl, fun c => ?_, fun c hc => ?_⟩, ht⟩
    · rw [hclaimed, h.claimed]
      cases granted <;> simp [Exchange.granted, eq_comm]
    · cases granted with
      | false => cases hc
      | true =>
        cases hc
        exact fun hbase => hiff.1 rfl ((h.claimed _).2 (.inl hbase))
  | @release channel source b _ _ ht =>
    have ha := hr.answers_of_isGuard ho rfl
    rcases ha.release with ⟨rfl, -, -⟩ | ⟨ho, -, -⟩
    · refine ⟨none, ⟨httl ▸ h.ttl, fun c => ?_, nofun⟩, ht⟩
      rw [ha.claimed_of_release, h.claimed]
      constructor
      · rintro ⟨hbase | hheld, hne⟩
        · exact .inl hbase
        · exact absurd (Option.some.inj hheld).symm hne
      · rintro (hbase | hnone)
        · refine ⟨.inl hbase, ?_⟩
          rintro rfl
          exact h.apart _ rfl hbase
        · cases hnone
    · cases ho
  | other hx ht =>
    obtain ⟨hg, hi⟩ := hr.guard hx
    exact ⟨held, h.of_guard hg hi, ht⟩

end Holding

theorem Hosts.holding (hw : w.Hosts t u w') (h : w.Holding base held) (hb : Bracketed held t held') :
    w'.Holding base held' := by
  induction hw generalizing base held held' with
  | nil =>
    obtain rfl := hb.unique .nil
    exact h
  | exchange hr _ ih =>
    obtain ⟨mid, hmid, ht⟩ := h.replied hr (fun _ _ h => h) hb
    exact ih hmid ht
  | lapse hl _ ih =>
    obtain ⟨rfl, hwaits⟩ := hl
    exact ih (h.waits hwaits) hb
  | intrusion _ _ _ ih => exact ih (h.of_guard rfl rfl) hb
  | guest _ hg _ _ ihguest ih =>
    -- All that was live is another's for the guest, which holds nothing at its end.
    obtain ⟨job, r, hy⟩ := hg
    have hguest := ihguest (Holding.start h.ttl) (perform_bracketed hy)
    exact ih ⟨hguest.ttl, fun c => by rw [hguest.claimed, ← h.claimed]; simp, h.apart⟩ hb

/-- Grants and releases match, but for the claims held before and after. -/
def Balanced (held : Option (Snowflake × String)) (u : List Exchange) (held' : Option (Snowflake × String)) : Prop :=
  u.countP (·.granted.isSome) + held.toList.length = u.countP (·.request.isRelease) + held'.toList.length

theorem Balanced.cons {x : Exchange} (hb : Bracketed held (x :: t) held')
    (ih : ∀ {mid}, Bracketed mid t held' → Balanced mid u held') : Balanced held (x :: u) held' := by
  cases hb with
  | @claim channel source b _ _ ht =>
    have hrest := ih ht
    have hrelease : (Exchange.mk (.tryClaim channel source) b).request.isRelease = false := rfl
    rw [Balanced] at hrest ⊢
    rw [List.countP_cons, List.countP_cons, hrelease]
    cases hg : Exchange.granted ⟨.tryClaim channel source, b⟩ with
    | none =>
      rw [hg] at hrest
      simpa using hrest
    | some c =>
      rw [hg] at hrest
      simp at hrest ⊢
      omega
  | @release channel source b _ _ ht =>
    have hrest := ih ht
    have hgranted : (Exchange.mk (.release channel source) b).granted = none := rfl
    have hrelease : (Exchange.mk (.release channel source) b).request.isRelease = true := rfl
    rw [Balanced] at hrest ⊢
    rw [List.countP_cons, List.countP_cons, hgranted, hrelease]
    simp at hrest ⊢
    omega
  | other hx ht =>
    have hrest := ih ht
    rw [Balanced] at hrest ⊢
    rw [List.countP_cons, List.countP_cons, Exchange.granted_eq_none hx, Request.isRelease_of_isGuard hx]
    simpa using hrest

theorem Hosts.balanced (hw : w.Hosts t u w') (hb : Bracketed held t held') : Balanced held u held' := by
  induction hw generalizing held held' with
  | nil =>
    obtain rfl := hb.unique .nil
    rfl
  | exchange _ _ ih => exact .cons hb ih
  | lapse _ _ ih | intrusion _ _ _ ih => exact ih hb
  | guest _ hg _ _ ihguest ih =>
    obtain ⟨job, r, hy⟩ := hg
    have hguest := ihguest (perform_bracketed hy)
    have hrest := ih hb
    rw [Balanced] at hguest hrest ⊢
    rw [List.countP_append, List.countP_append]
    simp only [Option.toList_none, List.length_nil] at hguest
    omega

/-- Worlds that come up during a download: others run, one after the other or one within the download of another, up to
any of their requests. -/
inductive Meanwhile : World → World → Prop
  | now {w : World} : Meanwhile w w
  | waited {w v : World} {now : Instant} : w.Waits now → Meanwhile { w with instant := now } v → Meanwhile w v
  | changed {w v : World} {store : MemoryStore} {ids : Snowflake.Generator} :
    Meanwhile { w with store, ids } v → Meanwhile w v
  | guest {w w₁ v : World} {job : WebhookJob} {t u : List Exchange} {p : Program (Except DomainError IngestReport)} :
    (perform job).run.Reaches t p → w.Hosts t u w₁ → Meanwhile w₁ v → Meanwhile w v

theorem Meanwhile.claimed {c : Snowflake × String} (h : w.Meanwhile v) (httl : 0 < w.guard.ttl) (hc : w.Claimed c) :
    v.Claimed c ∧ 0 < v.guard.ttl := by
  induction h with
  | now => exact ⟨hc, httl⟩
  | waited hwaits _ ih => exact ih httl (hwaits.claims c hc)
  | changed _ ih => exact ih httl hc
  | @guest w w₁ v job t u p hr hw _ ih =>
    obtain ⟨t', r, hy, -⟩ := p.exists_yields (Exchange.exists_fits {})
    obtain ⟨held, hheld, -⟩ := (perform_bracketed (hr.yields hy)).split
    have hholding := hw.holding (Holding.start httl) hheld
    exact ih hholding.ttl ((hholding.claimed c).2 (.inl hc))

end World

end Intake
