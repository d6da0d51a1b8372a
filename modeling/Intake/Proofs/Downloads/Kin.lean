import Intake.Proofs.Downloads.Bare
import Intake.Proofs.Tenants.Twice

/-!
# Kin

Two worlds are kin for a target if, without the files that were downloaded, they are twins, and the same number of
writes is about to fail in both. A delivery that is carried out in kin, whatever its downloads bring in the one and in
the other, leaves kin behind, and ends in the same way (`World.Kin.run`).
-/

namespace Intake

theorem Request.Like.kind {ρ : Renaming} {r r' : Request} (h : r.Like ρ r') :
    (r.isLookup = false ∧ r'.isLookup = false) ∧ r'.isFetch = r.isFetch ∧ r'.isFiling = r.isFiling ∧
      (r'.isQuiet || r'.isGuard) = (r.isQuiet || r.isGuard) := by
  cases r <;> cases r' <;> first
    | exact ⟨⟨rfl, rfl⟩, rfl, rfl, rfl⟩
    | exact ⟨⟨rfl, rfl⟩, rfl, h.isFile_eq.symm, rfl⟩
    | cases h

theorem Request.isLookup_of_isExtra {r : Request} (h : r.isExtra = true) : r.isLookup = false := by
  cases r <;> first | rfl | cases h

namespace World

variable {w w' v v' : World} {target : ResolvedChannel} {hand hand' : Hand} {others others' : Multiset Snowflake}
  {r : Request} {b : r.Reply} {fetch fetch' : Channel → MediaDescriptor → Option FetchedMedia}

namespace Ready

theorem spend {x : Exchange} (h : Ready target hand others w) (hheld : (hand.after x).held ≤ hand.held)
    (hvacant : (hand.after x).vacant = none) : Ready target (hand.after x) others w := by
  refine ⟨h.calm, h.bears.mono (Multiset.add_le_add_right hheld), h.inbox, fun link hlink => ?_⟩
  rw [hvacant] at hlink
  cases hlink

theorem bare_later (h : Ready target hand others w.bare) (now : Instant) :
    Ready target hand others (w.later now).bare :=
  h.later now

theorem bare_deals (h : Ready target hand others w.bare) (hr : r.Admits target hand w.bare.tables)
    (hlookup : r.isLookup = false) (hd : w.Deals (.calm fetch) r b w') (hrange : w'.InRange) :
    Ready target (hand.after ⟨r, b⟩) others w'.bare ∧ w.bare.tables.Grows w'.bare.tables ∧
      Exchange.Recorded w'.bare.tables ⟨r, b⟩ := by
  cases hfile : r.isFiling with
  | true =>
    rw [hd.bare_eq hfile]
    cases r with
    | createAttachment a => exact ⟨h.spend (Multiset.erase_le _ _) rfl, .refl _, trivial⟩
    | _ => cases hfile
  | false =>
    by_cases hplain : r.isQuiet = true ∨ r.isGuard = true ∨ w.store.failingWrites = 0
    · exact h.deals hr (hd.bare hlookup hfile hplain) hrange
    · -- A message is refused.
      cases r with
      | createMessage m =>
        obtain ⟨n, hn⟩ := Nat.exists_eq_succ_of_ne_zero fun hzero => hplain (.inr (.inr hzero))
        obtain ⟨rfl, hbare⟩ := hd.createMessage_refused hn
        rw [hbare]
        exact ⟨h.spend (Multiset.erase_le _ _) rfl, .refl _, trivial⟩
      | tryClaim | release => exact absurd (.inr (.inl rfl)) hplain
      | _ => exact absurd (.inl rfl) hplain

end Ready

/-- Twins but for downloaded files, with the same number of writes that are about to fail. -/
structure Kin (target : ResolvedChannel) (ρ : Renaming) (w v : World) : Prop where
  twin : Twin target ρ w.bare v.bare
  writes : w.store.failingWrites = v.store.failingWrites

namespace Kin

variable {ρ : Renaming}

theorem later (h : Kin target ρ w v) (now now' : Instant) : Kin target ρ (w.later now) (v.later now') :=
  ⟨h.twin.later now now', h.writes⟩

/-- What a file needs makes no difference, on either side. -/
theorem extra_left (h : Kin target ρ w v) (hr : r.isExtra = true) (hd : w.Deals (.calm fetch) r b w') :
    Kin target ρ w' v := by
  have htables := hd.bare_tables hr
  refine ⟨h.twin.keep ?_ ?_ rfl hd.issued ⟨fun _ hid => hid, fun _ hid => hid⟩, ?_⟩
  · rw [htables]
    exact h.twin.rows
  · rw [htables]
  · have hsame := hd.failingWrites
    cases r <;> first | exact hsame.trans h.writes | cases hr

theorem extra_right (h : Kin target ρ w v) (hr : r.isExtra = true) (hd : v.Deals (.calm fetch) r b v') :
    Kin target ρ w v' := by
  have htables := hd.bare_tables hr
  refine ⟨h.twin.keep ?_ rfl ?_ ⟨fun _ hid => hid, fun _ hid => hid⟩ hd.issued, ?_⟩
  · rw [htables]
    exact h.twin.rows
  · rw [htables]
  · have hsame := hd.failingWrites
    cases r <;> first | exact h.writes.trans hsame.symm | cases hr

/-- Like requests that the delivery may make get akin replies, whatever is downloaded, and leave kin behind. -/
theorem deals (h : Kin target ρ w v) (hw : Ready target hand others w.bare) (hv : Ready target hand' others' v.bare)
    {K : Snowflake × String → Prop} {r' : Request} {b' : r'.Reply} (hr : r.Admits target hand w.bare.tables)
    (hr' : r'.Admits target hand' v.bare.tables) (hfile : r.isFiling = false) (hlike : r.Like ρ r')
    (hx : Exchange.Heeds K ⟨r, b⟩) (hx' : Exchange.Heeds K ⟨r', b'⟩) (hd : w.Deals (.calm fetch) r b w')
    (hd' : v.Deals (.calm fetch') r' b' v') (hrange : w'.InRange) (hrange' : v'.InRange) :
    ∃ ρ', ρ.Grows ρ' w v ∧ Exchange.Akin ρ' ⟨r, b⟩ ⟨r', b'⟩ ∧ Kin target ρ' w' v' := by
  obtain ⟨⟨hlookup, hlookup'⟩, hfetch, hfiling, hkind⟩ := hlike.kind
  have hwrites : w'.store.failingWrites = v'.store.failingWrites := by
    rw [hd.failingWrites, hd'.failingWrites, hkind, h.writes]
  have hbare : r.isFetch = false → r.isQuiet = true ∨ r.isGuard = true ∨ w.store.failingWrites = 0 →
      r'.isQuiet = true ∨ r'.isGuard = true ∨ v.store.failingWrites = 0 →
      ∃ ρ', ρ.Grows ρ' w v ∧ Exchange.Akin ρ' ⟨r, b⟩ ⟨r', b'⟩ ∧ Kin target ρ' w' v' := by
    intro hnot hplain hplain'
    have hd₁ := hd.bare hlookup hfile hplain
    have hd₁' := (hd'.of_not_fetch (hfetch.trans hnot) fetch).bare hlookup' (hfiling.trans hfile) hplain'
    obtain ⟨ρ', hgrows, hreplies, htwin⟩ := h.twin.deals hw hv hr hr' hlike hx hx' hd₁ hd₁' hrange hrange'
    exact ⟨ρ', ⟨hgrows.le, hgrows.store, hgrows.made⟩, hreplies.akin, htwin, hwrites⟩
  cases r with
  | fetch channel media =>
    cases r' with
    | fetch channel' media' =>
      obtain ⟨clock, file, -, ha⟩ := hd.of_calm
      obtain ⟨clock', file', -, ha'⟩ := hd'.of_calm
      cases ha
      cases ha'
      exact ⟨ρ, .refl ρ _ _, trivial, h⟩
    | _ => cases hlike
  | createMessage m =>
    cases r' with
    | createMessage m' =>
      cases hn : w.store.failingWrites with
      | zero => exact hbare rfl (.inr (.inr hn)) (.inr (.inr (h.writes ▸ hn)))
      | succ n =>
        obtain ⟨rfl, hsame⟩ := hd.createMessage_refused hn
        obtain ⟨rfl, hsame'⟩ := hd'.createMessage_refused (h.writes ▸ hn)
        refine ⟨ρ, .refl ρ w v, rfl, ?_, hwrites⟩
        rw [hsame, hsame']
        exact h.twin
    | _ => cases hlike
  | tryClaim | release =>
    cases r' with
    | tryClaim | release => exact hbare rfl (.inr (.inl rfl)) (.inr (.inl rfl))
    | _ => cases hlike
  | _ =>
    cases r' <;> first | cases hlike; done | exact hbare rfl (.inl rfl) (.inl rfl)

/-- Programs that are akin end in the same way, whatever is downloaded, and leave kin behind. -/
theorem run {α : Type} {S : Renaming → α → α → Prop} {p p' : Program α} {a a' : α} {t t' : List Exchange}
    {Q Q' : Hand → Tables → α → Prop} {K : Snowflake × String → Prop} (hakin : Program.Akin S ρ p p')
    (h : Kin target ρ w v) (hw : Ready target hand others w.bare) (hv : Ready target hand' others' v.bare)
    (hp : p.Guided (.of target) Q hand w.bare.tables) (hp' : p'.Guided (.of target) Q' hand' v.bare.tables)
    (hy : p.Yields t a) (hy' : p'.Yields t' a') (hr : w.Runs (.calm fetch) t w') (hr' : v.Runs (.calm fetch') t' v')
    (hx : ∀ x ∈ t, x.Heeds K) (hx' : ∀ x ∈ t', x.Heeds K) (hrange : w'.InRange) (hrange' : v'.InRange) :
    ∃ ρ', ρ.Grows ρ' w v ∧ S ρ' a a' ∧ Kin target ρ' w' v' := by
  induction hakin generalizing hand hand' w v t t' with
  | done ha =>
    obtain ⟨rfl, rfl⟩ := hy
    obtain ⟨rfl, rfl⟩ := hy'
    obtain ⟨now, rfl⟩ := hr.nil_eq
    obtain ⟨now', rfl⟩ := hr'.nil_eq
    exact ⟨_, .refl _ w v, ha, h.later now now'⟩
  | @both ρ r r' next next' hfile hlike _ ih =>
    obtain ⟨b, t₁, rfl, hy⟩ := hy
    obtain ⟨b', t₁', rfl, hy'⟩ := hy'
    obtain ⟨now, w₁, hd, hr⟩ := hr.cons
    obtain ⟨now', v₁, hd', hr'⟩ := hr'.cons
    obtain ⟨⟨hlookup, hlookup'⟩, -⟩ := hlike.kind
    obtain ⟨hx₁, hx⟩ := List.forall_mem_cons.1 hx
    obtain ⟨hx₁', hx'⟩ := List.forall_mem_cons.1 hx'
    obtain ⟨hw₁, hg, hrec⟩ := (hw.bare_later now).bare_deals hp.1 hlookup hd (hr.inRange hrange)
    obtain ⟨hv₁, hg', hrec'⟩ := (hv.bare_later now').bare_deals hp'.1 hlookup' hd' (hr'.inRange hrange')
    obtain ⟨ρ₁, hgrows, hreplies, hkin₁⟩ := (h.later now now').deals (hw.bare_later now) (hv.bare_later now') hp.1
      hp'.1 hfile hlike hx₁ hx₁' hd hd' (hr.inRange hrange) (hr'.inRange hrange')
    obtain ⟨ρ', hgrows', hS, hkin'⟩ := ih b b' ρ₁ hgrows.le hreplies hkin₁ hw₁ hv₁
      (hp.2 b _ hg hw₁.bears.distinctIds hrec) (hp'.2 b' _ hg' hv₁.bears.distinctIds hrec') hy hy' hr hr' hx hx'
    have hnow : ρ.Grows ρ₁ w v := ⟨hgrows.le, hgrows.store, hgrows.made⟩
    exact ⟨ρ', hnow.trans hgrows' hd.issued hd'.issued, hS, hkin'⟩
  | @left ρ r next p' hextra _ ih =>
    obtain ⟨b, t₁, rfl, hy⟩ := hy
    obtain ⟨now, w₁, hd, hr⟩ := hr.cons
    have hlookup := Request.isLookup_of_isExtra hextra
    obtain ⟨hw₁, hg, hrec⟩ := (hw.bare_later now).bare_deals hp.1 hlookup hd (hr.inRange hrange)
    obtain ⟨ρ', hgrows', hS, hkin'⟩ := ih b ((h.later now v.instant).extra_left hextra hd) hw₁ hv
      (hp.2 b _ hg hw₁.bears.distinctIds hrec) hp' hy hy' hr hr' (List.forall_mem_cons.1 hx).2 hx'
    have hnow : ρ.Grows ρ w v := .refl ρ w v
    exact ⟨ρ', hnow.trans hgrows' hd.issued ⟨fun _ hid => hid, fun _ hid => hid⟩, hS, hkin'⟩
  | @right ρ r' p next' hextra _ ih =>
    obtain ⟨b', t₁', rfl, hy'⟩ := hy'
    obtain ⟨now', v₁, hd', hr'⟩ := hr'.cons
    have hlookup := Request.isLookup_of_isExtra hextra
    obtain ⟨hv₁, hg', hrec'⟩ := (hv.bare_later now').bare_deals hp'.1 hlookup hd' (hr'.inRange hrange')
    obtain ⟨ρ', hgrows', hS, hkin'⟩ := ih b' ((h.later w.instant now').extra_right hextra hd') hw hv₁ hp
      (hp'.2 b' _ hg' hv₁.bears.distinctIds hrec') hy hy' hr hr' hx (List.forall_mem_cons.1 hx').2
    have hnow : ρ.Grows ρ w v := .refl ρ w v
    exact ⟨ρ', hnow.trans hgrows' ⟨fun _ hid => hid, fun _ hid => hid⟩ hd'.issued, hS, hkin'⟩

end Kin

end World

end Intake
