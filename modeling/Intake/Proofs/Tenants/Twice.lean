import Intake.Proofs.Tenants.Twin

/-!
# One delivery in two worlds

A delivery that is carried out in twins leaves twins behind, and reports alike. By induction over its program: twins
answer each request alike, and the passing of time does nothing to rows.
-/

namespace Intake

namespace World

variable {w w' v v' : World} {target : ResolvedChannel} {fetch : Channel → MediaDescriptor → Option FetchedMedia}
  {t t' : List Exchange}

theorem Ready.later {hand : Hand} {others : Multiset Snowflake} (h : Ready target hand others w) (now : Instant) :
    Ready target hand others (w.later now) :=
  ⟨⟨h.calm.lookups, h.calm.writes⟩, h.bears.congr rfl rfl rfl, h.inbox, h.vacant⟩

namespace Twin

variable {ρ : Renaming}

theorem later (h : Twin target ρ w v) (now now' : Instant) : Twin target ρ (w.later now) (v.later now') :=
  ⟨h.rows, h.found, h.store, h.made⟩

/-- Programs that are alike end alike, and leave twins behind. -/
theorem run {α : Type} {S : Renaming → α → α → Prop} {p p' : Program α} {a a' : α} {hand hand' : Hand}
    {others others' : Multiset Snowflake} {Q Q' : Hand → Tables → α → Prop} {K : Snowflake × String → Prop}
    (h : Twin target ρ w v)
    (hw : Ready target hand others w) (hv : Ready target hand' others' v) (hlike : Program.Like S ρ p p')
    (hp : p.Guided (.of target) Q hand w.tables) (hp' : p'.Guided (.of target) Q' hand' v.tables)
    (hy : p.Yields t a) (hy' : p'.Yields t' a') (hr : w.Runs (.calm fetch) t w') (hr' : v.Runs (.calm fetch) t' v')
    (hx : ∀ x ∈ t, x.Heeds K) (hx' : ∀ x ∈ t', x.Heeds K) (hrange : w'.InRange) (hrange' : v'.InRange) :
    ∃ ρ', ρ.Grows ρ' w v ∧ S ρ' a a' ∧ Twin target ρ' w' v' := by
  induction p generalizing ρ p' hand hand' w v t t' with
  | done b =>
    cases p' with
    | ask => cases hlike
    | done b' =>
      obtain ⟨rfl, rfl⟩ := hy
      obtain ⟨rfl, rfl⟩ := hy'
      obtain ⟨now, -, ⟨-, rfl⟩ | ⟨x, t₁, w₁, hcons, -⟩⟩ := hr.uncons
      · obtain ⟨now', -, ⟨-, rfl⟩ | ⟨x, t₁, w₁, hcons, -⟩⟩ := hr'.uncons
        · exact ⟨ρ, .refl ρ w v, hlike, h.later now now'⟩
        · cases hcons
      · cases hcons
  | ask r next ih =>
    cases p' with
    | done => cases hlike
    | ask r' next' =>
      obtain ⟨b, t₁, rfl, hy⟩ := hy
      obtain ⟨b', t₁', rfl, hy'⟩ := hy'
      obtain ⟨now, -, ⟨hnil, -⟩ | ⟨x, t₂, w₁, hcons, hd, hr⟩⟩ := hr.uncons
      · cases hnil
      obtain ⟨now', -, ⟨hnil, -⟩ | ⟨x', t₂', v₁, hcons', hd', hr'⟩⟩ := hr'.uncons
      · cases hnil
      cases hcons
      cases hcons'
      -- Some time has passed in both, and then they answer the first request alike.
      have htwin := h.later now now'
      obtain ⟨hx₁, hx⟩ := List.forall_mem_cons.1 hx
      obtain ⟨hx₁', hx'⟩ := List.forall_mem_cons.1 hx'
      obtain ⟨hw₁, hg, hrec⟩ := (hw.later now).deals hp.1 hd (hr.inRange hrange)
      obtain ⟨hv₁, hg', hrec'⟩ := (hv.later now').deals hp'.1 hd' (hr'.inRange hrange')
      obtain ⟨ρ₁, hgrows, hreplies, htwin₁⟩ := htwin.deals (hw.later now) (hv.later now') hp.1 hp'.1 hlike.1 hx₁ hx₁' hd
        hd' (hr.inRange hrange) (hr'.inRange hrange')
      obtain ⟨ρ', hgrows', hS, htwin'⟩ := ih b htwin₁ hw₁ hv₁ (hlike.2 b b' ρ₁ hgrows.le hreplies)
        (hp.2 b w₁.tables hg hw₁.bears.distinctIds hrec) (hp'.2 b' v₁.tables hg' hv₁.bears.distinctIds hrec') hy hy' hr
        hr' hx hx'
      have hnow : ρ.Grows ρ₁ w v := ⟨hgrows.le, hgrows.store, hgrows.made⟩
      exact ⟨ρ', hnow.trans hgrows' hd.issued hd'.issued, hS, htwin'⟩

end Twin

end World

variable {job : WebhookJob} {target : ResolvedChannel} {t t' : List Exchange} {r r' : Except DomainError IngestReport}
  {w w' v v' : World} {fetch : Channel → MediaDescriptor → Option FetchedMedia}

theorem World.Runs.ready {resolution : Except DomainError Resolution} {others : Multiset Snowflake}
    (hr : w.Runs (.calm fetch) t w') (hy : (Routing.resolve job).run.Yields t resolution) (hw : w.Calm)
    (hb : w.Bears others) (hi : target.inbox ∈ w.tables.inboxes) (hrange : w'.InRange) :
    w'.Ready target {} others := by
  have ht : w'.tables = w.tables := hr.tables_of_lookups ((Routing.resolve_lookups job).mem hy)
  have hb₀ : w.Bears (({} : Hand).held + others) := hb.mono (le_of_eq (zero_add _))
  obtain ⟨-, hand, hb'⟩ := hr.sameOutside hy (.of_lookups (Routing.resolve_lookups job) target) hb₀ hrange
  refine ⟨hr.calm hw, hb'.mono (Multiset.add_le_add_right (Multiset.zero_le _)), ?_, nofun⟩
  exact ht ▸ ⟨target.inbox, hi, rfl, rfl⟩

theorem World.Twin.lookups {ρ : Renaming} (h : Twin target ρ w v) (hr : w.Runs (.calm fetch) t w')
    (hr' : v.Runs (.calm fetch) t' v') (ht : ∀ x ∈ t, x.request.isLookup = true)
    (ht' : ∀ x ∈ t', x.request.isLookup = true) : Twin target ρ w' v' := by
  have htables := hr.tables_of_lookups ht
  have htables' := hr'.tables_of_lookups ht'
  exact h.keep (by rw [htables, htables']; exact h.rows) (by rw [htables]) (by rw [htables']) hr.issued hr'.issued

/-- A job that is resolved to the target in twins succeeds in both with like reports, and leaves twins behind. -/
theorem WebhookJob.ResolvedTo.twin {ρ : Renaming} {K : Snowflake × String → Prop} {others others' : Multiset Snowflake}
    (h : job.ResolvedTo target t r) (h' : job.ResolvedTo target t' r') (htwin : w.Twin target ρ v)
    (hw : w.Calm ∧ w.Bears others) (hv : v.Calm ∧ v.Bears others') (hr : w.Runs (.calm fetch) t w')
    (hr' : v.Runs (.calm fetch) t' v')
    (hx : ∀ x ∈ t, x.Heeds K) (hx' : ∀ x ∈ t', x.Heeds K) (hrange : w'.InRange) (hrange' : v'.InRange) :
    ∃ ρ', ρ.Grows ρ' w v ∧ Attempt.Succeed IngestReport.Like ρ' r r' ∧ w'.Twin target ρ' v' := by
  have hinbox := (Tables.serves_of_route (h.route hr.fits)).inbox
  have hinbox' := (Tables.serves_of_route (h'.route hr'.fits)).inbox
  obtain ⟨q, s, rfl, hq, hy⟩ := h
  obtain ⟨q', s', rfl, hq', hy'⟩ := h'
  obtain ⟨w₁, hr₁, hr₂⟩ := hr.split
  obtain ⟨v₁, hr₁', hr₂'⟩ := hr'.split
  have hlookups := (Routing.resolve_lookups job).mem hq
  have hlookups' := (Routing.resolve_lookups job).mem hq'
  have htwin₁ := htwin.lookups hr₁ hr₁' hlookups hlookups'
  have hw₁ := hr₁.ready hq hw.1 hw.2 hinbox (hr₂.inRange hrange)
  have hv₁ := hr₁'.ready hq' hv.1 hv.2 hinbox' (hr₂'.inRange hrange')
  obtain ⟨ρ', hgrows, hreports, htwin'⟩ := htwin₁.run hw₁ hv₁ performOn_like
    (performOn_guided hw₁.bears.distinctIds hw₁.inbox) (performOn_guided hv₁.bears.distinctIds hv₁.inbox)
    hy hy' hr₂ hr₂'
    (List.forall_mem_append.1 hx).2 (List.forall_mem_append.1 hx').2 hrange hrange'
  have hfirst : ρ.Grows ρ w v := .refl ρ w v
  exact ⟨ρ', hfirst.trans hgrows hr₁.issued hr₁'.issued, hreports, htwin'⟩

end Intake
