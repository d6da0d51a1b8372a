import Intake.Proofs.Downloads.Files
import Intake.Proofs.Downloads.Kin
import Intake.Proofs.Retry.Equivalence
import Intake.Proofs.Tenants.Commute

/-!
# Downloads do no harm

Two deliveries of the same job from the same store come to the same, whatever is downloaded in the one and in the other,
but for the files and their number (`downloads_harmless`). Both look up the same channel, as what is found among the
tenants, and whether a look-up fails, depends on the store alone (`World.Runs.lookups_unique`). From there on they are
carried out in kin.
-/

namespace Intake

variable {job : WebhookJob} {target : ResolvedChannel} {t t' : List Exchange} {r r' : Except DomainError IngestReport}
  {fetch fetch' : Channel → MediaDescriptor → Option FetchedMedia} {held : Multiset Snowflake}

namespace World

variable {u w w' v v' : World}

/-! ## Looking up the channel -/

theorem Deals.lookup_unique {r : Request} {b b' : r.Reply} (h : w.Deals (.calm fetch) r b w')
    (h' : v.Deals (.calm fetch') r b' v') (hr : r.isLookup = true) (hs : w.store = v.store) :
    b = b' ∧ w'.store = v'.store := by
  obtain ⟨clock, file, -, ha⟩ := h.of_calm
  obtain ⟨clock', file', -, ha'⟩ := h'.of_calm
  cases r with
  | findChannelByPhone | findGupshupChannel =>
    cases ha
    cases ha'
    dsimp only
    rw [hs]
    exact ⟨rfl, rfl⟩
  | accountStatus | findInbox =>
    cases ha
    cases ha'
    have htables : w.tables = v.tables := congrArg (·.tables) hs
    rw [htables]
    exact ⟨rfl, hs⟩
  | _ => cases hr

theorem Runs.lookups_unique {α : Type} {p : Program α} {a a' : α} (hp : Routing.Lookups p) (hy : p.Yields t a)
    (hy' : p.Yields t' a') (hr : w.Runs (.calm fetch) t w') (hr' : v.Runs (.calm fetch') t' v')
    (hs : w.store = v.store) : a = a' := by
  induction p generalizing w v t t' with
  | done b => exact hy.2.trans hy'.2.symm
  | ask r next ih =>
    obtain ⟨b, t₁, rfl, hy⟩ := hy
    obtain ⟨b', t₁', rfl, hy'⟩ := hy'
    obtain ⟨now, w₁, hd, hr⟩ := hr.cons
    obtain ⟨now', v₁, hd', hr₁'⟩ := hr'.cons
    obtain ⟨rfl, hs₁⟩ := hd.lookup_unique hd' hp.1 hs
    exact ih b (hp.2 b) hy hy' hr hr₁' hs₁

/-- Two deliveries of a job from the same store are resolved to the same channel, or end after the same look-ups. -/
theorem Performs.resolved (h : u.Performs fetch job t r w) (h' : u.Performs fetch' job t' r' w') :
    (∃ target, job.ResolvedTo target t r ∧ job.ResolvedTo target t' r') ∨
      ((∀ x ∈ t, x.request.isLookup = true) ∧ (∀ x ∈ t', x.request.isLookup = true)) ∧
        ∀ ρ, Attempt.Same IngestReport.Akin ρ r r' := by
  obtain ⟨q, s, res, rfl, hq, hres⟩ := perform_resolves h.yields
  obtain ⟨q', s', res', rfl, hq', hres'⟩ := perform_resolves h'.yields
  obtain ⟨w₁, hr₁, -⟩ := h.runs.split
  obtain ⟨v₁, hr₁', -⟩ := h'.runs.split
  have hlookups := Routing.resolve_lookups job
  obtain rfl : res = res' := hr₁.lookups_unique hlookups hq hq' hr₁' rfl
  rcases hres with ⟨e, rfl, rfl, rfl⟩ | ⟨resolution, rfl, hy⟩
  · rcases hres' with ⟨e', he, rfl, rfl⟩ | ⟨resolution, hne, -⟩
    · cases he
      rw [List.append_nil, List.append_nil]
      exact .inr ⟨⟨hlookups.mem hq, hlookups.mem hq'⟩, fun ρ => .error⟩
    · cases hne
  · rcases hres' with ⟨e', hne, -⟩ | ⟨resolution', heq, hy'⟩
    · cases hne
    cases heq
    cases resolution with
    | active target => exact .inl ⟨target, ⟨q, s, rfl, hq, hy⟩, q', s', rfl, hq', hy'⟩
    | notFound | inactive =>
      obtain ⟨rfl, rfl⟩ := hy
      obtain ⟨rfl, rfl⟩ := hy'
      rw [List.append_nil, List.append_nil]
      exact .inr ⟨⟨hlookups.mem hq, hlookups.mem hq'⟩, fun ρ => .ok ⟨rfl, rfl, .nil⟩⟩

end World

/-! ## From the channel on -/

namespace Tables

variable {ρ : Renaming} {s s' : Tables}

/-- The rows of neither the target's inbox nor its account. -/
def elsewhere (s : Tables) (target : ResolvedChannel) : Tables :=
  s.part (fun a => !decide (a = target.inbox.account)) fun i => !decide (i = target.inbox.id)

theorem sameUpTo_of_like (htenants : s.tenants = s'.tenants) (h : s.Like ρ s') : s.SameUpTo ρ s' where
  tenants := htenants
  contacts := Multiset.rel_of_forall₂ h.contacts
  contactInboxes := Multiset.rel_of_forall₂ h.contactInboxes
  conversations := Multiset.rel_of_forall₂ h.conversations
  messages := Multiset.rel_of_forall₂ h.messages
  attachments := Multiset.rel_of_forall₂ h.attachments

theorem sameUpTo_of_within (htenants : s.tenants = s'.tenants) (htarget : (s.within target).Like ρ (s'.within target))
    (hrest : (s.elsewhere target).Like ρ (s'.elsewhere target)) : s.SameUpTo ρ s' := by
  have hin : (s.within target).SameUpTo ρ (s'.within target) := sameUpTo_of_like htenants htarget
  have hout : (s.elsewhere target).SameUpTo ρ (s'.elsewhere target) := sameUpTo_of_like htenants hrest
  exact ⟨htenants, Multiset.rel_of_halves hin.contacts hout.contacts,
    Multiset.rel_of_halves hin.contactInboxes hout.contactInboxes,
    Multiset.rel_of_halves hin.conversations hout.conversations, Multiset.rel_of_halves hin.messages hout.messages,
    Multiset.rel_of_halves hin.attachments hout.attachments⟩

/-- Attachments are added, and the files among them to messages that came with media. -/
def AddsFiles (job : WebhookJob) (s s' : Tables) : Prop :=
  ∃ new, s'.attachments = s.attachments ++ new ∧ ∀ a ∈ new, a.isFile = true →
    ∃ target, s.route job = .active target ∧ ∃ m ∈ s'.messages, m.id = a.message ∧ m.CameWithMedia target job

end Tables

namespace World

variable {u w w' : World} {ρ : Renaming}

theorem Runs.bare_ready (hr : u.Runs (.calm fetch) t w) (ht : ∀ x ∈ t, x.request.isLookup = true) (hb : u.Bears held)
    (hi : target.inbox ∈ u.tables.inboxes) : Ready target {} held w.bare := by
  obtain ⟨now, n, rfl⟩ := hr.eq_of_lookups ht
  refine ⟨bare_calm _, ?_, ⟨target.inbox, hi, rfl, rfl⟩, nofun⟩
  have hb₀ : u.bare.Bears (({} : Hand).held + held) := hb.bare.mono (le_of_eq (zero_add _))
  exact hb₀.congr rfl rfl rfl

theorem Runs.kin_of_lookups (hr : u.Runs (.calm fetch) t w) (hr' : u.Runs (.calm fetch') t' w') (hb : u.Bears held)
    (ht : ∀ x ∈ t, x.request.isLookup = true) (ht' : ∀ x ∈ t', x.request.isLookup = true) :
    Kin target (.base u) w w' := by
  have hi := hr.issued
  have hi' := hr'.issued
  obtain ⟨now, n, rfl⟩ := hr.eq_of_lookups ht
  obtain ⟨now', n', rfl⟩ := hr'.eq_of_lookups ht'
  exact ⟨.self (w := u.bare) hb.bare rfl rfl hi hi', rfl⟩

end World

section

variable {u w w' : World} {ρ : Renaming} {K : Snowflake × String → Prop}

theorem WebhookJob.ResolvedTo.kin (h : job.ResolvedTo target t r) (h' : job.ResolvedTo target t' r')
    (hb : u.Bears held) (hr : u.Runs (.calm fetch) t w) (hr' : u.Runs (.calm fetch') t' w')
    (hx : ∀ x ∈ t, x.Heeds K) (hx' : ∀ x ∈ t', x.Heeds K) (hrange : w.InRange) (hrange' : w'.InRange) :
    ∃ ρ, (Renaming.base u).Grows ρ u u ∧ Attempt.Same IngestReport.Akin ρ r r' ∧ w.Kin target ρ w' := by
  have hinbox := (Tables.serves_of_route (h.route hr.fits)).inbox
  obtain ⟨q, s, rfl, hq, hy⟩ := h
  obtain ⟨q', s', rfl, hq', hy'⟩ := h'
  obtain ⟨w₁, hr₁, hr₂⟩ := hr.split
  obtain ⟨v₁, hr₁', hr₂'⟩ := hr'.split
  have hlookups := (Routing.resolve_lookups job).mem hq
  have hlookups' := (Routing.resolve_lookups job).mem hq'
  have hw₁ := hr₁.bare_ready hlookups hb hinbox
  have hv₁ := hr₁'.bare_ready hlookups' hb hinbox
  have hkin : w₁.Kin target (.base u) v₁ := hr₁.kin_of_lookups hr₁' hb hlookups hlookups'
  obtain ⟨ρ, hgrows, hreports, hkin'⟩ := hkin.run performOn_akin hw₁ hv₁
    (performOn_guided hw₁.bears.distinctIds hw₁.inbox) (performOn_guided hv₁.bears.distinctIds hv₁.inbox) hy hy'
    hr₂ hr₂' (List.forall_mem_append.1 hx).2 (List.forall_mem_append.1 hx').2 hrange hrange'
  have hfirst : (Renaming.base u).Grows (.base u) u u := .refl _ u u
  exact ⟨ρ, hfirst.trans hgrows hr₁.issued hr₁'.issued, hreports, hkin'⟩

theorem World.Kin.sameUpTo (h : w.Kin target ρ w') (hb : u.Bears held) (hle : .base u ≤ ρ)
    (hkeeps : u.KeepsOthers target w) (hkeeps' : u.KeepsOthers target w')
    (htenants : w.tables.tenants = w'.tables.tenants) : w.tables.bare.SameUpTo ρ w'.tables.bare := by
  have hsame : ∀ {v : World}, u.KeepsOthers target v →
      v.tables.bare.elsewhere target = u.tables.bare.elsewhere target := by
    intro v hv
    have hpart : v.tables.elsewhere target = u.tables.elsewhere target := hv.parts _ _ (by simp) (by simp)
    rw [Tables.elsewhere, Tables.elsewhere, Tables.bare_part, Tables.bare_part]
    exact congrArg Tables.bare hpart
  refine Tables.sameUpTo_of_within htenants h.twin.rows ?_
  rw [hsame hkeeps, hsame hkeeps']
  exact (hb.bare.like_base.part _ _).mono hle

end

namespace World.Performs

variable {u w w' : World}

/-- The same comes of two deliveries of a job, up to the renaming of the ids that they make, but for files. -/
theorem sameUpTo (h : u.Performs fetch job t r w) (h' : u.Performs fetch' job t' r' w') (hb : u.Bears held)
    {K : Snowflake × String → Prop} (hx : ∀ x ∈ t, x.Heeds K) (hx' : ∀ x ∈ t', x.Heeds K) (hrange : w.InRange)
    (hrange' : w'.InRange) :
    ∃ ρ : Renaming, ρ.OneToOne ∧ .base u ≤ ρ ∧ Attempt.Same IngestReport.Akin ρ r r' ∧
      w.tables.bare.SameUpTo ρ w'.tables.bare := by
  rcases h.resolved h' with ⟨target, hres, hres'⟩ | ⟨⟨ht, ht'⟩, hsame⟩
  · obtain ⟨ρ, hgrows, hreports, hkin⟩ := hres.kin hres' hb h.runs h'.runs hx hx' hrange hrange'
    have hkeeps := (hres.keepsOthers h.runs hb hrange).1
    have hkeeps' := (hres'.keepsOthers h'.runs hb hrange').1
    have htenants := h.runs.tenants.trans h'.runs.tenants.symm
    exact ⟨ρ, ⟨hkin.twin.store.unique, hkin.twin.made.unique⟩, hgrows.le, hreports,
      hkin.sameUpTo hb hgrows.le hkeeps hkeeps' htenants⟩
  · -- After look-ups alone the tables are what they were.
    refine ⟨.base u, Renaming.base_oneToOne u, Renaming.le_refl _, hsame _, ?_⟩
    rw [h.runs.tables_of_lookups ht, h'.runs.tables_of_lookups ht']
    exact Tables.sameUpTo_of_like rfl hb.bare.like_base

theorem addsFiles (h : u.Performs fetch job t r w) : u.tables.AddsFiles job w.tables := by
  rcases perform_resolved_or_lookups h.yields with ⟨target, hres⟩ | ht
  · refine ⟨writtenAttachments t, h.runs.attachments, fun a ha hfile => ?_⟩
    exact ⟨target, hres.route h.runs.fits, h.runs.files hres a ha hfile⟩
  · rw [h.runs.tables_of_lookups ht]
    exact ⟨[], (List.append_nil _).symm, nofun⟩

end World.Performs

/-- Downloads do not influence what messages exist. Two deliveries of the same job by themselves, in a store that came
about from nothing, end with the same error or with reports that say the same but for the numbers of attachments. But
for files they leave the same tables, up to a renaming of the ids that are made (`Renaming.base` says that it keeps
those that were there), the order of rows and the moments of creation, and the same claims. The files that they add
belong to messages that came with media. Look-ups and writes may be about to fail. Of time nothing matters but which
claims run out, so what is live in the beginning must not have run out when the clock is where the deliveries leave it.
The bounds leave the ids room, as for `Pool.reached_integrity`, and that there are such deliveries is
`World.exists_runs`. -/
theorem downloads_harmless {n : Nat} {P : Pool WebhookJob (Except DomainError IngestReport)} {w w' : World}
    (h : Pool.Reached n P) (hrun : P.world.Performs fetch job t r w) (hrun' : P.world.Performs fetch' job t' r' w')
    (hlast : ∀ c, P.world.Claimed c → (P.world.later w.instant).Claimed c)
    (hlast' : ∀ c, P.world.Claimed c → (P.world.later w'.instant).Claimed c) (hn : n + t.length ≤ 2 ^ 51)
    (hn' : n + t'.length ≤ 2 ^ 51) :
    (∃ ρ : Renaming, ρ.OneToOne ∧ .base P.world ≤ ρ ∧ Attempt.Same IngestReport.Akin ρ r r' ∧
      w.tables.bare.SameUpTo ρ w'.tables.bare) ∧
      (∀ c, w.Claimed c ↔ w'.Claimed c) ∧
        P.world.tables.AddsFiles job w.tables ∧ P.world.tables.AddsFiles job w'.tables := by
  have hrange : w.InRange := (hrun.runs.ahead h.ahead).inRange (by omega)
  have hrange' : w'.InRange := (hrun'.runs.ahead h.ahead).inRange (by omega)
  have hb := (h.inOrder (hrun.runs.inRange hrange)).bears
  -- The guard heeds the same claims in both.
  have hguard := Conditions.calm_sparesGuard fetch
  have hguard' := Conditions.calm_sparesGuard fetch'
  have hlive := fun c hc => hrun.runs.lasts hguard hrun.bracketed (hlast c hc) nofun
  have hlive' := fun c hc => hrun'.runs.lasts hguard' hrun'.bracketed (hlast' c hc) nofun
  have hx := hrun.runs.heeds hguard h.ttl_pos hrun.bracketed hlive
  have hx' := hrun'.runs.heeds hguard' h.ttl_pos hrun'.bracketed hlive'
  refine ⟨hrun.sameUpTo hrun' hb hx hx' hrange hrange', fun c => ?_, hrun.addsFiles, hrun'.addsFiles⟩
  have hclaims := hrun.runs.claimed_iff_of_lasting hguard hrun.bracketed hlive c
  have hclaims' := hrun'.runs.claimed_iff_of_lasting hguard' hrun'.bracketed hlive' c
  exact hclaims.trans hclaims'.symm

/-! ## Playing -/

/-- A picture, and then a greeting, in one delivery. -/
def Sample.postcard : WebhookJob :=
  (WebhookJob.ofPayload (.object
    [("messages", .array
        [entry "wamid.3" "image" (.object [("id", .string "media.2")]),
          entry "wamid.4" "text" (.object [("body", .string "hello")])])])).withPhoneNumber "15550001"

/-- With the picture or without it both messages are stored, while the claim of another one is live. -/
theorem postcard_harmless : ∃ n P t t' r r' w w', Pool.Reached n P ∧
    P.world.Performs Sample.album Sample.postcard t r w ∧
    P.world.Performs (fun _ _ => none) Sample.postcard t' r' w' ∧
    ((∀ c, P.world.Claimed c → (P.world.later w.instant).Claimed c) ∧
      ∀ c, P.world.Claimed c → (P.world.later w'.instant).Claimed c) ∧
    (n + t.length ≤ 2 ^ 51 ∧ n + t'.length ≤ 2 ^ 51) ∧
    (P.world.guard.claims.length = 1 ∧
      w.tables.messages.map (·.sourceId) = ["wamid.1", "wamid.1", "wamid.3", "wamid.4"] ∧
      w.tables.messages.map (·.id) ≠ w'.tables.messages.map (·.id) ∧
      w.tables.attachments.length = 1 ∧ w'.tables.attachments.length = 0) ∧
    (∃ ρ : Renaming, ρ.OneToOne ∧ .base P.world ≤ ρ ∧ Attempt.Same IngestReport.Akin ρ r r' ∧
      w.tables.bare.SameUpTo ρ w'.tables.bare) ∧
      (∀ c, w.Claimed c ↔ w'.Claimed c) ∧
        P.world.tables.AddsFiles Sample.postcard w.tables ∧ P.world.tables.AddsFiles Sample.postcard w'.tables := by
  have hplay : (Pool.play? Sample.pendingMoves Sample.pool).any (fun P =>
      (Sample.carry? Sample.album Sample.postcard P.world).any fun a =>
        (Sample.carry? (fun _ _ => none) Sample.postcard P.world).any fun b => decide
          (((P.world.guard.claims.all fun k => P.world.guard.holds a.2.2.2.instant k.1) = true ∧
              (P.world.guard.claims.all fun k => P.world.guard.holds b.2.2.2.instant k.1) = true) ∧
            (a.2.1.length ≤ 2 ^ 50 ∧ b.2.1.length ≤ 2 ^ 50) ∧
            P.world.guard.claims.length = 1 ∧
            a.2.2.2.tables.messages.map (·.sourceId) = ["wamid.1", "wamid.1", "wamid.3", "wamid.4"] ∧
            a.2.2.2.tables.messages.map (·.id) ≠ b.2.2.2.tables.messages.map (·.id) ∧
            a.2.2.2.tables.attachments.length = 1 ∧ b.2.2.2.tables.attachments.length = 0)) = true := by
    decide +kernel
  obtain ⟨P, hp, hruns⟩ := (Option.any_eq_true ..).1 hplay
  obtain ⟨⟨target, t, r, w⟩, ha, hothers⟩ := (Option.any_eq_true ..).1 hruns
  obtain ⟨⟨target', t', r', w'⟩, hb, hcheck⟩ := (Option.any_eq_true ..).1 hothers
  obtain ⟨⟨hall, hall'⟩, ⟨hlength, hlength'⟩, hshown⟩ := of_decide_eq_true hcheck
  obtain ⟨-, hrun⟩ := Sample.performs_of_carry? ha
  obtain ⟨-, hrun'⟩ := Sample.performs_of_carry? hb
  have hlast : ∀ c, P.world.Claimed c → (P.world.later w.instant).Claimed c := Sample.lasts hall
  have hlast' : ∀ c, P.world.Claimed c → (P.world.later w'.instant).Claimed c := Sample.lasts hall'
  obtain ⟨n, hn, h⟩ := Sample.pool_reached.play hp
  have hmoves : Sample.pendingMoves.length = 38 := by decide
  have hbound : n + t.length ≤ 2 ^ 51 := by
    have ht : t.length ≤ 2 ^ 50 := hlength
    omega
  have hbound' : n + t'.length ≤ 2 ^ 51 := by
    have ht : t'.length ≤ 2 ^ 50 := hlength'
    omega
  exact ⟨n, P, t, t', r, r', w, w', h, hrun, hrun', ⟨hlast, hlast'⟩, ⟨hbound, hbound'⟩, hshown,
    downloads_harmless h hrun hrun' hlast hlast' hbound hbound'⟩

end Intake
