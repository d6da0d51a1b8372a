import Intake.Proofs.Nested.Hosts
import Intake.Proofs.World.Play

/-!
# Claims stay within their run

A run leaves the live claims as it found them, whether it gets to a report or to an error, and whatever its downloads
host. Events that are dropped before they are claimed, or because another delivery has the claim, release nothing. And
while an event is in its download, no other delivery gets through to its message.
-/

namespace Intake

open Ingest

variable {w w' v v' : World} {t t' u u' : List Exchange} {target target' : ResolvedChannel} {e e' : IncomingEvent}

/-- Reasons for which an event is dropped without a claim of its own. -/
inductive DropReason.PrecedesClaim : DropReason → Prop
  | unprocessable (subtype : String) : PrecedesClaim (.unprocessable subtype)
  | providerErrorEvent : PrecedesClaim .providerErrorEvent
  | missingSender : PrecedesClaim .missingSender
  | inFlight : PrecedesClaim .inFlight

namespace Ingest

theorem Persisted.reason {source id : String} {m : InboundMessage} {reason : DropReason}
    (h : Persisted target source m t (.ok (.dropped id reason))) : reason = .duplicate := by
  cases h <;> rfl

theorem handleEvent_not_release {source : String} {reason : DropReason}
    (h : (handleEvent target e).run.Yields t (.ok (.dropped source reason))) (hr : reason.PrecedesClaim) :
    ∀ x ∈ t, x.request.isRelease = false := by
  cases handleEvent_yields h with
  | quiet _ hq => exact fun x hx => Request.isRelease_of_isGuard (hq.isGuard hx)
  | denied => exact List.forall_mem_singleton.2 rfl
  | granted _ hp =>
    rw [hp.reason] at hr
    cases hr

theorem handleEvent_holds {channel : Channel} {media : MediaDescriptor}
    {next : Option FetchedMedia → Program (Except DomainError EventOutcome)}
    (h : (handleEvent target e).run.Reaches t (.ask (.fetch channel media) next)) :
    Bracketed none t (some (target.channel.id, e.sourceId)) := by
  obtain ⟨t', r, hnext, -⟩ := (next none).exists_yields (Exchange.exists_fits {})
  have hy : (handleEvent target e).run.Yields (t ++ ⟨.fetch channel media, none⟩ :: t') r :=
    h.yields ⟨none, t', rfl, hnext⟩
  have hfetch : (⟨.fetch channel media, none⟩ : Exchange) ∈ t ++ ⟨.fetch channel media, none⟩ :: t' :=
    List.mem_append_right _ List.mem_cons_self
  generalize hs : t ++ ⟨.fetch channel media, none⟩ :: t' = s at hy hfetch
  cases handleEvent_yields hy with
  | quiet hn =>
    obtain ⟨outcome, -, hfollow | ⟨new, b, -, -, rfl⟩⟩ := handleEvent_unaccepted hn hy
    · cases hfollow _ hfetch
    · cases List.mem_singleton.1 hfetch
  | unclaimed | denied => cases List.mem_singleton.1 hfetch
  | @granted m p released r hm hp =>
    cases t with
    | nil => cases hs
    | cons x t =>
      obtain ⟨rfl, htail⟩ := List.cons.inj hs
      refine .claim (.of_isGuard fun z hz => ?_)
      -- The download comes before the release, so all that comes before it is part of what happens under the claim.
      have hmem : z ∈ p := by
        rcases List.append_eq_append_iff.1 htail with ⟨q, rfl, hq⟩ | ⟨q, rfl, hq⟩
        · exact List.mem_append_left _ hz
        · cases q with
          | nil => simpa using hz
          | cons y q => simp at hq
      exact hp.isGuard z hmem

end Ingest

namespace World

theorem Replies.tables_of_tryClaim {clocks : Time → Prop} {o : Conditions} {channel : Snowflake} {source : String}
    {b : Except DomainError Bool} (h : w.Replies clocks o (.tryClaim channel source) b w') : w'.tables = w.tables := by
  rcases h with ⟨clock, file, -, -, h⟩ | ⟨e, -, -, rfl⟩
  · obtain ⟨a, -, h⟩ := Option.map_eq_some_iff.1 h
    obtain ⟨-, rfl⟩ := Prod.mk.inj h
    rfl
  · rfl

theorem Hosts.tables_of_nil (h : w.Hosts [] u w') : w'.tables = w.tables := by
  generalize ht : ([] : List Exchange) = t at h
  induction h with
  | nil => rfl
  | lapse _ _ ih => exact ih ht
  | exchange | intrusion | guest => cases ht

/-- Whoever asks for a live claim is refused it; nothing comes in between, as this is no download. -/
theorem Hosts.refused {channel : Snowflake} {source : String} {b : Except DomainError Bool}
    (h : w.Hosts (⟨.tryClaim channel source, b⟩ :: t) u w') (httl : 0 < w.guard.ttl)
    (hc : w.Claimed (channel, source)) : b = .ok false ∧ (t = [] → w'.tables = w.tables) := by
  generalize hs : (⟨.tryClaim channel source, b⟩ : Exchange) :: t = s at h
  induction h with
  | nil => cases hs
  | exchange hr hrest =>
    cases hs
    have ha := hr.answers_of_isGuard (fun _ _ h => h) rfl
    obtain ⟨granted, rfl, -, -⟩ := ha.tryClaim
    obtain ⟨hiff, -⟩ := ha.claimed_of_tryClaim httl
    refine ⟨?_, ?_⟩
    · cases granted with
      | false => rfl
      | true => exact absurd hc (hiff.1 rfl)
    · rintro rfl
      exact (Hosts.tables_of_nil hrest).trans hr.tables_of_tryClaim
  | lapse hl _ ih =>
    obtain ⟨rfl, hwaits⟩ := hl
    exact ih httl (hwaits.claims _ hc) hs
  | intrusion hx | guest hx =>
    cases hs
    cases hx

theorem exists_refused {c : Snowflake × String} (hc : w.Claimed c) :
    ∃ w', w.Replies Rules.hosting.clocks Rules.hosting.toConditions (.tryClaim c.1 c.2) (.ok false) w' := by
  have hclaim : w.guard.tryClaim? w.instant c.1 c.2 = some (false, w.guard.count w.instant) := by
    rw [Claimed] at hc
    rw [MemoryGuard.tryClaim?, MemoryGuard.claimKey?, if_pos hc]
  have hanswer : w.answer? 0 none (.tryClaim c.1 c.2) =
      some (.ok false, { w with guard := w.guard.count w.instant }) := by
    rw [answer?, hclaim]
    rfl
  exact ⟨_, .of_answer? hanswer trivial (by rintro _ _ ⟨⟩)⟩

end World

theorem handleEvent_inFlight {m : InboundMessage} {r : Except DomainError EventOutcome}
    (h : (handleEvent target e).run.Yields t r) (hw : w.Hosts t u w') (httl : 0 < w.guard.ttl)
    (hc : w.Claimed (target.channel.id, e.sourceId)) (hm : e.Accepted m) :
    r = .ok (.dropped e.sourceId .inFlight) ∧ w'.tables = w.tables := by
  cases handleEvent_yields h with
  | quiet hn => exact absurd hm (hn m)
  | unclaimed => cases (hw.refused httl hc).1
  | denied => exact ⟨rfl, (hw.refused httl hc).2 rfl⟩
  | granted => cases (hw.refused httl hc).1

theorem handleEvent_denied {m : InboundMessage} (hm : e.Accepted m) :
    (handleEvent target e).run.Yields [⟨.tryClaim target.channel.id e.sourceId, .ok false⟩]
      (.ok (.dropped e.sourceId .inFlight)) := by
  obtain ⟨new, heq⟩ := handleEvent_of_accepted target hm
  rw [heq, claimed]
  exact Attempt.yields_bind.2 (.inr ⟨_, false, [], rfl, Program.yields_request.2 rfl, rfl, rfl⟩)

/-- After a run, with a report or an error, the same claims are live as before it, and as many were released as granted.
Events dropped before their claim release nothing. While an event is in its download, every accepted event of the same
channel and source id is answered as in flight, and no table changes. -/
theorem claims_end_with_their_run (httl : 0 < w.guard.ttl) :
    (∀ job t u r w', (perform job).run.Yields t r → w.Hosts t u w' →
      (∀ c, w'.Claimed c ↔ w.Claimed c) ∧
        u.countP (·.request.isRelease) = u.countP (·.granted.isSome)) ∧
    (∀ target e t source reason, (handleEvent target e).run.Yields t (.ok (.dropped source reason)) →
      reason.PrecedesClaim → ∀ x ∈ t, x.request.isRelease = false) ∧
    ∀ target e t u w₁ channel media next v target' e' m,
      (handleEvent target e).run.Reaches t (.ask (.fetch channel media) next) → w.Hosts t u w₁ → w₁.Meanwhile v →
      e'.Accepted m → target'.channel.id = target.channel.id → e'.sourceId = e.sourceId →
        (∀ t' u' r v', (handleEvent target' e').run.Yields t' r → v.Hosts t' u' v' →
          r = .ok (.dropped e.sourceId .inFlight) ∧ v'.tables = v.tables) ∧
        ∃ t' v', (handleEvent target' e').run.Yields t' (.ok (.dropped e.sourceId .inFlight)) ∧ v.Hosts t' t' v' := by
  refine ⟨fun job t u r w' hy hw => ?_, fun target e t source reason hy hr => handleEvent_not_release hy hr, ?_⟩
  · have hbracket := perform_bracketed hy
    have hend := hw.holding (.start httl) hbracket
    have hcount := hw.balanced hbracket
    refine ⟨fun c => by simpa using hend.claimed c, ?_⟩
    simpa [World.Balanced] using hcount.symm
  · intro target e t u w₁ channel media next v target' e' m hreach hw hmeanwhile hm hchannel hsource
    have hholding := hw.holding (.start httl) (handleEvent_holds hreach)
    have hclaim : w₁.Claimed (target.channel.id, e.sourceId) := (hholding.claimed _).2 (.inr rfl)
    obtain ⟨hlive, hv⟩ := hmeanwhile.claimed hholding.ttl hclaim
    rw [← hchannel, ← hsource] at hlive
    rw [← hsource]
    refine ⟨fun t' u' r v' hy' hw' => handleEvent_inFlight hy' hw' hv hlive hm, ?_⟩
    obtain ⟨v', hr⟩ := World.exists_refused hlive
    exact ⟨_, v', handleEvent_denied hm, .exchange hr .nil⟩

/-! ### A picture delivered again during its own download -/

/-- Nobody or one delivery comes by. -/
theorem Replay.hosting_within {visit : World → Option (List Exchange × World)} {stops : Request → Bool}
    (hvisit : ∀ w u w', visit w = some (u, w') →
      (u = [] ∧ w' = w) ∨ ∃ job t r, (perform job).run.Yields t r ∧ w.Hosts t u w') :
    Replay.Within { visit, stops } .hosting where
  clocks := trivial
  refuses _ _ := nofun
  serves _ _ := trivial
  visits w u w₁ h x t v w' hx hw := by
    rcases hvisit _ _ _ h with ⟨rfl, rfl⟩ | ⟨job, t₁, r, hy, hguest⟩
    · exact hw
    · exact .guest hx ⟨job, r, hy⟩ hguest hw

namespace World

/-- The job is delivered, and its own downloads are visited in turn up to a depth. -/
def visitBy (job : WebhookJob) : Nat → World → Option (List Exchange × World)
  | 0, w => some ([], w)
  | depth + 1, w =>
    (Replay.host? { visit := visitBy job depth } [] (perform job).run w).map fun (_, u, _, w) => (u, w)

theorem visitBy_within (job : WebhookJob) (depth : Nat) : Replay.Within { visit := visitBy job depth } .hosting := by
  refine Replay.hosting_within ?_
  induction depth with
  | zero =>
    intro w u w' h
    cases h
    exact .inl ⟨rfl, rfl⟩
  | succ depth ih =>
    intro w u w' h
    obtain ⟨⟨t, u', r, w''⟩, hhost, heq⟩ := Option.map_eq_some_iff.1 h
    cases heq
    exact .inr ⟨job, t, r, (Replay.hosting_within ih).host hhost⟩

end World

namespace Sample

def picture : WebhookJob := job "image" (.object [("id", .string "media.1")])

end Sample

/-- The guest, and the guest of the guest, are refused the claim; the host releases it. -/
theorem picture_in_flight :
    0 < Sample.world.guard.ttl ∧
      (∃ t u r w', (perform Sample.picture).run.Yields t r ∧ Sample.world.Hosts t u w' ∧ t.length < u.length ∧
        (∀ c, w'.Claimed c ↔ Sample.world.Claimed c) ∧
        u.countP (·.request.isRelease) = 1 ∧ u.countP (·.granted.isSome) = 1) ∧
      ∃ target e m t w₁ channel media next t' w', (target, e, m) ∈ Sample.world.tables.accepted Sample.picture ∧
        (handleEvent target e).run.Reaches t (.ask (.fetch channel media) next) ∧ Sample.world.Hosts t t w₁ ∧
        (handleEvent target e).run.Yields t' (.ok (.dropped e.sourceId .inFlight)) ∧ w₁.Hosts t' t' w' := by
  have httl : 0 < Sample.world.guard.ttl := MemoryGuard.ofMillis_pos _
  obtain ⟨hruns, -, hinside⟩ := claims_end_with_their_run httl
  refine ⟨httl, ?_, ?_⟩
  · have hplay : (Replay.host? { visit := World.visitBy Sample.picture 2 } [] (perform Sample.picture).run
        Sample.world).any (fun played => decide
          (played.1.length < played.2.1.length ∧ played.2.1.countP (·.request.isRelease) = 1)) = true := by
      decide +kernel
    obtain ⟨⟨t, u, r, w'⟩, hp, hc⟩ := (Option.any_eq_true ..).1 hplay
    obtain ⟨hlen, hrelease⟩ := of_decide_eq_true hc
    obtain ⟨hy, hw⟩ := (World.visitBy_within Sample.picture 2).host hp
    obtain ⟨hclaims, hcount⟩ := hruns _ _ _ _ _ hy hw
    exact ⟨t, u, r, w', hy, hw, hlen, hclaims, hrelease, hcount ▸ hrelease⟩
  · have hplay : (Sample.world.tables.accepted Sample.picture).any (fun a =>
        (Replay.leave? { stops := (·.isFetch) } [] (handleEvent a.1 a.2.1).run Sample.world).any
          (·.2.2.1.result?.isNone)) = true := by
      decide +kernel
    obtain ⟨⟨target, e, m⟩, hmem, hany⟩ := List.any_eq_true.1 hplay
    obtain ⟨⟨t, u, q, w₁⟩, hp, hq⟩ := (Option.any_eq_true ..).1 hany
    obtain rfl := Replay.leave?_alone (fun _ h => h) hp
    have hwithin : Replay.Within { stops := (·.isFetch) } .hosting :=
      Replay.hosting_within fun w u w' h => by
        cases h
        exact .inl ⟨rfl, rfl⟩
    obtain ⟨hreach, hw, ⟨a, rfl⟩ | ⟨r, next, rfl, hfetch⟩⟩ := hwithin.leave hp
    · cases hq
    · cases r with
      | fetch channel media =>
        have hm := (Tables.mem_accepted_iff.1 hmem).2.2
        obtain ⟨-, t', w', hy, hw'⟩ := hinside _ _ _ _ _ _ _ _ _ _ _ _ hreach hw .now hm rfl rfl
        exact ⟨target, e, m, u, w₁, channel, media, next, t', w', hmem, hreach, hw, hy, hw'⟩
      | _ => cases hfetch

end Intake
