import Intake.Proofs.Retry.Alone

/-!
# Cards of one event

The messages of a contacts event are written one by one, and a retry looks up only the first of them. So a completed
run that is alone stores them all exactly if the store refused none after the first (`LaterRefused`). `Progress` is what
holds of the event's messages between any two events: none is stored, or all, or the first is and some later one never
will be.
-/

namespace Intake

open Ingest

variable {o : Outage} {w w' : World} {tb : Tables} {job : WebhookJob} {target : ResolvedChannel}
  {e e' : IncomingEvent} {es : List IncomingEvent} {m : InboundMessage} {s t : List Exchange} {source : String}
  {first k : Snowflake × String} {keys : List (Snowflake × String)}

/-- The store refused a message other than the first. -/
def LaterRefused (first : Snowflake × String) (keys : List (Snowflake × String)) (s : List Exchange) : Prop :=
  ∃ x ∈ s, ∃ k ∈ keys, k ≠ first ∧ x.refused = some k

inductive Progress (first : Snowflake × String) (keys : List (Snowflake × String)) (s : List Exchange) (w : World) :
  Prop
  | untouched : (∀ k ∈ keys, k ∉ w.tables.keys) → ¬ LaterRefused first keys s → Progress first keys s w
  | complete : (∀ k ∈ keys, k ∈ w.tables.keys) → ¬ LaterRefused first keys s → Progress first keys s w
  | torn : first ∈ w.tables.keys → (∃ k ∈ keys, k ∉ w.tables.keys) → LaterRefused first keys s →
    Progress first keys s w

theorem LaterRefused.append (h : LaterRefused first keys s) : LaterRefused first keys (s ++ t) := by
  obtain ⟨x, hx, hk⟩ := h
  exact ⟨x, List.mem_append_left _ hx, hk⟩

theorem LaterRefused.of_append (h : LaterRefused first keys (s ++ t)) :
    LaterRefused first keys s ∨ LaterRefused first keys t := by
  obtain ⟨x, hx, hk⟩ := h
  exact (List.mem_append.1 hx).imp (fun hx => ⟨x, hx, hk⟩) fun hx => ⟨x, hx, hk⟩

namespace Progress

theorem append (h : Progress first keys s w) (hp : w.Passes o t w') (hw : ∀ x ∈ t, ∀ k ∈ keys, x.written ≠ some k)
    (hr : ¬ LaterRefused first keys t) : Progress first keys (s ++ t) w' := by
  have hback {k : Snowflake × String} (hk : k ∈ keys) (hmem : k ∈ w'.tables.keys) : k ∈ w.tables.keys := by
    rcases hp.mem_keys_iff.1 hmem with hmem | ⟨x, hx, hxk⟩
    · exact hmem
    · exact absurd hxk (hw x hx k hk)
  have hnone (hs : ¬ LaterRefused first keys s) : ¬ LaterRefused first keys (s ++ t) := by
    intro h
    rcases h.of_append with h | h
    · exact hs h
    · exact hr h
  cases h with
  | untouched hn hs =>
    refine .untouched (fun k hk hmem => ?_) (hnone hs)
    exact hn k hk (hback hk hmem)
  | complete ha hs =>
    refine .complete (fun k hk => ?_) (hnone hs)
    exact hp.mem_keys_iff.2 (.inl (ha k hk))
  | torn hf hn hs =>
    obtain ⟨k, hk, hnk⟩ := hn
    exact .torn (hp.mem_keys_iff.2 (.inl hf)) ⟨k, hk, fun hmem => hnk (hback hk hmem)⟩ hs.append

theorem append_of_not_attempted (h : Progress first keys s w) (hp : w.Passes o t w')
    (ht : ∀ x ∈ t, ∀ k ∈ keys, x.attempted ≠ some k) : Progress first keys (s ++ t) w' := by
  refine h.append hp (fun x hx k hk hw => ht x hx k hk (Exchange.attempted_of_written hw)) ?_
  rintro ⟨x, hx, k, hk, -, hr⟩
  exact ht x hx k hk (Exchange.attempted_of_refused hr)

theorem append_quiet (h : Progress first keys s w) (hp : w.Passes o t w') (hq : QuietTrace t) :
    Progress first keys (s ++ t) w' :=
  h.append_of_not_attempted hp fun _ hx _ _ => hq.not_attempted hx

theorem untouched_of_first (h : Progress first keys s w) (hf : first ∈ keys) (hn : first ∉ w.tables.keys) :
    (∀ k ∈ keys, k ∉ w.tables.keys) ∧ ¬ LaterRefused first keys s := by
  cases h with
  | untouched hn hs => exact ⟨hn, hs⟩
  | complete ha => exact absurd (ha first hf) hn
  | torn hf => exact absurd hf hn

theorem all_iff (h : Progress first keys s w) (hf : first ∈ keys) (hs : first ∈ w.tables.keys) :
    (∀ k ∈ keys, k ∈ w.tables.keys) ↔ ¬ LaterRefused first keys s := by
  cases h with
  | untouched hn => exact absurd hs (hn first hf)
  | complete ha hr => exact ⟨fun _ => hr, fun _ => ha⟩
  | torn _ hn hr =>
    obtain ⟨k, hk, hnk⟩ := hn
    exact ⟨fun h => absurd (h k hk) hnk, fun h => absurd hr h⟩

end Progress

namespace Ingest

theorem Persisted.progress {r : Except DomainError EventOutcome} (h : Persisted target source m t r)
    (hp : w.Passes o t w') (hpr : Progress (target.inbox.id, source) (messageKeys target source m) s w) :
    Progress (target.inbox.id, source) (messageKeys target source m) (s ++ t) w' := by
  have hself := mem_messageKeys_self target source m
  cases h with
  | unread | found => exact hpr.append_quiet hp (List.forall_mem_singleton.2 rfl)
  | unresolved hq => exact hpr.append_quiet hp (hq.cons rfl)
  | beaten hq =>
    rw [← List.cons_append] at hp ⊢
    obtain ⟨w₁, hp₁, hp₂⟩ := hp.split
    rw [← List.append_assoc]
    refine (hpr.append_quiet hp₁ (hq.cons rfl)).append hp₂ (List.forall_mem_singleton.2 fun _ _ => nofun) ?_
    rintro ⟨x, hx, k, -, -, hr⟩
    cases List.mem_singleton.1 hx
    cases hr
  | refused hq hds hfirst =>
    rw [← List.cons_append] at hp ⊢
    obtain ⟨w₁, hp₁, hp₂⟩ := hp.split
    rw [← List.append_assoc]
    refine (hpr.append_quiet hp₁ (hq.cons rfl)).append hp₂ (List.forall_mem_singleton.2 fun _ _ => nofun) ?_
    rintro ⟨x, hx, k, -, hne, hr⟩
    cases List.mem_singleton.1 hx
    exact hne (hds.head ▸ Option.some.inj (hr.symm.trans hfirst))
  | @torn q q' t d ds error hq hds hq' hw =>
    -- The look-up missed the first message, so none was there; the one that is refused now stays out.
    obtain ⟨hn, hs⟩ := hpr.untouched_of_first hself (hp.not_mem_of_missed rfl)
    have hnodup : ((d :: ds).map Draft.key).Nodup := hds ▸ messageKeys_nodup target source m
    obtain ⟨hd, hnodup⟩ := List.nodup_cons.1 hnodup
    obtain ⟨x, hx, k, hr, hout⟩ := hw.missing hnodup
    have hk : k ∈ ds.map Draft.key := hw.attempted_mem hx (Exchange.attempted_of_refused hr)
    have hmem : k ∈ messageKeys target source m := hds ▸ List.mem_cons_of_mem d.key hk
    have hne : k ≠ d.key := fun he => hd (he ▸ hk)
    refine .torn (hp.shown (List.mem_cons_of_mem _ (List.mem_append_right _ List.mem_cons_self)) ?_) ⟨k, hmem, ?_⟩
      ⟨x, ?_, k, hmem, hds.head ▸ hne, hr⟩
    · exact congrArg some hds.head
    · rw [hp.mem_keys_iff]
      rintro (hk₀ | ⟨y, hy, hyk⟩)
      · exact hn k hmem hk₀
      · rcases (hq.cons rfl).attempted_cases hq' hy (Exchange.attempted_of_written hyk) with rfl | hy
        · exact hne (Option.some.inj hyk).symm
        · exact hout y hy hyk
    · simp [hx]
  | @created q q' t d ds messages count hq hds hq' hw =>
    obtain ⟨hn, hs⟩ := hpr.untouched_of_first hself (hp.not_mem_of_missed rfl)
    refine .complete (fun k hk => ?_) fun hlater => ?_
    · have hk' : k ∈ (d :: ds).map Draft.key := hds ▸ hk
      rcases List.mem_cons.1 hk' with rfl | hk'
      · exact hp.shown (List.mem_cons_of_mem _ (List.mem_append_right _ List.mem_cons_self)) rfl
      · obtain ⟨d', hd', rfl⟩ := List.mem_map.1 hk'
        obtain ⟨x, hx, hshown⟩ := hw.shown d' hd'
        exact hp.shown (by simp [hx]) hshown
    · rcases hlater.of_append with hlater | ⟨y, hy, k, -, -, hr⟩
      · exact hs hlater
      · rcases (hq.cons rfl).attempted_cases hq' hy (Exchange.attempted_of_refused hr) with rfl | hy
        · cases hr
        · exact hw.not_refused hy hr

/-- The event writes no message of the other one. -/
def Apart (e' e : IncomingEvent) (m : InboundMessage) : Prop :=
  ∀ m', e'.Accepted m' → ∀ id ∈ messageIds e'.sourceId m', id ∉ messageIds e.sourceId m

theorem Handled.progress {r : Except DomainError EventOutcome} (h : Handled target e t r) (hm : e.Accepted m)
    (hp : w.Passes o t w')
    (hpr : Progress (target.inbox.id, e.sourceId) (messageKeys target e.sourceId m) s w) :
    Progress (target.inbox.id, e.sourceId) (messageKeys target e.sourceId m) (s ++ t) w' := by
  cases h with
  | quiet hn => exact absurd hm (hn m)
  | unclaimed | denied =>
    exact hpr.append_of_not_attempted hp (List.forall_mem_singleton.2 fun _ _ => nofun)
  | granted hm' hpers =>
    cases hm.body.symm.trans hm'.body
    rw [← List.singleton_append] at hp
    obtain ⟨w₁, hp₁, hp⟩ := hp.split
    obtain ⟨w₂, hp₂, hp₃⟩ := hp.split
    have h₁ := hpr.append_of_not_attempted hp₁ (List.forall_mem_singleton.2 fun _ _ => nofun)
    have h₂ := hpers.progress hp₂ h₁
    have h₃ := h₂.append_of_not_attempted hp₃ (List.forall_mem_singleton.2 fun _ _ => nofun)
    simpa using h₃

theorem Handled.progress_of_apart {r : Except DomainError EventOutcome} (h : Handled target e' t r)
    (ha : Apart e' e m) (hp : w.Passes o t w')
    (hpr : Progress first (messageKeys target e.sourceId m) s w) :
    Progress first (messageKeys target e.sourceId m) (s ++ t) w' := by
  refine hpr.append_of_not_attempted hp fun x hx k hk hxk => ?_
  obtain ⟨m', hm', hk'⟩ := h.attempted_mem hx hxk
  obtain ⟨id, hid, rfl⟩ := List.mem_map.1 hk
  obtain ⟨id', hid', heq⟩ := List.mem_map.1 hk'
  obtain rfl : id' = id := (Prod.mk.inj heq).2
  exact ha m' hm' id' hid' hid

theorem HandledAll.stored {outcomes : List EventOutcome} (h : HandledAll target es t (.ok outcomes)) (he : e ∈ es)
    (hm : e.Accepted m) (ho : o.releases = false) (hp : w.Passes o t w')
    (hc : ¬ w.Claimed (target.channel.id, e.sourceId)) : (target.inbox.id, e.sourceId) ∈ w'.tables.keys := by
  generalize hr : (Except.ok outcomes : Except DomainError _) = r at h
  induction h generalizing w outcomes with
  | nil => cases he
  | stopped | stoppedLater => cases hr
  | cons h _ ih =>
    cases hr
    obtain ⟨w₁, hp₁, hp₂⟩ := hp.split
    rcases List.mem_cons.1 he with rfl | he
    · exact hp₂.mem_keys_iff.2 (.inl (h.stored hm hp₁ hc))
    · exact ih he hp₂ (h.not_claimed ho hp₁ hc) rfl

end Ingest

structure Between (target : ResolvedChannel) (e : IncomingEvent) (m : InboundMessage) (s : List Exchange) (w : World) :
    Prop where
  progress : Progress (target.inbox.id, e.sourceId) (messageKeys target e.sourceId m) s w
  free : ¬ w.Claimed (target.channel.id, e.sourceId)

theorem Between.kept (hm : e.Accepted m) (hes : ∀ e' ∈ es, e' ≠ e → Apart e' e m) (ho : o.releases = false) :
    Kept o target es (Between target e m) where
  quiet h hp hq := by
    refine ⟨h.progress.append_quiet hp hq, fun hc => ?_⟩
    rcases hp.claimed hc with hc | ⟨x, hx, hxc⟩
    · exact h.free hc
    · exact hq.not_granted x hx hxc
  handled {_ _ _ _ e' _} he' h hp hh := by
    refine ⟨?_, hh.not_claimed ho hp h.free⟩
    by_cases he : e' = e
    · subst he
      exact hh.progress hm hp h.progress
    · exact hh.progress_of_apart (hes e' he' he) hp h.progress

namespace Ingest

variable {cards : List ContactCard}

theorem forall_messageKeys_contacts {P : Snowflake × String → Prop} (hm : m.content = .contacts cards)
    (hne : cards ≠ []) :
    (∀ k ∈ messageKeys target source m, P k) ↔ ∀ i < cards.length, P (target.inbox.id, cardSourceId source i) := by
  constructor
  · intro h i hi
    exact h _ (List.mem_map.2 ⟨_, (mem_messageIds_contacts hm hne).2 ⟨i, hi, rfl⟩, rfl⟩)
  · intro h k hk
    obtain ⟨id, hid, rfl⟩ := List.mem_map.1 hk
    obtain ⟨i, hi, rfl⟩ := (mem_messageIds_contacts hm hne).1 hid
    exact h i hi

theorem laterRefused_contacts (hm : m.content = .contacts cards) (hne : cards ≠ []) :
    LaterRefused (target.inbox.id, source) (messageKeys target source m) t ↔
      ∃ x ∈ t, ∃ i, 0 < i ∧ i < cards.length ∧ x.refused = some (target.inbox.id, cardSourceId source i) := by
  constructor
  · rintro ⟨x, hx, k, hk, hkf, hr⟩
    obtain ⟨id, hid, rfl⟩ := List.mem_map.1 hk
    obtain ⟨i, hi, rfl⟩ := (mem_messageIds_contacts hm hne).1 hid
    refine ⟨x, hx, i, Nat.pos_of_ne_zero fun h0 => hkf ?_, hi, hr⟩
    rw [h0]
    rfl
  · rintro ⟨x, hx, i, hpos, hi, hr⟩
    refine ⟨x, hx, _, List.mem_map.2 ⟨_, (mem_messageIds_contacts hm hne).2 ⟨i, hi, rfl⟩, rfl⟩, fun hf => ?_, hr⟩
    have h0 : i = 0 := cardSourceId_inj (show cardSourceId source i = cardSourceId source 0 from (Prod.mk.inj hf).2)
    exact absurd h0 (Nat.ne_of_gt hpos)

end Ingest

/-- A run that is alone and was delivered has stored all cards of an accepted event, whose messages are new and written
by no other event, exactly if the store refused none of them but perhaps the first. -/
theorem run_stores_cards_iff {maxAttempts line : Nat} {out : JobRunner.JobOutput} {cards : List ContactCard}
    (h : (JobRunner.run maxAttempts line job).Yields t out) (hp : w.Passes { writes := true } t w')
    (hclaims : ∀ c, ¬ w.Claimed c) (hout : out.Delivered) (hroute : w.tables.route job = .active target)
    (he : e ∈ target.events job) (hm : e.Accepted m)
    (hcards : m.content = .contacts cards)
    (hnew : ∀ id ∈ messageIds e.sourceId m, (target.inbox.id, id) ∉ w.tables.keys)
    (hes : ∀ e' ∈ target.events job, e' ≠ e → Apart e' e m) :
    (∀ i < cards.length, (target.inbox.id, cardSourceId e.sourceId i) ∈ w'.tables.keys) ↔
      ¬ ∃ x ∈ t, ∃ i, 0 < i ∧ i < cards.length ∧
        x.refused = some (target.inbox.id, cardSourceId e.sourceId i) := by
  obtain ⟨report, hout, hskip⟩ := hout
  obtain ⟨r, hret, hr⟩ := JobRunner.run_yields h hp.fits
  cases hr report hout
  have hstart : Between target e m [] w := by
    refine ⟨.untouched (fun k hk => ?_) ?_, hclaims _⟩
    · obtain ⟨id, hid, rfl⟩ := List.mem_map.1 hk
      exact hnew id hid
    · rintro ⟨x, hx, -⟩
      cases hx
  have hkept : Kept { writes := true } target (target.events job) (Between target e m) := Between.kept hm hes rfl
  obtain ⟨t₁, t₂, w₁, outcomes, rfl, hb, hp₂, hall⟩ := hkept.last_attempt hstart hp hroute hret hskip
  have hend := hkept.handledAll hb hp₂ hall
  have hs := hall.stored he hm rfl hp₂ hb.free
  have hiff := hend.progress.all_iff (mem_messageKeys_self target e.sourceId m) hs
  by_cases hne : cards = []
  · subst hne
    exact ⟨fun _ ⟨_, _, _, _, hi, _⟩ => absurd hi (Nat.not_lt_zero _), fun _ i hi => absurd hi (Nat.not_lt_zero i)⟩
  · rw [forall_messageKeys_contacts hcards hne, laterRefused_contacts hcards hne] at hiff
    exact hiff

namespace Sample

def ada : ContactCard := { name := some "Ada", phones := ["15550003"] }

def grace : ContactCard := { name := some "Grace", phones := ["15550004"] }

/-- The job has one event, with two cards, and nothing is stored yet. -/
theorem cards_fresh (h : (target, e, m) ∈ world.tables.accepted cards) :
    m.content = .contacts [ada, grace] ∧
      (∀ id ∈ messageIds e.sourceId m, (target.inbox.id, id) ∉ world.tables.keys) ∧
      ∀ e' ∈ target.events cards, e' ≠ e → Apart e' e m := by
  have hall : ∀ p ∈ world.tables.accepted cards,
      (p.1.events cards).length = 1 ∧ p.2.2.content = .contacts [ada, grace] := by
    decide +kernel
  obtain ⟨hlen, hc⟩ := hall _ h
  have he := (Tables.mem_accepted_iff.1 h).2.1
  obtain ⟨e₀, hes⟩ := List.length_eq_one_iff.1 hlen
  refine ⟨hc, fun id _ => ?_, fun e' he' hne => ?_⟩
  · show _ ∉ (MemoryStore.seeded _).tables.keys
    rw [MemoryStore.seeded_keys]
    exact List.not_mem_nil
  · rw [hes, List.mem_singleton] at he he'
    exact absurd (he'.trans he.symm) hne

end Sample

/-- The first card is refused once; the retry writes both. -/
theorem retried_cards_stored :
    ∃ t out w' target e m, (JobRunner.run 3 1 Sample.cards).Yields t out ∧
      Sample.world.Passes { writes := true } t w' ∧ out.Delivered ∧
      (target, e, m) ∈ Sample.world.tables.accepted Sample.cards ∧
      (∀ i < 2, (target.inbox.id, cardSourceId e.sourceId i) ∈ w'.tables.keys) ∧
      ¬ ∃ x ∈ t, ∃ i, 0 < i ∧ i < 2 ∧ x.refused = some (target.inbox.id, cardSourceId e.sourceId i) := by
  have hplay : Sample.checks { writes := true } [{ request := "message.create", error := MemoryStore.writeFailure }]
      Sample.cards (fun target e w' => (List.range 2).all fun i =>
        w'.tables.keys.contains (target.inbox.id, cardSourceId e.sourceId i)) = true := by
    decide +kernel
  obtain ⟨t, out, w', target, e, m, hy, hp, hout, hmem, hall⟩ := Sample.exists_run hplay
  have hk : ∀ i < 2, (target.inbox.id, cardSourceId e.sourceId i) ∈ w'.tables.keys := fun i hi =>
    List.contains_iff_mem.1 (List.all_eq_true.1 hall i (List.mem_range.2 hi))
  obtain ⟨hroute, he, hm⟩ := Tables.mem_accepted_iff.1 hmem
  obtain ⟨hcards, hnew, hes⟩ := Sample.cards_fresh hmem
  refine ⟨t, out, w', target, e, m, hy, hp, hout, hmem, hk, ?_⟩
  exact (run_stores_cards_iff hy hp Sample.not_claimed hout hroute he hm hcards hnew hes).1 hk

/-- The second card is refused once; the retry finds the first one stored and leaves it at that. -/
theorem torn_cards_lose_one :
    (∀ c, ¬ Sample.world.Claimed c) ∧
      ∃ t out w' target e m cards, (JobRunner.run 3 1 Sample.cards).Yields t out ∧
        Sample.world.Passes { writes := true } t w' ∧ out.Delivered ∧
        Sample.world.tables.route Sample.cards = .active target ∧ e ∈ target.events Sample.cards ∧
        e.Accepted m ∧ m.content = .contacts cards ∧
        (∀ id ∈ messageIds e.sourceId m, (target.inbox.id, id) ∉ Sample.world.tables.keys) ∧
        (∀ e' ∈ target.events Sample.cards, e' ≠ e → Apart e' e m) ∧
        ∃ i < cards.length, (target.inbox.id, cardSourceId e.sourceId i) ∉ w'.tables.keys := by
  have hplay : Sample.checks { writes := true }
      [{ request := "message.create", skip := 1, error := MemoryStore.writeFailure }] Sample.cards
      (fun target e w' => decide ((target.inbox.id, cardSourceId e.sourceId 1) ∉ w'.tables.keys)) = true := by
    decide +kernel
  obtain ⟨t, out, w', target, e, m, hy, hp, hout, hmem, hk⟩ := Sample.exists_run hplay
  obtain ⟨hroute, he, hm⟩ := Tables.mem_accepted_iff.1 hmem
  obtain ⟨hcards, hnew, hes⟩ := Sample.cards_fresh hmem
  exact ⟨Sample.not_claimed, t, out, w', target, e, m, [Sample.ada, Sample.grace], hy, hp, hout, hroute, he, hm, hcards,
    hnew, hes, 1, Nat.lt_succ_self 1, of_decide_eq_true hk⟩

end Intake
