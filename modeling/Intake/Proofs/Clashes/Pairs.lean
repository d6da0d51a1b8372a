import Intake.Proofs.Clashes.Stored
import Intake.Proofs.Retry.Cards

/-!
# Two events one after the other

Two events of one inbox that have different ids leave each other alone, unless one of them has the id of a card of the
other: then the one that comes second is taken for a duplicate, or passes its card over (`handleBoth_stores_iff`).
-/

namespace Intake

open Ingest

namespace Ingest

/-- Handles an event and then another, whatever becomes of the first. -/
def handleBoth (target target' : ResolvedChannel) (e e' : IncomingEvent) :
    Program (Except DomainError EventOutcome × Except DomainError EventOutcome) := do
  let r ← (handleEvent target e).run
  let r' ← (handleEvent target' e').run
  return (r, r')

end Ingest

variable {fetch : Channel → MediaDescriptor → Option FetchedMedia} {w w₁ w' : World} {t : List Exchange}
  {target target' : ResolvedChannel} {e e' : IncomingEvent} {r r' : Except DomainError EventOutcome}

/-- The claim of the second event is as free after the first as before. -/
theorem World.Runs.settles_both (hr : w.Runs (.calm fetch) t w')
    (hy : (handleBoth target target' e e').Yields t (r, r')) (hw : w.Calm) (hroot : w.tables.Rooted)
    (hfree : ¬w.Claimed (target.channel.id, e.sourceId)) (hfree' : ¬w.Claimed (target'.channel.id, e'.sourceId)) :
    ∃ w₁, Settles target e w w₁ r ∧ Settles target' e' w₁ w' r' := by
  obtain ⟨t₁, r₁, t₂, rfl, h₁, h₂⟩ := Program.yields_bind.1 hy
  obtain ⟨t₃, r₂, t₄, rfl, h₃, rfl, heq⟩ := Program.yields_bind.1 h₂
  obtain ⟨rfl, rfl⟩ := Prod.mk.inj heq
  rw [List.append_nil] at hr
  obtain ⟨w₁, hr₁, hr₂⟩ := hr.split
  have hfree₁ : ¬w₁.Claimed (target'.channel.id, e'.sourceId) := fun hc =>
    hfree' (hr₁.claimed_of_bracketed (Conditions.calm_sparesGuard fetch) (handleEvent_yields h₁).bracketed hc nofun).1
  exact ⟨w₁, hr₁.settles h₁ hw hroot hfree, hr₂.settles h₃ (hr₁.calm hw) (hr₁.rooted hroot) hfree₁⟩

theorem filter_append_filter_eq_iff {α : Type} {p q : α → Bool} {l l' : List α} :
    l.filter p ++ l'.filter q = l ++ l' ↔ (∀ a ∈ l, p a = true) ∧ ∀ a ∈ l', q a = true := by
  constructor
  · intro h
    have hlength := congrArg List.length h
    have hle := List.length_filter_le p l
    have hle' := List.length_filter_le q l'
    rw [List.length_append, List.length_append] at hlength
    exact ⟨List.length_filter_eq_length_iff.1 (by omega), List.length_filter_eq_length_iff.1 (by omega)⟩
  · rintro ⟨hp, hq⟩
    rw [List.filter_eq_self.2 hp, List.filter_eq_self.2 hq]

theorem Settles.of_fresh (h : Settles target e w w₁ r) (hnew : (target.inbox.id, e.sourceId) ∉ w.tables.keys) :
    (∀ id, r ≠ .ok (.dropped id .duplicate)) ∧
      w₁.tables.keys = w.tables.keys ++ (e.ids.map (Prod.mk target.inbox.id)).filter (· ∉ w.tables.keys) := by
  cases h with
  | duplicate _ hmem => exact absurd hmem hnew
  | adds _ hr hkeys => exact ⟨hr, hkeys⟩

theorem Settles.mem_keys_iff (h : Settles target e w w₁ r) (hnew : (target.inbox.id, e.sourceId) ∉ w.tables.keys)
    {id : String} :
    (target.inbox.id, id) ∈ w₁.tables.keys ↔ (target.inbox.id, id) ∈ w.tables.keys ∨ id ∈ e.ids := by
  rw [(h.of_fresh hnew).2, List.mem_append, List.mem_filter]
  by_cases hid : (target.inbox.id, id) ∈ w.tables.keys <;> simp [hid]

theorem Settles.duplicate_iff (h : Settles target e w w₁ r) (h' : Settles target' e' w₁ w' r')
    (hne : e.sourceId ≠ e'.sourceId) (hinbox : target'.inbox.id = target.inbox.id)
    (hnew : (target.inbox.id, e.sourceId) ∉ w.tables.keys) (hnew' : (target.inbox.id, e'.sourceId) ∉ w.tables.keys) :
    (∃ id, r' = .ok (.dropped id .duplicate)) ↔ e.Shadows e' := by
  rw [IncomingEvent.shadows_iff hne]
  cases h' with
  | duplicate hself hmem =>
    rw [hinbox, h.mem_keys_iff hnew] at hmem
    exact iff_of_true ⟨_, rfl⟩ ⟨hmem.resolve_left hnew', hself⟩
  | adds hself hr =>
    refine iff_of_false (fun ⟨id, hid⟩ => hr id hid) fun ⟨hmem, hmem'⟩ => hself hmem' ?_
    rw [hinbox, h.mem_keys_iff hnew]
    exact .inr hmem

/-- Once both are settled, all messages of both are stored exactly if none was there and neither event has a message of
the other's id. -/
theorem Settles.keys_iff (h : Settles target e w w₁ r) (h' : Settles target' e' w₁ w' r')
    (hne : e.sourceId ≠ e'.sourceId) (hinbox : target'.inbox.id = target.inbox.id)
    (hnew : (target.inbox.id, e.sourceId) ∉ w.tables.keys) (hnew' : (target.inbox.id, e'.sourceId) ∉ w.tables.keys) :
    w'.tables.keys = w.tables.keys ++ (e.ids ++ e'.ids).map (Prod.mk target.inbox.id) ↔
      (∀ id ∈ e.ids ++ e'.ids, (target.inbox.id, id) ∉ w.tables.keys) ∧ ¬e.Shadows e' ∧ ¬e'.Shadows e := by
  have hkeys := (h.of_fresh hnew).2
  have hdup := h.duplicate_iff h' hne hinbox hnew hnew'
  cases h' with
  | duplicate hself _ hsame =>
    refine iff_of_false (fun hall => ?_) fun hall => hall.2.1 (hdup.1 ⟨_, rfl⟩)
    have hpos : 0 < e'.ids.length := List.length_pos_of_mem hself
    have hle := List.length_filter_le (· ∉ w.tables.keys) (e.ids.map (Prod.mk target.inbox.id))
    have hlength := congrArg List.length (hkeys.symm.trans (hsame.symm.trans hall))
    rw [List.length_append, List.length_append, List.length_map, List.length_append] at hlength
    rw [List.length_map] at hle
    omega
  | adds _ _ hkeys' =>
    rw [hkeys', hkeys, hinbox, List.append_assoc, List.append_cancel_left_eq, List.map_append, ← hkeys,
      filter_append_filter_eq_iff, ← IncomingEvent.disjoint_ids_iff hne]
    simp only [List.forall_mem_map, List.forall_mem_append, decide_eq_true_eq, h.mem_keys_iff hnew, not_or]
    constructor
    · rintro ⟨hfirst, hsecond⟩
      exact ⟨⟨hfirst, fun id hid => (hsecond id hid).1⟩, fun id hid => (hsecond id hid).2⟩
    · rintro ⟨⟨hfirst, hsecond⟩, hdisjoint⟩
      exact ⟨hfirst, fun id hid => ⟨hsecond id hid, hdisjoint id hid⟩⟩

/-- Two events of different ids, neither of which is stored, are handled one after the other while nothing fails. The
second is a duplicate exactly if the first one is made into a message of its id; and all messages of both are added
exactly if, besides, the second is not made into a message of the first one's id and no card of theirs is stored. -/
theorem handleBoth_stores_iff (hne : e.sourceId ≠ e'.sourceId) (hinbox : target'.inbox.id = target.inbox.id)
    (hw : w.Calm) (hroot : w.tables.Rooted) (hclock : (w.instant.deadline? w.guard.ttl).isSome = true)
    (hfree : ¬w.Claimed (target.channel.id, e.sourceId)) (hfree' : ¬w.Claimed (target'.channel.id, e'.sourceId))
    (hnew : (target.inbox.id, e.sourceId) ∉ w.tables.keys) (hnew' : (target.inbox.id, e'.sourceId) ∉ w.tables.keys) :
    (∃ t r r' w', (handleBoth target target' e e').Yields t (r, r') ∧ w.Runs (.calm fetch) t w') ∧
      ∀ t r r' w', (handleBoth target target' e e').Yields t (r, r') → w.Runs (.calm fetch) t w' →
        (∀ id, r ≠ .ok (.dropped id .duplicate)) ∧ ((∃ id, r' = .ok (.dropped id .duplicate)) ↔ e.Shadows e') ∧
          (w'.tables.keys = w.tables.keys ++ (e.ids ++ e'.ids).map (Prod.mk target.inbox.id) ↔
            (∀ id ∈ e.ids ++ e'.ids, (target.inbox.id, id) ∉ w.tables.keys) ∧ ¬e.Shadows e' ∧ ¬e'.Shadows e) := by
  refine ⟨?_, fun t r r' w' hy hr => ?_⟩
  · obtain ⟨t, ⟨r, r'⟩, w', hy, hr⟩ := World.exists_runs fetch (handleBoth target target' e e') hclock
    exact ⟨t, r, r', w', hy, hr⟩
  · obtain ⟨w₁, h, h'⟩ := hr.settles_both hy hw hroot hfree hfree'
    exact ⟨(h.of_fresh hnew).1, h.duplicate_iff h' hne hinbox hnew hnew', h.keys_iff h' hne hinbox hnew hnew'⟩

namespace Sample

/-- Two contacts shared in one message, and a text under another id. -/
def cardsAndText (id : String) : WebhookJob :=
  (WebhookJob.ofPayload (.object
    [("messages", .array
        [entry "wamid.1" "contacts" (.array [card "Ada" "15550003", card "Grace" "15550004"]),
          entry id "text" (.object [("body", .string "hello")])])])).withPhoneNumber "15550001"

/-- The events of a job with two of them, with its target. -/
def pair? (job : WebhookJob) : Option (ResolvedChannel × IncomingEvent × IncomingEvent) :=
  match world.tables.route job with
  | .active target =>
    match target.events job with
    | [e, e'] => some (target, e, e')
    | _ => none
  | _ => none

theorem world_rooted : world.tables.Rooted := by
  have hnone : world.tables.contactInboxes = [] := by decide +kernel
  intro l hl
  rw [hnone] at hl
  cases hl

theorem world_keys : world.tables.keys = [] := MemoryStore.seeded_keys _

end Sample

/-- The id would be that of a third card, and the event has two. -/
theorem neighbouring_event_stored : ∃ target e e' t r r' w',
    Sample.pair? (Sample.cardsAndText "wamid.1:2") = some (target, e, e') ∧
      (handleBoth target target e e').Yields t (r, r') ∧ Sample.world.Runs (.calm fun _ _ => none) t w' ∧
      (∀ id, r' ≠ .ok (.dropped id .duplicate)) ∧
      w'.tables.keys = ["wamid.1", "wamid.1:1", "wamid.1:2"].map (Prod.mk target.inbox.id) := by
  have hpair : (Sample.pair? (Sample.cardsAndText "wamid.1:2")).any (fun (_, e, e') => decide
      (e.sourceId ≠ e'.sourceId ∧ e.ids = ["wamid.1", "wamid.1:1"] ∧ e'.ids = ["wamid.1:2"])) = true := by
    decide +kernel
  obtain ⟨⟨target, e, e'⟩, hevents, hcheck⟩ := (Option.any_eq_true ..).1 hpair
  obtain ⟨hne, hids, hids'⟩ := of_decide_eq_true hcheck
  have hnew : ∀ k, k ∉ Sample.world.tables.keys := fun k => Sample.world_keys ▸ List.not_mem_nil
  have hapart : ¬e.Shadows e' ∧ ¬e'.Shadows e := by
    rw [← IncomingEvent.disjoint_ids_iff hne, hids, hids']
    decide
  obtain ⟨⟨t, r, r', w', hy, hr⟩, hall⟩ := @handleBoth_stores_iff (fun _ _ => none) _ target target e e' hne rfl
    ⟨rfl, rfl⟩ Sample.world_rooted (by decide) (Sample.not_claimed _) (Sample.not_claimed _) (hnew _) (hnew _)
  obtain ⟨-, hduplicate, hkeys⟩ := hall t r r' w' hy hr
  refine ⟨target, e, e', t, r, r', w', hevents, hy, hr, fun id hid => hapart.1 (hduplicate.1 ⟨id, hid⟩), ?_⟩
  rw [hkeys.2 ⟨fun _ _ => hnew _, hapart⟩, Sample.world_keys, hids, hids']
  rfl

/-- The text has the id of the second card. After the contacts it is taken for a duplicate; before them it keeps the
second card out. -/
theorem lookalike_event_suppressed : ∃ target e e' m m',
    Sample.pair? (Sample.cardsAndText "wamid.1:1") = some (target, e, e') ∧ e.Accepted m ∧ e'.Accepted m' ∧
      e.sourceId ≠ e'.sourceId ∧ m.content = .contacts [Sample.ada, Sample.grace] ∧
      Sample.world.Calm ∧ (∀ c, ¬Sample.world.Claimed c) ∧ Sample.world.tables.keys = [] ∧
      (∃ t r w', (handleBoth target target e e').Yields t (r, .ok (.dropped e'.sourceId .duplicate)) ∧
        Sample.world.Runs (.calm fun _ _ => none) t w' ∧
        w'.tables.keys = ["wamid.1", "wamid.1:1"].map (Prod.mk target.inbox.id)) ∧
      ∃ t r r' w', (handleBoth target target e' e).Yields t (r, r') ∧
        Sample.world.Runs (.calm fun _ _ => none) t w' ∧
        w'.tables.keys = ["wamid.1:1", "wamid.1"].map (Prod.mk target.inbox.id) := by
  have hplay : (Sample.pair? (Sample.cardsAndText "wamid.1:1")).any (fun (target, e, e') =>
      e.accepted?.any fun m => e'.accepted?.any fun _ =>
        ((Replay.calm fun _ _ => none).run? [] (handleBoth target target e e') Sample.world).any fun after =>
          ((Replay.calm fun _ _ => none).run? [] (handleBoth target target e' e) Sample.world).any fun before => decide
            (e.sourceId ≠ e'.sourceId ∧ m.content = .contacts [Sample.ada, Sample.grace] ∧
              after.2.1.2 = .ok (.dropped e'.sourceId .duplicate) ∧
              after.2.2.tables.keys = ["wamid.1", "wamid.1:1"].map (Prod.mk target.inbox.id) ∧
              before.2.2.tables.keys = ["wamid.1:1", "wamid.1"].map (Prod.mk target.inbox.id))) = true := by
    decide +kernel
  obtain ⟨⟨target, e, e'⟩, hevents, hplay⟩ := (Option.any_eq_true ..).1 hplay
  obtain ⟨m, hm, hplay⟩ := (Option.any_eq_true ..).1 hplay
  obtain ⟨m', hm', hplay⟩ := (Option.any_eq_true ..).1 hplay
  obtain ⟨⟨t, ⟨r, r'⟩, w'⟩, hafter, hplay⟩ := (Option.any_eq_true ..).1 hplay
  obtain ⟨⟨t₁, ⟨r₁, r₁'⟩, w₁⟩, hbefore, hcheck⟩ := (Option.any_eq_true ..).1 hplay
  obtain ⟨hne, hcards, hr', hkeys, hkeys₁⟩ := of_decide_eq_true hcheck
  obtain ⟨hy, hr⟩ := World.runs_of_calm hafter
  obtain ⟨hy₁, hr₁⟩ := World.runs_of_calm hbefore
  obtain rfl : r' = .ok (.dropped e'.sourceId .duplicate) := hr'
  exact ⟨target, e, e', m, m', hevents, IncomingEvent.accepted?_eq_some_iff.1 hm,
    IncomingEvent.accepted?_eq_some_iff.1 hm', hne, hcards, ⟨rfl, rfl⟩, Sample.not_claimed, Sample.world_keys,
    ⟨t, r, w', hy, hr, hkeys⟩, t₁, r₁, r₁', w₁, hy₁, hr₁, hkeys₁⟩

end Intake
