import Intake.Proofs.Concurrent.NoLoss
import Intake.Proofs.Conversations.Looking
import Intake.Proofs.Conversations.Threads
import Intake.Proofs.Integrity.Reached

/-!
# Two deliveries that open conversations of one contact

In a locked inbox a message opens a conversation only if its contact inbox has none. The look-up and the opening are two
requests, so two deliveries that have both looked before either has opened will both open (`Pool.seekers`). This is the
only way to a second conversation: conversations and seekers together grow by one when a look-up finds nothing, and by
nothing else (`Pool.Step.threads_add_seekers`). So as long as no two deliveries seek a conversation for the same contact
inbox there is at most one conversation in it, and once two do there will be two.
-/

namespace Intake

open JobRunner (JobOutput)

namespace Delivery

/-- The delivery has found the contact inbox without a conversation, and has not yet opened one. -/
def seeks (d : JobDelivery) (link : Snowflake) : Bool := (Hand.of d.log).vacant = some link

end Delivery

namespace Pool

variable {o : Outage} {tb : Tables} {P P' : Pool QueuedJob JobOutput} {link : Snowflake}

/-- How many deliveries seek a conversation for the contact inbox. -/
def seekers (P : Pool QueuedJob JobOutput) (link : Snowflake) : Nat := P.deliveries.countP (·.seeks link)

/-- No two deliveries seek a conversation for the same contact inbox. -/
def Uncrowded (P : Pool QueuedJob JobOutput) : Prop := ∀ link, P.seekers link ≤ 1

theorem uncrowded_iff : P.Uncrowded ↔ (P.deliveries.filterMap fun d => (Hand.of d.log).vacant).Nodup := by
  simp only [List.nodup_iff_count_le_one, List.count_filterMap, beq_eq_decide]
  rfl

instance (P : Pool QueuedJob JobOutput) : Decidable P.Uncrowded := decidable_of_iff _ uncrowded_iff.symm

/-- Steps after each of which no two deliveries seek a conversation for the same contact inbox. -/
def ReachesUncrowded (o : Outage) : Pool QueuedJob JobOutput → Pool QueuedJob JobOutput → Prop :=
  Relation.ReflTransGen fun P P' => Step o P P' ∧ P'.Uncrowded

theorem ReachesUncrowded.reaches (h : ReachesUncrowded o P P') : Reaches o P P' := by
  induction h with
  | refl => exact .refl
  | tail _ hs ih => exact ih.tail hs.1

/-- All jobs that have a channel to go to go to locked inboxes. -/
def Locked (tb : Tables) (P : Pool QueuedJob JobOutput) : Prop := ∀ d ∈ P.deliveries, tb.joinable d.job.job = .any

theorem Locked.step (h : Locked tb P) (hs : Step o P P') : Locked tb P' := by
  cases hs with
  | @advance w w' before after job log r b next ha =>
    intro d hd
    rcases mem_turn ⟨job, log, .ask r next⟩ hd with rfl | hmem
    · exact h ⟨job, log, .ask r next⟩ mem_middle
    · exact h d hmem
  | lapse => exact h

theorem Locked.reached (h : Locked tb P) (hr : Reaches o P P') : Locked tb P' := by
  induction hr with
  | refl => exact h
  | tail _ hs ih => exact ih.step hs

theorem Locked.start {w : World} {jobs : List QueuedJob}
    (h : ∀ q ∈ jobs, ∀ target, w.tables.route q.job = .active target → target.inbox.lockToSingleConversation = true) :
    Locked w.tables (Pool.start w QueuedJob.program jobs) := by
  intro d hd
  obtain ⟨q, hq, rfl⟩ := List.mem_map.1 hd
  show w.tables.joinable q.job = .any
  unfold Tables.joinable
  split
  · next target hroute =>
    rw [Inbox.joinable, h q hq target hroute]
    rfl
  · rfl

/-- The next exchange of a delivery whose inbox is locked, with what it seeks before and after. -/
theorem Traced.looking (hP : P.Traced QueuedJob.program tb) (hl : Locked tb P) {job : QueuedJob} {log : List Exchange}
    {r : Request} {b : r.Reply} {next : r.Reply → Program JobOutput} (hd : ⟨job, log, .ask r next⟩ ∈ P.deliveries)
    (hb : Exchange.Fits tb ⟨r, b⟩) :
    Looking .any (Hand.of log).vacant [⟨r, b⟩] (Hand.of (log ++ [⟨r, b⟩])).vacant := by
  obtain ⟨t, a, hy, hfits⟩ := hP.complete hd hb
  have hlooking := JobRunner.run_looking hy hfits
  rw [hl _ hd] at hlooking
  exact hlooking.next

theorem Traced.not_seeks (hP : P.Traced QueuedJob.program tb) {d : JobDelivery} (hd : d ∈ P.deliveries)
    {out : JobOutput} (hdone : d.rest = .done out) (link : Snowflake) : d.seeks link = false := by
  have hy : (QueuedJob.program d.job).Yields (d.log ++ []) out := by
    refine (hP.reaches d hd).yields ?_
    rw [hdone]
    exact ⟨rfl, rfl⟩
  rw [List.append_nil] at hy
  have hnone := (JobRunner.run_looking hy (hP.fits d hd)).vacant_of
  rw [Delivery.seeks, hnone]
  rfl

theorem seekers_middle (w : World) (before after : List (Delivery QueuedJob JobOutput))
    (d : Delivery QueuedJob JobOutput) (link : Snowflake) :
    seekers ⟨w, before ++ d :: after⟩ link =
      before.countP (·.seeks link) + after.countP (·.seeks link) +
        if (Hand.of d.log).vacant = some link then 1 else 0 := by
  have hone : (if d.seeks link = true then 1 else 0) = if (Hand.of d.log).vacant = some link then 1 else 0 := by
    simp only [Delivery.seeks, decide_eq_true_eq]
  rw [seekers, List.countP_append, List.countP_cons, hone]
  omega

/-- A step keeps the number of conversations and seekers of a contact inbox, unless a delivery has just found the
contact inbox without a conversation: then that delivery seeks one too. -/
theorem Step.threads_add_seekers (h : Step o P P') (hP : P.Traced QueuedJob.program tb) (hl : Locked tb P)
    (link : Snowflake) :
    (P'.world.tables.threads link + P'.seekers link = P.world.tables.threads link + P.seekers link ∧
        P.world.tables.threads link ≤ P'.world.tables.threads link) ∨
      P.world.tables.threads link = 0 ∧ P'.world.tables.threads link = 0 ∧ P'.seekers link = P.seekers link + 1 := by
  cases h with
  | @advance w w' before after job log r b next ha =>
    have hx : Looking .any (Hand.of log).vacant [⟨r, b⟩] (Hand.of (log ++ [⟨r, b⟩])).vacant :=
      hP.looking hl mem_middle (ha.fits.congr hP.tenants.symm)
    have hthreads : w'.tables.threads link =
        w.tables.threads link + (Exchange.opened ⟨r, b⟩).toList.countP (·.contactInbox = link) := by
      rw [Tables.threads, ha.conversations, List.countP_append]
      rfl
    have hsame (hopened : Exchange.opened ⟨r, b⟩ = none) : w'.tables.threads link = w.tables.threads link := by
      rw [hthreads, hopened]
      rfl
    rw [seekers_middle, seekers_middle]
    dsimp only
    generalize (Hand.of log).vacant = v at hx ⊢
    generalize (Hand.of (log ++ [⟨r, b⟩])).vacant = v' at hx ⊢
    cases hx with
    | @vacant found _ _ hnil =>
      cases hnil
      have hsame := hsame rfl
      by_cases hlink : found = link
      · subst hlink
        have hnone : w.tables.threads found = 0 :=
          Tables.threads_eq_zero_iff.2 (Except.ok.inj ha.findConversation).symm
        exact .inr ⟨hnone, hsame.trans hnone, by simp⟩
      · exact .inl ⟨by simp [hlink, hsame], Nat.le_of_eq hsame.symm⟩
    | newId hnil | now hnil =>
      cases hnil
      exact .inl ⟨by rw [hsame rfl], Nat.le_of_eq (hsame rfl).symm⟩
    | @opens c _ _ _ _ hnil =>
      cases hnil
      obtain rfl := ha.createConversation
      have hone : w'.tables.threads link = w.tables.threads link + if c.contactInbox = link then 1 else 0 := by
        rw [hthreads]
        simp [Exchange.opened, List.countP_cons]
      refine .inl ⟨?_, by omega⟩
      simp only [hone, Option.some.injEq, reduceCtorEq, if_false]
      omega
    | other hseeks hnil =>
      cases hnil
      have hopened : Exchange.opened ⟨r, b⟩ = none := by
        cases r with
        | createConversation => cases hseeks
        | _ => rfl
      exact .inl ⟨by rw [hsame hopened], Nat.le_of_eq (hsame hopened).symm⟩
  | lapse => exact .inl ⟨rfl, Nat.le_refl _⟩

theorem Reaches.threads_mono (h : Reaches o P P') (hP : P.Traced QueuedJob.program tb) (hl : Locked tb P)
    (link : Snowflake) :
    P.world.tables.threads link + P.seekers link ≤ P'.world.tables.threads link + P'.seekers link ∧
      P.world.tables.threads link ≤ P'.world.tables.threads link := by
  induction h with
  | refl => exact ⟨Nat.le_refl _, Nat.le_refl _⟩
  | tail hr hs ih =>
    obtain ⟨hsum, hthreads⟩ := ih
    rcases hs.threads_add_seekers (hP.reached hr) (hl.reached hr) link with ⟨heq, hle⟩ | ⟨h₀, h₁, heq⟩ <;>
      omega

theorem exists_opening {w : World} {before after : List (Delivery QueuedJob JobOutput)} {job : QueuedJob}
    {log : List Exchange} {rest : Program JobOutput}
    (hP : Traced QueuedJob.program tb ⟨w, before ++ ⟨job, log, rest⟩ :: after⟩)
    (hl : Locked tb ⟨w, before ++ ⟨job, log, rest⟩ :: after⟩) (hs : (Hand.of log).vacant = some link) :
    ∃ P', Reaches o ⟨w, before ++ ⟨job, log, rest⟩ :: after⟩ P' ∧
      P'.world.tables.threads link = w.tables.threads link + 1 := by
  induction rest generalizing w log with
  | done out =>
    have hnot := hP.not_seeks mem_middle rfl link
    rw [Delivery.seeks, hs, decide_eq_false_iff_not] at hnot
    exact absurd rfl hnot
  | ask r next ih =>
    -- The request is one of those that lead to the opening, and these can be answered at once.
    obtain ⟨b, hb⟩ := Exchange.exists_fits tb r
    have hx : Looking .any (some link) [⟨r, b⟩] _ := hs ▸ hP.looking hl mem_middle hb
    have hstep {b : r.Reply} {w' : World} (ha : w.answer? 0 none r = some (b, w')) :
        Step o ⟨w, before ++ ⟨job, log, .ask r next⟩ :: after⟩
          ⟨w', before ++ ⟨job, log ++ [⟨r, b⟩], next b⟩ :: after⟩ :=
      .advance (.of_answer? ha)
    have hlater {b : r.Reply} {w' : World} (ha : w.answer? 0 none r = some (b, w')) (hw : w'.tables = w.tables)
        (hv : (Hand.of (log ++ [⟨r, b⟩])).vacant = some link) :
        ∃ P', Reaches o ⟨w, before ++ ⟨job, log, .ask r next⟩ :: after⟩ P' ∧
          P'.world.tables.threads link = w.tables.threads link + 1 := by
      obtain ⟨P', hr, ht⟩ := ih b (hP.step (hstep ha)) (hl.step (hstep ha)) hv
      exact ⟨P', .head (hstep ha) hr, hw ▸ ht⟩
    generalize (Hand.of (log ++ [⟨r, b⟩])).vacant = v' at hx
    cases hx with
    | newId | now => exact hlater rfl rfl (by rw [Hand.of_concat]; exact hs)
    | @opens c =>
      refine ⟨_, .single (hstep rfl), ?_⟩
      show (w.tables.conversations ++ [c]).countP (·.contactInbox = c.contactInbox) = _
      rw [List.countP_append, ← Tables.threads, List.countP_singleton]
      simp

theorem seekers_start (w : World) (jobs : List QueuedJob) : (start w QueuedJob.program jobs).seekers link = 0 := by
  rw [seekers, List.countP_eq_zero]
  intro d hd
  obtain ⟨q, -, rfl⟩ := List.mem_map.1 hd
  exact Bool.false_ne_true

/-- While deliveries are not crowded, a contact inbox has a conversation, or is sought one for, or neither. -/
theorem ReachesUncrowded.threads_add_seekers (h : ReachesUncrowded o P P') (hP : P.Traced QueuedJob.program tb)
    (hl : Locked tb P) (h₀ : ∀ link, P.world.tables.threads link + P.seekers link ≤ 1) :
    ∀ link, P'.world.tables.threads link + P'.seekers link ≤ 1 := by
  induction h with
  | refl => exact h₀
  | tail hr hs ih =>
    intro link
    have hone := ih link
    have hfew := hs.2 link
    rcases hs.1.threads_add_seekers (hP.reached (reaches hr)) (hl.reached (reaches hr)) link with
      ⟨heq, -⟩ | ⟨-, hnone, -⟩ <;> omega

theorem exists_thread (hP : P.Traced QueuedJob.program tb) (hl : Locked tb P) (hs : 0 < P.seekers link) :
    ∃ P', Reaches o P P' ∧ P'.world.tables.threads link = P.world.tables.threads link + 1 := by
  obtain ⟨w, ds⟩ := P
  obtain ⟨⟨job, log, rest⟩, hd, hseeks⟩ := List.countP_pos_iff.1 hs
  obtain ⟨before, after, rfl⟩ := List.append_of_mem hd
  exact exists_opening hP hl (of_decide_eq_true hseeks)

theorem exists_two_threads (hP : P.Traced QueuedJob.program tb) (hl : Locked tb P) (hs : 2 ≤ P.seekers link) :
    ∃ P', Reaches o P P' ∧ 2 ≤ P'.world.tables.threads link := by
  obtain ⟨P₁, hr₁, ht₁⟩ := exists_thread (o := o) hP hl (Nat.lt_of_succ_lt hs)
  obtain ⟨hsum, -⟩ := hr₁.threads_mono hP hl link
  by_cases htwo : 2 ≤ P₁.world.tables.threads link
  · exact ⟨P₁, hr₁, htwo⟩
  · have hmore : 0 < P₁.seekers link := by omega
    obtain ⟨P₂, hr₂, ht₂⟩ := exists_thread (o := o) (hP.reached hr₁) (hl.reached hr₁) hmore
    exact ⟨P₂, hr₁.trans hr₂, by omega⟩

theorem Traced.seekers_of_done (hP : P.Traced QueuedJob.program tb) (hdone : ∀ d ∈ P.deliveries, d.result?.isSome)
    (link : Snowflake) : P.seekers link = 0 := by
  rw [seekers, List.countP_eq_zero]
  intro d hd
  obtain ⟨out, hout⟩ := Option.isSome_iff_exists.1 (hdone d hd)
  rw [hP.not_seeks hd (Delivery.result?_eq_some.1 hout) link]
  exact Bool.false_ne_true

end Pool

/-- In a locked inbox a contact inbox has at most one conversation as long as no two deliveries have both found it
without one and not yet opened theirs. From the moment that two have, there is a way on to two conversations, and there
are two when all deliveries are done, whichever way they go on. -/
theorem locked_threads_unless_crowded {o : Outage} {w : World} {jobs : List QueuedJob}
    (hlock : ∀ q ∈ jobs, ∀ target, w.tables.route q.job = .active target →
      target.inbox.lockToSingleConversation = true)
    (hfirst : ∀ link, w.tables.threads link ≤ 1) :
    (∀ P, Pool.ReachesUncrowded o (.start w QueuedJob.program jobs) P → ∀ link, P.world.tables.threads link ≤ 1) ∧
    ∀ P link, Pool.Reaches o (.start w QueuedJob.program jobs) P → 2 ≤ P.seekers link →
      (∃ P', Pool.Reaches o P P' ∧ 2 ≤ P'.world.tables.threads link) ∧
      ∀ P', Pool.Reaches o P P' → (∀ d ∈ P'.deliveries, d.result?.isSome) → 2 ≤ P'.world.tables.threads link := by
  have hP : (Pool.start w QueuedJob.program jobs).Traced QueuedJob.program w.tables := .start w _ jobs
  have hl : Pool.Locked w.tables (.start w QueuedJob.program jobs) := .start hlock
  refine ⟨fun P hr link => ?_, fun P link hr htwo => ⟨?_, fun P' hr' hdone => ?_⟩⟩
  · have hone := hr.threads_add_seekers hP hl (fun link => by rw [Pool.seekers_start]; exact hfirst link) link
    omega
  · exact Pool.exists_two_threads (hP.reached hr) (hl.reached hr) htwo
  · obtain ⟨hsum, -⟩ := hr'.threads_mono (hP.reached hr) (hl.reached hr) link
    have hnone := Pool.Traced.seekers_of_done ((hP.reached hr).reached hr') hdone link
    omega

namespace Sample

/-- The channel's inbox is locked. -/
def lockedWorld : World :=
  { world with store := { world.store with tables := { world.tables with
      inboxes := world.tables.inboxes.map fun i => { i with lockToSingleConversation := true } } } }

/-- Two first messages of one sender. -/
def firstMessages : List QueuedJob :=
  [⟨1, 1, message "15550001" "wamid.1" "15550002" "text" (.object [("body", .string "hello")])⟩,
    ⟨1, 2, message "15550001" "wamid.2" "15550002" "text" (.object [("body", .string "are you there?")])⟩]

theorem lockedWorld_locked (job : WebhookJob) (target : ResolvedChannel)
    (h : lockedWorld.tables.route job = .active target) : target.inbox.lockToSingleConversation = true := by
  have hall : lockedWorld.tables.inboxes.all (·.lockToSingleConversation) = true := by decide +kernel
  exact List.all_eq_true.1 hall _ (Tables.findInbox_eq_some (Tables.findInbox_of_route h)).1

theorem lockedWorld_threads (link : Snowflake) : lockedWorld.tables.threads link ≤ 1 := by
  have hnone : lockedWorld.tables.conversations = [] := rfl
  rw [Tables.threads, hnone]
  exact Nat.zero_le _

end Sample

namespace Pool

/-- Takes turns, as long as deliveries are not crowded. -/
def playUncrowded? : List Nat → Pool QueuedJob JobOutput → Option (Pool QueuedJob JobOutput)
  | [], P => some P
  | k :: ks, P => (turn? (Outage.replay {}) (Fault.take · []) P.world P.deliveries k).bind fun (w, ds, _) =>
    if Uncrowded ⟨w, ds⟩ then playUncrowded? ks ⟨w, ds⟩ else none

theorem reachesUncrowded_of_play {ks : List Nat} {P P' : Pool QueuedJob JobOutput}
    (h : playUncrowded? ks P = some P') : ReachesUncrowded {} P P' := by
  induction ks generalizing P with
  | nil =>
    cases h
    exact .refl
  | cons k ks ih =>
    obtain ⟨⟨w, ds, faults⟩, hturn, hplay⟩ := Option.bind_eq_some_iff.1 h
    dsimp only at hplay
    split at hplay
    · next hfew => exact .head ⟨advance_of_turn? hturn, hfew⟩ (ih hplay)
    · cases hplay

end Pool

/-- The second message is looked up while the first one's conversation is being opened, and joins it. -/
theorem interleaved_first_messages_join :
    ∃ P, Pool.ReachesUncrowded {} (.start Sample.lockedWorld QueuedJob.program Sample.firstMessages) P ∧
      (P.world.tables.messages.length = 2 ∧ ∀ d ∈ P.deliveries, d.result?.isSome) ∧
      ∀ link, P.world.tables.threads link ≤ 1 := by
  have hplay : (Pool.playUncrowded? (List.replicate 6 0 ++ List.replicate 6 1 ++ List.replicate 4 0 ++
      List.replicate 5 1 ++ List.replicate 4 0)
      (.start Sample.lockedWorld QueuedJob.program Sample.firstMessages)).any (fun P => decide
        (P.world.tables.messages.length = 2 ∧ ∀ d ∈ P.deliveries, d.result?.isSome)) = true := by
    decide +kernel
  obtain ⟨P, hp, hc⟩ := (Option.any_eq_true ..).1 hplay
  have hr := Pool.reachesUncrowded_of_play hp
  exact ⟨P, hr, of_decide_eq_true hc, (locked_threads_unless_crowded (fun q _ => Sample.lockedWorld_locked q.job)
    Sample.lockedWorld_threads).1 P hr⟩

/-- Both messages find their contact without a conversation, and both open one. -/
theorem racing_first_messages_open_two :
    (∀ q ∈ Sample.firstMessages, ∀ target, Sample.lockedWorld.tables.route q.job = .active target →
      target.inbox.lockToSingleConversation = true) ∧
    (∀ link, Sample.lockedWorld.tables.threads link ≤ 1) ∧
    ∃ P, Pool.Reaches {} (.start Sample.lockedWorld QueuedJob.program Sample.firstMessages) P ∧
      (∀ d ∈ P.deliveries, d.result?.isSome) ∧
      ∃ link ∈ P.world.tables.contactInboxes, P.world.tables.threads link.id = 2 := by
  have hplay : (Pool.play {} [] (List.replicate 7 0 ++ List.replicate 7 1 ++ List.replicate 7 0 ++ List.replicate 7 1)
      (.start Sample.lockedWorld QueuedJob.program Sample.firstMessages)).any (fun P => decide
        ((∀ d ∈ P.deliveries, d.result?.isSome) ∧
          ∃ link ∈ P.world.tables.contactInboxes, P.world.tables.threads link.id = 2)) = true := by
    decide +kernel
  obtain ⟨P, hr, hc⟩ := Pool.exists_play hplay
  exact ⟨fun q _ => Sample.lockedWorld_locked q.job, Sample.lockedWorld_threads, P, hr, of_decide_eq_true hc⟩

end Intake
