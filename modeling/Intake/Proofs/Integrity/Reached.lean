import Intake.Proofs.Integrity.Handling
import Intake.Proofs.Integrity.Step
import Intake.Proofs.World.Play
import Mathlib.Algebra.BigOperators.Group.List.Basic

/-!
# Every reachable store is in order

`Pool.Reached` are the pools that come about from an empty store: channels are seeded, jobs arrive at any time and take
turns in any order, requests may be refused, time passes, conversations are resolved, and locks, accounts and channels
change. In all of them the tables have `Tables.Integrity` (`reached_integrity`).
-/

namespace Intake

/-- What others than deliveries do to a store. -/
inductive MemoryStore.Changes (s : MemoryStore) : MemoryStore → Prop
  | resolve : Changes s { s with tables := s.tables.resolveConversations }
  | lock (inbox : Snowflake) (lock : Bool) : Changes s { s with tables := s.tables.setLock inbox lock }
  | stand (account : Snowflake) (status : AccountStatus) :
    Changes s { s with tables := s.tables.setAccountStatus account status }
  | authorize (channel : Snowflake) (required : Bool) :
    Changes s { s with tables := s.tables.setReauthorizationRequired channel required }
  | fail (lookups writes : Nat) : Changes s { s with failingLookups := lookups, failingWrites := writes }

namespace Pool

/-- The pool comes about from an empty store with `n` requests and seeded channels, while the clock is before the
horizon of ids. -/
inductive Reached : Nat → Pool WebhookJob (Except DomainError IngestReport) → Prop
  | empty {guard : MemoryGuard} {ids : Snowflake.Generator} {instant : Instant} :
    0 < guard.ttl → guard.claims = [] → ids.last = 0 → Reached 0 ⟨{ store := {}, guard, ids, instant }, []⟩
  | seed {n : Nat} {w : World} {ds : List (Delivery WebhookJob (Except DomainError IngestReport))} {clock : Time}
    (provider : Provider) (phone : String) (credentials : Credentials) :
    Reached n ⟨w, ds⟩ → clock < Snowflake.horizon →
      Reached (n + 1) ⟨{ w with store := w.store.addChannel clock provider phone credentials }, ds⟩
  | arrive {n : Nat} {w : World} {ds : List (Delivery WebhookJob (Except DomainError IngestReport))}
    (job : WebhookJob) : Reached n ⟨w, ds⟩ → Reached n ⟨w, ds ++ [⟨job, [], (perform job).run⟩]⟩
  | turn {n : Nat} {w w' : World} {before after : List (Delivery WebhookJob (Except DomainError IngestReport))}
    {job : WebhookJob} {log : List Exchange} {r : Request} {b : r.Reply}
    {next : r.Reply → Program (Except DomainError IngestReport)} :
    Reached n ⟨w, before ++ ⟨job, log, .ask r next⟩ :: after⟩ → w.Deals {} r b w' →
      Reached (n + 1) ⟨w', before ++ ⟨job, log ++ [⟨r, b⟩], next b⟩ :: after⟩
  | wait {n : Nat} {w : World} {ds : List (Delivery WebhookJob (Except DomainError IngestReport))} {now : Instant} :
    Reached n ⟨w, ds⟩ → w.instant ≤ now → Reached n ⟨w.later now, ds⟩
  | change {n : Nat} {w : World} {ds : List (Delivery WebhookJob (Except DomainError IngestReport))}
    {store : MemoryStore} : Reached n ⟨w, ds⟩ → w.store.Changes store → Reached n ⟨{ w with store }, ds⟩

end Pool

namespace MemoryStore

variable {s s' : MemoryStore} {clock : Time} {provider : Provider} {phone : String} {credentials : Credentials}

theorem Changes.adds (h : s.Changes s') : s.tables.Adds {} s'.tables ∧ s'.ids = s.ids := by
  cases h with
  | resolve =>
    refine ⟨.of_core_eq ?_, rfl⟩
    simp only [Tables.core, Tables.resolveConversations, Tables.records, List.map_map]
    rfl
  | lock inbox lock =>
    have hplaces : (s.tables.setLock inbox lock).inboxes.map Inbox.place = s.tables.inboxes.map Inbox.place :=
      Tables.map_modifyFirst (f := fun i : Inbox => { i with lockToSingleConversation := lock }) (fun _ => rfl) _
    refine ⟨.of_core_eq ?_, rfl⟩
    rw [Tables.core, hplaces]
    rfl
  | authorize channel required =>
    have hlines : (s.tables.setReauthorizationRequired channel required).channels.map Channel.line =
        s.tables.channels.map Channel.line :=
      Tables.map_modifyFirst (f := fun c : Channel => { c with reauthorizationRequired := required }) (fun _ => rfl) _
    refine ⟨.of_core_eq ?_, rfl⟩
    rw [Tables.core, hlines]
    rfl
  | stand | fail => exact ⟨.of_core_eq rfl, rfl⟩

theorem addChannel_adds (s : MemoryStore) (clock : Time) (provider : Provider) (phone : String)
    (credentials : Credentials) : ∃ c i, c.id = (s.ids.generate clock).1 ∧
      i.id = (((s.ids.generate clock).2.generate clock).2.generate clock).1 ∧ i.channel = c.id ∧
      i.account = c.account ∧
      s.tables.Adds { channels := [c], inboxes := [i] } (s.addChannel clock provider phone credentials).tables := by
  let id := (s.ids.generate clock).1
  let ids := (s.ids.generate clock).2
  let account := (ids.generate clock).1
  let inbox := ((ids.generate clock).2.generate clock).1
  refine ⟨{ id, account, provider, phoneNumber := phone, credentials },
    { id := inbox, account, channel := id, name := "WhatsApp " ++ phone, lockToSingleConversation := false },
    rfl, rfl, rfl, rfl, ?_⟩
  simp [Tables.Adds, Tables.append, Tables.core, Tables.records, addChannel, newId, Tables.setAccountStatus, id, ids,
    account, inbox]

theorem stamp_lt_addChannel : s.ids.stamp < (s.addChannel clock provider phone credentials).ids.stamp :=
  Int.lt_trans (Int.lt_trans Snowflake.Generator.stamp_lt_generate Snowflake.Generator.stamp_lt_generate)
    (Snowflake.Generator.stamp_lt_generate (g := ((s.ids.generate clock).2.generate clock).2))

theorem stamp_addChannel_le {n : Nat} (hc : clock < Snowflake.horizon) (h : s.ids.stamp ≤ 2 ^ 53 + n) :
    (s.addChannel clock provider phone credentials).ids.stamp ≤ 2 ^ 53 + (n + 3 : Nat) := by
  have hone : (s.ids.generate clock).2.stamp ≤ 2 ^ 53 + (n + 1 : Nat) :=
    Snowflake.Generator.stamp_generate_le hc (by omega) (by omega)
  have htwo : ((s.ids.generate clock).2.generate clock).2.stamp ≤ 2 ^ 53 + (n + 2 : Nat) :=
    Snowflake.Generator.stamp_generate_le hc (by omega) (by omega)
  exact Snowflake.Generator.stamp_generate_le (g := ((s.ids.generate clock).2.generate clock).2) hc (by omega)
    (by omega)

end MemoryStore

namespace World

variable {w w' : World} {held : Multiset Snowflake} {clock : Time} {provider : Provider} {phone : String}
  {credentials : Credentials}

theorem Bears.addChannel (h : w.Bears held)
    (hw : w' = { w with store := w.store.addChannel clock provider phone credentials })
    (hrange : w'.store.ids.stamp < 2 ^ 54) : w'.Bears held ∧ w.tables.Grows w'.tables := by
  obtain ⟨c, i, hc, hi, hchannel, haccount, hadds⟩ := w.store.addChannel_adds clock provider phone credentials
  subst hw
  have hfits : Tables.Fits { channels := [c], inboxes := [i] }
      (w.store.addChannel clock provider phone credentials).tables := by
    obtain ⟨c', hc', heq⟩ : ∃ c' ∈ (w.store.addChannel clock provider phone credentials).tables.channels,
        c'.line = c.line := by
      rw [← List.mem_map, hadds.lines]
      exact List.mem_append_right _ List.mem_cons_self
    obtain ⟨hid, haccount', -⟩ := Channel.line_eq_iff.1 heq
    have hrefers : i.RefersIn (w.store.addChannel clock provider phone credentials).tables :=
      ⟨c', hc', hid.trans hchannel.symm, haccount'.trans haccount.symm⟩
    constructor <;> first | exact List.forall_mem_singleton.2 hrefers | exact fun _ h => nomatch h
  refine ⟨⟨h.coherent.adds_unlinked hadds hfits rfl rfl, ?_, ?_⟩, _, hadds⟩
  · have hnone : Tables.made { channels := [c], inboxes := [i] } = 0 := rfl
    change w.ids.Made (held + (w.store.addChannel clock provider phone credentials).tables.made)
    rw [hadds.made, hnone, add_zero]
    exact h.made
  · have h₂ := Int.lt_trans Snowflake.Generator.stamp_lt_generate hrange
    have hids := ((h.kept.generate (Int.lt_trans Snowflake.Generator.stamp_lt_generate h₂)).generate h₂).generate hrange
    change Snowflake.Generator.Made _ (w.store.addChannel clock provider phone credentials).tables.kept
    rw [hadds.kept]
    refine hids.mono ?_
    rw [← hc, ← hi]
    simp only [Tables.kept, List.map_cons, List.map_nil, Multiset.coe_singleton, Multiset.coe_nil, add_zero,
      ← Multiset.singleton_add]
    refine le_of_le_of_eq (Multiset.le_add_left _ {((w.store.ids.generate clock).2.generate clock).1}) ?_
    ac_rfl

section Runs

variable {α : Type} {o : Conditions} {p : Program α} {Q : Hand → Tables → α → Prop} {hand : Hand}
  {others : Multiset Snowflake} {t : List Exchange} {a : α}

/-- What is left of a delivery leaves the tables in order. -/
theorem Runs.bears_rest (h : w.Runs o t w') (hy : p.Yields t a) (hp : p.Guided .any Q hand w.tables)
    (hb : w.Bears (hand.held + others)) (hrange : w'.InRange) : w'.Bears others := by
  induction h generalizing p hand with
  | nil => exact hb.mono (Multiset.le_add_left _ _)
  | @exchange w w₁ w' r b t hd hrest ih =>
    cases p with
    | done a' =>
      obtain ⟨ht, -⟩ := hy
      cases ht
    | ask r' next =>
      obtain ⟨b', t', ht, hy⟩ := hy
      cases ht
      obtain ⟨⟨target, hr⟩, hnext⟩ := hp
      obtain ⟨hb', hg, hrec⟩ := hb.deals hr hd (hrest.inRange hrange)
      exact ih hy (hnext b w₁.tables hg hb'.distinctIds hrec) hb' hrange
  | waits _ _ ih => exact ih hy hp (hb.congr rfl rfl rfl) hrange

theorem Runs.bears (h : w.Runs o t w') (hy : p.Yields t a) (hp : p.Guided .any Q {} w.tables) (hb : w.Bears others)
    (hrange : w'.InRange) : w'.Bears others :=
  h.bears_rest hy hp (hb.mono (le_of_eq (zero_add _))) hrange

end Runs

end World

namespace Pool

variable {n : Nat} {P : Pool WebhookJob (Except DomainError IngestReport)}

theorem Reached.ahead (h : Reached n P) : P.world.Ahead (3 * n) := by
  induction h with
  | @empty guard ids instant _ _ hids =>
    refine ⟨?_, (by decide : MemoryStore.generator.stamp ≤ 2 ^ 53 + ((0 : Nat) : Int))⟩
    change (ids.last : Int) ≤ _
    rw [hids]
    decide
  | seed provider phone credentials _ hc ih =>
    exact ⟨(ih.mono (Nat.mul_le_mul_left 3 (Nat.le_succ _))).1, MemoryStore.stamp_addChannel_le hc ih.2⟩
  | arrive _ _ ih => exact ih
  | turn _ hd ih => exact (hd.ahead ih).mono (by omega)
  | wait _ _ ih => exact ih
  | @change n w ds store _ hs ih =>
    refine ⟨ih.1, ?_⟩
    change store.ids.stamp ≤ _
    rw [hs.adds.2]
    exact ih.2

/-- Ids in the hands of deliveries. -/
def held (ds : List (Delivery WebhookJob (Except DomainError IngestReport))) : Multiset Snowflake :=
  (ds.map fun d => (Hand.of d.log).held).sum

/-- The world bears what the deliveries hold, and every delivery goes on as it may. -/
structure InOrder (P : Pool WebhookJob (Except DomainError IngestReport)) : Prop where
  bears : P.world.Bears (held P.deliveries)
  guided : ∀ d ∈ P.deliveries, d.rest.Guided .any Anything (Hand.of d.log) P.world.tables

theorem guided_grow {t t' : Tables} {d : Delivery WebhookJob (Except DomainError IngestReport)}
    (h : d.rest.Guided .any Anything (Hand.of d.log) t) (hg : t.Grows t') :
    d.rest.Guided .any Anything (Hand.of d.log) t' :=
  h.grow hg (fun _ ⟨target, hr⟩ => ⟨target, hr.grow hg⟩) fun _ _ => trivial

theorem InOrder.turn {w w' : World} {before after : List (Delivery WebhookJob (Except DomainError IngestReport))}
    {job : WebhookJob} {log : List Exchange} {r : Request} {b : r.Reply}
    {next : r.Reply → Program (Except DomainError IngestReport)} {o : Conditions}
    (h : InOrder ⟨w, before ++ ⟨job, log, .ask r next⟩ :: after⟩) (hd : w.Deals o r b w') (hrange : w'.InRange) :
    InOrder ⟨w', before ++ ⟨job, log ++ [⟨r, b⟩], next b⟩ :: after⟩ := by
  obtain ⟨hbears, hguided⟩ := h
  have hheld : ∀ d : Delivery WebhookJob (Except DomainError IngestReport),
      held (before ++ d :: after) = (Hand.of d.log).held + (held before + held after) := by
    intro d
    simp only [held, List.map_append, List.sum_append, List.map_cons, List.sum_cons]
    ac_rfl
  rw [hheld] at hbears
  obtain ⟨⟨target, hr⟩, hnext⟩ := hguided _ mem_middle
  obtain ⟨hbears', hg, hrec⟩ := hbears.deals hr hd hrange
  refine ⟨?_, fun d hd' => ?_⟩
  · rw [hheld, Hand.of_concat]
    exact hbears'
  · rcases mem_turn ⟨job, log, .ask r next⟩ hd' with rfl | hmem
    · rw [Hand.of_concat]
      exact hnext b w'.tables hg hbears'.distinctIds hrec
    · exact guided_grow (hguided d hmem) hg

theorem Reached.inOrder (h : Reached n P) (hrange : P.world.InRange) : P.InOrder := by
  induction h with
  | @empty guard ids instant _ _ hids =>
    refine ⟨⟨?_, ?_, ?_⟩, nofun⟩
    · refine ⟨Tables.empty_fits _, List.nodup_nil, List.nodup_nil⟩
    · refine ⟨Int.le_of_eq hids.symm, Multiset.nodup_zero, nofun⟩
    · refine ⟨Int.le_refl _, Multiset.nodup_zero, nofun⟩
  | seed provider phone credentials _ hc ih =>
    obtain ⟨hbears, hguided⟩ := ih ⟨hrange.1, Int.lt_trans MemoryStore.stamp_lt_addChannel hrange.2⟩
    obtain ⟨hbears', hg⟩ := hbears.addChannel rfl hrange.2
    exact ⟨hbears', fun d hd => guided_grow (hguided d hd) hg⟩
  | @arrive n w ds job _ ih =>
    obtain ⟨hbears, hguided⟩ := ih hrange
    have hheld : held (ds ++ [⟨job, [], (perform job).run⟩]) = held ds := by
      rw [held, List.map_append, List.sum_append]
      exact add_zero _
    refine ⟨hheld.symm ▸ hbears, List.forall_mem_append.2 ⟨hguided, List.forall_mem_singleton.2 ?_⟩⟩
    exact perform_guided hbears.distinctIds
  | turn _ hd ih => exact (ih (hd.inRange hrange)).turn hd hrange
  | wait _ _ ih =>
    obtain ⟨hbears, hguided⟩ := ih hrange
    exact ⟨hbears.congr rfl rfl rfl, hguided⟩
  | @change n w ds store _ hs ih =>
    obtain ⟨hadds, hids⟩ := hs.adds
    obtain ⟨hbears, hguided⟩ := ih (show w.ids.stamp < _ ∧ w.store.ids.stamp < _ from hids ▸ hrange)
    refine ⟨hbears.adds hadds (Tables.empty_fits _) rfl rfl rfl (le_of_eq (add_zero _)) rfl hids, fun d hd => ?_⟩
    exact guided_grow (hguided d hd) ⟨_, hadds⟩

/-- Every store that comes about with up to `2 ^ 51` requests and seeded channels is in order. The bound leaves the ids
room: each takes one step of a generator or a few, and generators go on from a full millisecond to the next, so that
after more than `2 ^ 53` steps their stamps need not fit an id although the clock is before the horizon. -/
theorem reached_integrity (h : Reached n P) (hn : n ≤ 2 ^ 51) : P.world.tables.Integrity :=
  (h.inOrder (h.ahead.inRange (by omega))).bears.integrity

/-! ## Playing -/

inductive Move
  | seed (provider : Provider) (phone : String) (credentials : Credentials)
  | arrive (job : WebhookJob)
  /-- The delivery at a position takes a turn; its request may be refused. -/
  | turn (position : Nat) (file : Option FetchedMedia) (refusal : Option DomainError)
  | resolve

def move? : Move → Pool WebhookJob (Except DomainError IngestReport) →
    Option (Pool WebhookJob (Except DomainError IngestReport))
  | .seed provider phone credentials, ⟨w, ds⟩ =>
    some ⟨{ w with store := w.store.addChannel 0 provider phone credentials }, ds⟩
  | .arrive job, ⟨w, ds⟩ => some ⟨w, ds ++ [⟨job, [], (perform job).run⟩]⟩
  | .turn k file refusal, P =>
    (turn? { refuses _ _ := true, fetch _ _ := file } (fun _ => (refusal, [])) P.world P.deliveries k).map
      fun (w, ds, _) => ⟨w, ds⟩
  | .resolve, ⟨w, ds⟩ => some ⟨{ w with store := { w.store with tables := w.tables.resolveConversations } }, ds⟩

def play? : List Move → Pool WebhookJob (Except DomainError IngestReport) →
    Option (Pool WebhookJob (Except DomainError IngestReport))
  | [], P => some P
  | m :: ms, P => (move? m P).bind (play? ms)

theorem Reached.play {moves : List Move} {P' : Pool WebhookJob (Except DomainError IngestReport)} (h : Reached n P)
    (hplay : play? moves P = some P') : ∃ n' ≤ n + moves.length, Reached n' P' := by
  induction moves generalizing n P with
  | nil =>
    cases hplay
    exact ⟨n, Nat.le_refl _, h⟩
  | cons m ms ih =>
    obtain ⟨P₁, hm, hrest⟩ := Option.bind_eq_some_iff.1 hplay
    have hmove : ∃ n₁ ≤ n + 1, Reached n₁ P₁ := by
      obtain ⟨w, ds⟩ := P
      cases m with
      | seed provider phone credentials =>
        cases hm
        exact ⟨_, Nat.le_refl _, .seed provider phone credentials h (by decide)⟩
      | arrive job =>
        cases hm
        exact ⟨_, Nat.le_succ _, .arrive job h⟩
      | turn k file refusal =>
        obtain ⟨⟨w', ds', faults⟩, hturn, heq⟩ := Option.map_eq_some_iff.1 hm
        cases heq
        obtain ⟨before, job, log, r, next, b, after, rfl, rfl, hb⟩ := turn?_eq_some hturn
        have hwithin : Replay.Within { refuses _ _ := true, fetch _ _ := file } (Conditions.rules {}) :=
          ⟨Conditions.clocks_zero _, fun _ _ _ => trivial, fun _ _ => trivial, fun _ _ _ => Replay.unvisited⟩
        exact ⟨_, Nat.le_refl _, .turn h (hwithin.replies hb)⟩
      | resolve =>
        cases hm
        exact ⟨_, Nat.le_succ _, .change h .resolve⟩
    obtain ⟨n₁, hn₁, h₁⟩ := hmove
    obtain ⟨n₂, hn₂, h₂⟩ := ih h₁ hrest
    exact ⟨n₂, by rw [List.length_cons]; omega, h₂⟩

end Pool

namespace Sample

/-- Nothing has happened yet. -/
def pool : Pool WebhookJob (Except DomainError IngestReport) := ⟨{ world with store := {} }, []⟩

theorem pool_reached : Pool.Reached 0 pool := .empty (MemoryGuard.ofMillis_pos _) rfl rfl

/-- A job with one message for the channel with that number. -/
def message (channel id sender kind : String) (content : Json) : WebhookJob :=
  let message := .object [("id", .string id), ("from", .string sender), ("type", .string kind), (kind, content)]
  (WebhookJob.ofPayload (.object [("messages", .array [message])])).withPhoneNumber channel

/-- While a picture is downloaded, the greeting of someone else is broken off by an error, and all conversations are
resolved. -/
def pictureMoves : List Pool.Move :=
  [.seed .default "+15550001" ⟨[]⟩,
    .arrive (message "15550001" "wamid.1" "15550002" "image" (.object [("id", .string "media.1")])),
    .arrive (message "15550001" "wamid.2" "15550003" "text" (.object [("body", .string "hello")]))] ++
  List.replicate 12 (.turn 0 none none) ++
  List.replicate 12 (.turn 1 none none) ++ [.turn 1 none (some MemoryStore.writeFailure), .turn 1 none none] ++
  [.resolve, .turn 0 (some ⟨"picture.png", "image/png", [1]⟩) none] ++ List.replicate 4 (.turn 0 none none)

end Sample

/-- The greeting leaves its sender and an empty conversation behind, the picture is stored. -/
theorem interrupted_picture_integrity : ∃ n P, Pool.Reached n P ∧ n ≤ 2 ^ 51 ∧
    (P.world.tables.conversations.length = 2 ∧ P.world.tables.messages.length = 1 ∧
      P.world.tables.attachments.length = 1 ∧ ∀ d ∈ P.deliveries, d.result?.isSome) ∧
    P.world.tables.Integrity := by
  have hplay : (Pool.play? Sample.pictureMoves Sample.pool).any (fun P => decide
      (P.world.tables.conversations.length = 2 ∧ P.world.tables.messages.length = 1 ∧
        P.world.tables.attachments.length = 1 ∧ ∀ d ∈ P.deliveries, d.result?.isSome)) = true := by
    decide +kernel
  obtain ⟨P, hp, hc⟩ := (Option.any_eq_true ..).1 hplay
  obtain ⟨n, hn, h⟩ := Sample.pool_reached.play hp
  have hbound : n ≤ 2 ^ 51 := Nat.le_trans hn (by decide)
  exact ⟨n, P, h, hbound, of_decide_eq_true hc, Pool.reached_integrity h hbound⟩

end Intake
