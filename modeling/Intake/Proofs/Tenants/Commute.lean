import Intake.Proofs.Integrity.Reached
import Intake.Proofs.Tenants.Apart
import Mathlib.Data.Multiset.Filter
import Mathlib.Data.Multiset.ZeroCons

/-!
# Deliveries to different accounts commute

Two jobs for channels of different accounts have the same reports and leave the same tables and claims in either order,
up to the order of rows and the choice of ids (`tenants_commute`). Each of the two is carried out in twins: before or
after the other.
-/

namespace Intake

namespace Renaming

/-- What stands for each other in one of two renamings. -/
def union (ρ₁ ρ₂ : Renaming) : Renaming where
  store i j := ρ₁.store i j ∨ ρ₂.store i j
  made i j := ρ₁.made i j ∨ ρ₂.made i j

theorem le_union_left (ρ₁ ρ₂ : Renaming) : ρ₁ ≤ ρ₁.union ρ₂ := ⟨fun _ _ => .inl, fun _ _ => .inl⟩

theorem le_union_right (ρ₁ ρ₂ : Renaming) : ρ₂ ≤ ρ₁.union ρ₂ := ⟨fun _ _ => .inr, fun _ _ => .inr⟩

/-- Beyond ids that stand for themselves, the one relation is new on the right where the other has been, and the other
on the left. -/
theorem biUnique_or {R₁ R₂ : Snowflake → Snowflake → Prop} {B L₁ L₂ : Snowflake → Prop} (h₁ : Relator.BiUnique R₁)
    (h₂ : Relator.BiUnique R₂) (hold₁ : ∀ i j, R₁ i j → i = j ∧ B i ∨ ¬ B i ∧ ¬ L₂ j)
    (hold₂ : ∀ i j, R₂ i j → i = j ∧ B i ∨ ¬ L₁ i ∧ ¬ B j) (hin₁ : ∀ i j, R₁ i j → L₁ i) (hin₂ : ∀ i j, R₂ i j → L₂ j) :
    Relator.BiUnique fun i j => R₁ i j ∨ R₂ i j := by
  have hleft : ∀ i k j, R₁ i j → R₂ k j → i = k := by
    intro i k j hi hk
    rcases hold₁ i j hi with ⟨rfl, hb⟩ | ⟨-, hnew⟩
    · rcases hold₂ k i hk with ⟨rfl, -⟩ | ⟨-, hnew⟩
      · rfl
      · exact absurd hb hnew
    · exact absurd (hin₂ k j hk) hnew
  have hright : ∀ i j k, R₁ i j → R₂ i k → j = k := by
    intro i j k hj hk
    rcases hold₂ i k hk with ⟨rfl, hb⟩ | ⟨hnew, -⟩
    · rcases hold₁ i j hj with ⟨rfl, -⟩ | ⟨hnew, -⟩
      · rfl
      · exact absurd hb hnew
    · exact absurd (hin₁ i j hj) hnew
  constructor
  · rintro i k j (hi | hi) (hk | hk)
    · exact h₁.1 hi hk
    · exact hleft i k j hi hk
    · exact (hleft k i j hk hi).symm
    · exact h₂.1 hi hk
  · rintro i j k (hj | hj) (hk | hk)
    · exact h₁.2 hj hk
    · exact hright i j k hj hk
    · exact (hright i k j hk hj).symm
    · exact h₂.2 hj hk

end Renaming

/-! ## Tables up to the order of rows -/

theorem Multiset.rel_of_forall₂ {α β : Type} {R : α → β → Prop} {l : List α} {l' : List β} (h : List.Forall₂ R l l') :
    Multiset.Rel R l l' := by
  induction h with
  | nil => exact .zero
  | cons hab _ ih => exact .cons hab ih

theorem Multiset.rel_of_halves {α : Type} {R : α → α → Prop} {p : α → Bool} {l l' : List α}
    (hp : Multiset.Rel R (l.filter p) (l'.filter p))
    (hrest : Multiset.Rel R (l.filter fun a => !p a) (l'.filter fun a => !p a)) : Multiset.Rel R l l' := by
  have hsplit : ∀ l : List α, (l : Multiset α) = ↑(l.filter p) + ↑(l.filter fun a => !p a) := by
    intro l
    rw [Multiset.coe_add, Multiset.coe_eq_coe]
    exact (List.filter_append_perm p l).symm
  rw [hsplit l, hsplit l']
  exact hp.add hrest

theorem Multiset.rel_of_parts {α : Type} {R : α → α → Prop} {p q : α → Bool} {l l' : List α}
    (hpq : ∀ a, p a = true → q a = false) (hp : List.Forall₂ R (l.filter p) (l'.filter p))
    (hq : List.Forall₂ R (l.filter q) (l'.filter q))
    (hrest : List.Forall₂ R (l.filter fun a => !p a && !q a) (l'.filter fun a => !p a && !q a)) :
    Multiset.Rel R l l' := by
  have hothers : ∀ l : List α, (l.filter fun a => !p a).filter q = l.filter q := by
    intro l
    refine List.filter_filter_of fun a _ ha => ?_
    cases hpa : p a with
    | false => rfl
    | true => rw [hpq a hpa] at ha; cases ha
  have hneither : ∀ l : List α,
      (l.filter fun a => !p a).filter (fun a => !q a) = l.filter fun a => !p a && !q a := by
    intro l
    simp only [List.filter_filter, Bool.and_comm]
  refine rel_of_halves (rel_of_forall₂ hp) (rel_of_halves (p := q) ?_ ?_)
  · rw [hothers, hothers]
    exact rel_of_forall₂ hq
  · rw [hneither, hneither]
    exact rel_of_forall₂ hrest

namespace Tables

/-- The same tables up to the renaming and the order of rows, and but for the moments of creation. -/
structure SameUpTo (ρ : Renaming) (t t' : Tables) : Prop where
  tenants : t.tenants = t'.tenants
  contacts : Multiset.Rel (Contact.Like ρ) t.contacts t'.contacts
  contactInboxes : Multiset.Rel (ContactInbox.Like ρ) t.contactInboxes t'.contactInboxes
  conversations : Multiset.Rel (Conversation.Like ρ) t.conversations t'.conversations
  messages : Multiset.Rel (Message.Like ρ) t.messages t'.messages
  attachments : Multiset.Rel (Attachment.Like ρ) t.attachments t'.attachments

/-- The rows of neither target. -/
def besides (t : Tables) (target other : ResolvedChannel) : Tables :=
  t.part (fun a => !decide (a = target.inbox.account) && !decide (a = other.inbox.account))
    fun i => !decide (i = target.inbox.id) && !decide (i = other.inbox.id)

theorem sameUpTo_of_parts {ρ : Renaming} {t t' : Tables} {target other : ResolvedChannel} (h : target.Apart other)
    (htenants : t.tenants = t'.tenants) (htarget : (t.within target).Like ρ (t'.within target))
    (hother : (t.within other).Like ρ (t'.within other))
    (hrest : (t.besides target other).Like ρ (t'.besides target other)) : t.SameUpTo ρ t' := by
  have haccounts : ∀ a, decide (a = target.inbox.account) = true → decide (a = other.inbox.account) = false := by
    intro a ha
    exact decide_eq_false fun heq => h.account ((of_decide_eq_true ha).symm.trans heq)
  have hinboxes : ∀ i, decide (i = target.inbox.id) = true → decide (i = other.inbox.id) = false := by
    intro i hi
    exact decide_eq_false fun heq => h.inbox ((of_decide_eq_true hi).symm.trans heq)
  refine ⟨htenants, ?_, ?_, ?_, ?_, ?_⟩
  · exact Multiset.rel_of_parts (fun c => haccounts c.account) htarget.contacts hother.contacts hrest.contacts
  · exact Multiset.rel_of_parts (fun l => hinboxes l.inbox) htarget.contactInboxes hother.contactInboxes
      hrest.contactInboxes
  · exact Multiset.rel_of_parts (fun c => hinboxes c.inbox) htarget.conversations hother.conversations
      hrest.conversations
  · exact Multiset.rel_of_parts (fun m => hinboxes m.inbox) htarget.messages hother.messages hrest.messages
  · exact Multiset.rel_of_parts (fun a => haccounts a.account) htarget.attachments hother.attachments hrest.attachments

end Tables

/-! ## Both orders -/

section

variable {target other : ResolvedChannel} {w w₁ w₂ w₁₂ w₂₁ : World} {ρ₁ ρ₂ : Renaming}

/-- Ids that one delivery has made before the other one do not stand for ids that the other one has made before it. -/
theorem Renaming.Grows.oneToOne_union (h₁ : (base w).Grows ρ₁ w w₂) (h₂ : (base w).Grows ρ₂ w₁ w)
    (htwin₁ : World.Twin target ρ₁ w₁ w₂₁) (htwin₂ : World.Twin other ρ₂ w₁₂ w₂) : (ρ₁.union ρ₂).OneToOne where
  store := biUnique_or htwin₁.store.unique htwin₂.store.unique h₁.store h₂.store
    (fun i j h => (htwin₁.store.issued i j h).1) fun i j h => (htwin₂.store.issued i j h).2
  made := biUnique_or htwin₁.made.unique htwin₂.made.unique h₁.made h₂.made
    (fun i j h => (htwin₁.made.issued i j h).1) fun i j h => (htwin₂.made.issued i j h).2

namespace World.KeepsOthers

variable (h₁ : w.KeepsOthers target w₁) (h₁₂ : w₁.KeepsOthers other w₁₂) (h₂ : w.KeepsOthers other w₂)
  (h₂₁ : w₂.KeepsOthers target w₂₁)

include h₁ h₁₂ h₂ h₂₁

theorem besides_eq : w₁₂.tables.besides target other = w.tables.besides target other ∧
    w₂₁.tables.besides target other = w.tables.besides target other := by
  constructor
  · exact (h₁₂.parts _ _ (by simp) (by simp)).trans (h₁.parts _ _ (by simp) (by simp))
  · exact (h₂₁.parts _ _ (by simp) (by simp)).trans (h₂.parts _ _ (by simp) (by simp))

theorem sameUpTo {held : Multiset Snowflake} (hb : w.Bears held) (hapart : target.Apart other)
    (htwin₁ : Twin target ρ₁ w₁ w₂₁) (htwin₂ : Twin other ρ₂ w₁₂ w₂) (hle : .base w ≤ ρ₁) :
    w₁₂.tables.SameUpTo (ρ₁.union ρ₂) w₂₁.tables := by
  obtain ⟨hrest, hrest'⟩ := besides_eq h₁ h₁₂ h₂ h₂₁
  have htenants := congrArg Tables.tenants (hrest.trans hrest'.symm)
  refine Tables.sameUpTo_of_parts hapart htenants ?_ ?_ ?_
  · rw [h₁₂.within hapart]
    exact htwin₁.rows.mono (ρ₁.le_union_left ρ₂)
  · rw [h₂₁.within hapart.symm]
    exact htwin₂.rows.mono (ρ₁.le_union_right ρ₂)
  · rw [hrest, hrest']
    exact (hb.like_base.part _ _).mono (Renaming.le_trans hle (ρ₁.le_union_left ρ₂))

end World.KeepsOthers

end

/-- A delivery of the job is carried out by itself: nothing is refused, and downloads bring what `fetch` says. -/
structure World.Performs (fetch : Channel → MediaDescriptor → Option FetchedMedia) (w : World) (job : WebhookJob)
    (t : List Exchange) (r : Except DomainError IngestReport) (w' : World) : Prop where
  yields : (perform job).run.Yields t r
  runs : w.Runs (.calm fetch) t w'

theorem Attempt.Succeed.mono {ρ ρ' : Renaming} {r r' : Except DomainError IngestReport}
    (h : Attempt.Succeed IngestReport.Like ρ r r') (hle : ρ ≤ ρ') : Attempt.Succeed IngestReport.Like ρ' r r' := by
  obtain ⟨report, report', rfl, rfl, hlike⟩ := h
  exact ⟨report, report', rfl, rfl, hlike.mono hle⟩

namespace World.Performs

variable {fetch : Channel → MediaDescriptor → Option FetchedMedia} {w w₁ w₂ : World} {job job' : WebhookJob}
  {t t' : List Exchange} {r r' : Except DomainError IngestReport}

theorem resolvedTo {target : ResolvedChannel} {tb : Tables} (h : w.Performs fetch job t r w₁) (hw : w.Calm)
    (htenants : w.tables.tenants = tb.tenants) (hroute : tb.route job = .active target) :
    job.ResolvedTo target t r := by
  have hroutes := perform_routes h.yields (fun x hx => (h.runs.fits x hx).congr htenants.symm) (h.runs.read hw)
  rwa [hroute] at hroutes

theorem bracketed (h : w.Performs fetch job t r w₁) : Bracketed none t none :=
  (perform_yields h.yields h.runs.fits).bracketed

/-- If no claim runs out that was live in the beginning, two deliveries leave the same claims, and each of them is
refused what is among these, and nothing else. -/
theorem claims (h : w.Performs fetch job t r w₁) (h' : w₁.Performs fetch job' t' r' w₂) (httl : 0 < w.guard.ttl)
    (hlast : ∀ c, w.Claimed c → w₂.Claimed c) :
    (∀ c, w₂.Claimed c ↔ w.Claimed c) ∧ (∀ x ∈ t, x.Heeds w.Claimed) ∧ ∀ x ∈ t', x.Heeds w.Claimed := by
  have hr := h.runs.append h'.runs
  have ht := h.bracketed.append h'.bracketed
  obtain ⟨hx, hx'⟩ := List.forall_mem_append.1 (hr.heeds (Conditions.calm_sparesGuard fetch) httl ht hlast)
  exact ⟨hr.claimed_iff_of_lasting (Conditions.calm_sparesGuard fetch) ht hlast, hx, hx'⟩

end World.Performs

theorem Pool.Reached.ttl_pos {n : Nat} {P : Pool WebhookJob (Except DomainError IngestReport)} (h : Pool.Reached n P) :
    0 < P.world.guard.ttl := by
  induction h with
  | empty httl => exact httl
  | turn _ hd ih => exact hd.clock.2 ▸ ih
  | _ => assumption

/-- Two jobs for channels of different accounts, carried out in either order in a store that came about from nothing:
both succeed, and the reports and the tables are the same up to a renaming of the ids that are made (`Renaming.base`
says that it keeps those that were there), the order of rows and the moments of creation. The same claims are live in
the end. Of time nothing matters but which claims run out, so all that are live in the beginning must be live in the
end. The bounds leave the ids room, as for `Pool.reached_integrity`. That there are such deliveries, and that they come
to an end, is `World.exists_runs`. -/
theorem tenants_commute {n : Nat} {P : Pool WebhookJob (Except DomainError IngestReport)}
    {fetch : Channel → MediaDescriptor → Option FetchedMedia} {job₁ job₂ : WebhookJob}
    {target₁ target₂ : ResolvedChannel} {t₁ t₁₂ t₂ t₂₁ : List Exchange}
    {r₁ r₁₂ r₂ r₂₁ : Except DomainError IngestReport} {w₁ w₁₂ w₂ w₂₁ : World} (h : Pool.Reached n P)
    (hlookups : P.world.store.failingLookups = 0) (hwrites : P.world.store.failingWrites = 0)
    (hroute₁ : P.world.tables.route job₁ = .active target₁) (hroute₂ : P.world.tables.route job₂ = .active target₂)
    (haccounts : target₁.channel.account ≠ target₂.channel.account)
    (h₁ : P.world.Performs fetch job₁ t₁ r₁ w₁) (h₁₂ : w₁.Performs fetch job₂ t₁₂ r₁₂ w₁₂)
    (h₂ : P.world.Performs fetch job₂ t₂ r₂ w₂) (h₂₁ : w₂.Performs fetch job₁ t₂₁ r₂₁ w₂₁)
    (hlast : ∀ c, P.world.Claimed c → w₁₂.Claimed c) (hlast' : ∀ c, P.world.Claimed c → w₂₁.Claimed c)
    (hn : n + t₁.length + t₁₂.length ≤ 2 ^ 51) (hn' : n + t₂.length + t₂₁.length ≤ 2 ^ 51) :
    ∃ ρ : Renaming, ρ.OneToOne ∧ .base P.world ≤ ρ ∧ Attempt.Succeed IngestReport.Like ρ r₁ r₂₁ ∧
      Attempt.Succeed IngestReport.Like ρ r₁₂ r₂ ∧ w₁₂.tables.SameUpTo ρ w₂₁.tables ∧
      ∀ c, w₁₂.Claimed c ↔ w₂₁.Claimed c := by
  have hcalm : P.world.Calm := ⟨hlookups, hwrites⟩
  have hcalm₁ := h₁.runs.calm hcalm
  have hcalm₂ := h₂.runs.calm hcalm
  -- Before and after the other one, each job is resolved to the same target.
  have hres₁ := h₁.resolvedTo hcalm rfl hroute₁
  have hres₂ := h₂.resolvedTo hcalm rfl hroute₂
  have hres₁₂ := h₁₂.resolvedTo hcalm₁ h₁.runs.tenants hroute₂
  have hres₂₁ := h₂₁.resolvedTo hcalm₂ h₂.runs.tenants hroute₁
  have hrange₁₂ : w₁₂.InRange := (h₁₂.runs.ahead (h₁.runs.ahead h.ahead)).inRange (by omega)
  have hrange₂₁ : w₂₁.InRange := (h₂₁.runs.ahead (h₂.runs.ahead h.ahead)).inRange (by omega)
  have hrange₁ := h₁₂.runs.inRange hrange₁₂
  have hrange₂ := h₂₁.runs.inRange hrange₂₁
  have hb := (h.inOrder (h₁.runs.inRange hrange₁)).bears
  have hapart := (Tables.serves_of_route hroute₁).apart (Tables.serves_of_route hroute₂) hb.integrity haccounts
  -- The guard heeds the same claims all the time.
  obtain ⟨hclaims, hx₁, hx₁₂⟩ := h₁.claims h₁₂ h.ttl_pos hlast
  obtain ⟨hclaims', hx₂, hx₂₁⟩ := h₂.claims h₂₁ h.ttl_pos hlast'
  -- Neither job touches rows that are not its target's.
  obtain ⟨hkeeps₁, hb₁⟩ := hres₁.keepsOthers h₁.runs hb hrange₁
  obtain ⟨hkeeps₂, hb₂⟩ := hres₂.keepsOthers h₂.runs hb hrange₂
  obtain ⟨hkeeps₁₂, -⟩ := hres₁₂.keepsOthers h₁₂.runs hb₁ hrange₁₂
  obtain ⟨hkeeps₂₁, -⟩ := hres₂₁.keepsOthers h₂₁.runs hb₂ hrange₂₁
  -- So each is carried out in twins.
  obtain ⟨ρ₁, hgrows₁, hreports₁, htwin₁⟩ := hres₁.twin hres₂₁ (.base hb hapart (.refl _ _) hkeeps₂) ⟨hcalm, hb⟩
    ⟨hcalm₂, hb₂⟩ h₁.runs h₂₁.runs hx₁ hx₂₁ hrange₁ hrange₂₁
  obtain ⟨ρ₂, hgrows₂, hreports₂, htwin₂⟩ := hres₁₂.twin hres₂ (.base hb hapart.symm hkeeps₁ (.refl _ _)) ⟨hcalm₁, hb₁⟩
    ⟨hcalm, hb⟩ h₁₂.runs h₂.runs hx₁₂ hx₂ hrange₁₂ hrange₂
  refine ⟨ρ₁.union ρ₂, hgrows₁.oneToOne_union hgrows₂ htwin₁ htwin₂,
    Renaming.le_trans hgrows₁.le (ρ₁.le_union_left ρ₂), hreports₁.mono (ρ₁.le_union_left ρ₂),
    hreports₂.mono (ρ₁.le_union_right ρ₂), ?_, fun c => ?_⟩
  · exact hkeeps₁.sameUpTo hkeeps₁₂ hkeeps₂ hkeeps₂₁ hb hapart htwin₁ htwin₂ hgrows₁.le
  · exact (hclaims c).trans (hclaims' c).symm

/-! ## Playing -/

namespace Sample

/-- Carries out two jobs after each other, if they are resolved to channels. -/
def inTurn? (job job' : WebhookJob) (w : World) :=
  (carry? (fun _ _ => none) job w).bind fun first => (carry? (fun _ _ => none) job' first.2.2.2).map (first, ·)

theorem performs_of_carry? {fetch : Channel → MediaDescriptor → Option FetchedMedia} {job : WebhookJob}
    {target : ResolvedChannel} {t : List Exchange} {r : Except DomainError IngestReport} {w w' : World}
    (h : carry? fetch job w = some (target, t, r, w')) :
    w.tables.route job = .active target ∧ w.Performs fetch job t r w' := by
  obtain ⟨hres, hr⟩ := resolvedTo_of_carry? h
  exact ⟨hres.route hr.fits, hres.yields, hr⟩

/-- After two greetings, one message is still being handled. -/
def pendingMoves : List Pool.Move :=
  greetingMoves ++
    .arrive (message "15550001" "wamid.2" "15550003" "text" (.object [("body", .string "hello?")])) ::
      List.replicate 5 (.turn 2 none none)

/-- The sender of the first greeting writes again. -/
def again : WebhookJob := message "15550001" "wamid.3" "15550003" "text" (.object [("body", .string "hello again")])

/-- Someone new writes to the other channel. -/
def new : WebhookJob := message "15550002" "wamid.4" "15550004" "text" (.object [("body", .string "hello")])

theorem lasts {w w' : World} (h : (w.guard.claims.all fun k => w'.guard.holds w'.instant k.1) = true)
    (c : Snowflake × String) (hc : w.Claimed c) : w'.Claimed c := by
  obtain ⟨deadline, hmem, -⟩ := MemoryGuard.holds_iff.1 hc
  exact List.all_eq_true.1 h _ hmem

end Sample

/-- The messages are stored in either order, while the claim of another one is live. -/
theorem greetings_commute : ∃ n P target₁ target₂ t₁ t₁₂ t₂ t₂₁ r₁ r₁₂ r₂ r₂₁ w₁ w₁₂ w₂ w₂₁, Pool.Reached n P ∧
    (P.world.store.failingLookups = 0 ∧ P.world.store.failingWrites = 0) ∧
    (P.world.tables.route Sample.again = .active target₁ ∧ P.world.tables.route Sample.new = .active target₂ ∧
      target₁.channel.account ≠ target₂.channel.account) ∧
    (P.world.Performs (fun _ _ => none) Sample.again t₁ r₁ w₁ ∧
      w₁.Performs (fun _ _ => none) Sample.new t₁₂ r₁₂ w₁₂) ∧
    (P.world.Performs (fun _ _ => none) Sample.new t₂ r₂ w₂ ∧
      w₂.Performs (fun _ _ => none) Sample.again t₂₁ r₂₁ w₂₁) ∧
    ((∀ c, P.world.Claimed c → w₁₂.Claimed c) ∧ ∀ c, P.world.Claimed c → w₂₁.Claimed c) ∧
    (n + t₁.length + t₁₂.length ≤ 2 ^ 51 ∧ n + t₂.length + t₂₁.length ≤ 2 ^ 51) ∧
    (P.world.guard.claims.length = 1 ∧
      w₁₂.tables.messages.map (·.sourceId) = ["wamid.1", "wamid.1", "wamid.3", "wamid.4"] ∧
      w₂₁.tables.messages.map (·.sourceId) = ["wamid.1", "wamid.1", "wamid.4", "wamid.3"]) ∧
    ∃ ρ : Renaming, ρ.OneToOne ∧ .base P.world ≤ ρ ∧ Attempt.Succeed IngestReport.Like ρ r₁ r₂₁ ∧
      Attempt.Succeed IngestReport.Like ρ r₁₂ r₂ ∧ w₁₂.tables.SameUpTo ρ w₂₁.tables ∧
      ∀ c, w₁₂.Claimed c ↔ w₂₁.Claimed c := by
  have hplay : (Pool.play? Sample.pendingMoves Sample.pool).any (fun P =>
      (Sample.inTurn? Sample.again Sample.new P.world).any fun a =>
        (Sample.inTurn? Sample.new Sample.again P.world).any fun b => decide
          ((P.world.store.failingLookups = 0 ∧ P.world.store.failingWrites = 0) ∧
            a.1.1.channel.account ≠ b.1.1.channel.account ∧
            ((P.world.guard.claims.all fun k => a.2.2.2.2.guard.holds a.2.2.2.2.instant k.1) = true ∧
              (P.world.guard.claims.all fun k => b.2.2.2.2.guard.holds b.2.2.2.2.instant k.1) = true) ∧
            (a.1.2.1.length + a.2.2.1.length ≤ 2 ^ 50 ∧ b.1.2.1.length + b.2.2.1.length ≤ 2 ^ 50) ∧
            P.world.guard.claims.length = 1 ∧
            a.2.2.2.2.tables.messages.map (·.sourceId) = ["wamid.1", "wamid.1", "wamid.3", "wamid.4"] ∧
            b.2.2.2.2.tables.messages.map (·.sourceId) = ["wamid.1", "wamid.1", "wamid.4", "wamid.3"])) = true := by
    decide +kernel
  obtain ⟨P, hp, hturns⟩ := (Option.any_eq_true ..).1 hplay
  obtain ⟨⟨⟨target₁, t₁, r₁, w₁⟩, _, t₁₂, r₁₂, w₁₂⟩, ha, hturns'⟩ := (Option.any_eq_true ..).1 hturns
  obtain ⟨⟨⟨target₂, t₂, r₂, w₂⟩, _, t₂₁, r₂₁, w₂₁⟩, hb, hcheck⟩ := (Option.any_eq_true ..).1 hturns'
  obtain ⟨hfailing, haccounts, ⟨hall, hall'⟩, ⟨hlength, hlength'⟩, hshown⟩ := of_decide_eq_true hcheck
  obtain ⟨first, h₁, heq⟩ := Option.bind_eq_some_iff.1 ha
  obtain ⟨second, h₁₂, heq'⟩ := Option.map_eq_some_iff.1 heq
  cases heq'
  obtain ⟨first, h₂, heq⟩ := Option.bind_eq_some_iff.1 hb
  obtain ⟨second, h₂₁, heq'⟩ := Option.map_eq_some_iff.1 heq
  cases heq'
  obtain ⟨hroute₁, hp₁⟩ := Sample.performs_of_carry? h₁
  obtain ⟨hroute₂, hp₂⟩ := Sample.performs_of_carry? h₂
  obtain ⟨-, hp₁₂⟩ := Sample.performs_of_carry? h₁₂
  obtain ⟨-, hp₂₁⟩ := Sample.performs_of_carry? h₂₁
  have hlast := Sample.lasts hall
  have hlast' := Sample.lasts hall'
  obtain ⟨n, hn, h⟩ := Sample.pool_reached.play hp
  have hmoves : Sample.pendingMoves.length = 38 := by decide
  have hbound : n + t₁.length + t₁₂.length ≤ 2 ^ 51 := by
    have ht : t₁.length + t₁₂.length ≤ 2 ^ 50 := hlength
    omega
  have hbound' : n + t₂.length + t₂₁.length ≤ 2 ^ 51 := by
    have ht : t₂.length + t₂₁.length ≤ 2 ^ 50 := hlength'
    omega
  exact ⟨n, P, target₁, target₂, t₁, t₁₂, t₂, t₂₁, r₁, r₁₂, r₂, r₂₁, w₁, w₁₂, w₂, w₂₁, h, hfailing,
    ⟨hroute₁, hroute₂, haccounts⟩, ⟨hp₁, hp₁₂⟩, ⟨hp₂, hp₂₁⟩, ⟨hlast, hlast'⟩, ⟨hbound, hbound'⟩, hshown,
    tenants_commute h hfailing.1 hfailing.2 hroute₁ hroute₂ haccounts hp₁ hp₁₂ hp₂ hp₂₁ hlast hlast' hbound hbound'⟩

end Intake
