import Intake.Proofs.Conversations.Looking
import Intake.Proofs.Conversations.Threads
import Intake.Proofs.Integrity.Reached

/-!
# One unresolved conversation at a time

Jobs are performed one after another; only while a delivery waits for a download may others be performed, from start to
end, and may what they share be changed (`Rules.visited`). In every world that comes about in this way (`World.Arises`)
each contact inbox has at most one conversation that is not resolved, as nothing happens between the look-up that finds
none and the opening of one.
-/

namespace Intake

/-- How many conversations of a contact inbox are not resolved. -/
def Tables.unresolved (t : Tables) (link : Snowflake) : Nat :=
  t.conversations.countP fun c => c.contactInbox = link && !c.isResolved

/-- During a download other jobs may be performed, from start to end, and what is shared be changed. -/
def Rules.visited : Rules where
  clocks := (· < Snowflake.horizon)
  lapses w guard now := w.instant ≤ now ∧ guard = w.guard
  intrudes w store ids :=
    ids = w.ids ∧ (w.store.Changes store ∨
      ∃ clock provider phone credentials, store = w.store.addChannel clock provider phone credentials)
  hosts t := ∃ job r, (perform job).run.Yields t r

namespace World

/-- `w` carries out the exchanges of one delivery and is `w'` then. During a download others may come by. -/
def Carries : World → List Exchange → World → Prop := Takes .visited

/-- The world comes about from an empty store by jobs that are performed one after another, each to its end or up to
some request, while channels are seeded, time passes, conversations are resolved, and locks, accounts and channels
change. -/
inductive Arises : World → Prop
  | empty {guard : MemoryGuard} {ids : Snowflake.Generator} {instant : Instant} :
    Arises { store := {}, guard, ids, instant }
  | seed {w : World} {clock : Time} {provider : Provider} {phone : String} {credentials : Credentials} :
    Arises w → Arises { w with store := w.store.addChannel clock provider phone credentials }
  | change {w : World} {store : MemoryStore} : Arises w → w.store.Changes store → Arises { w with store }
  | waits {w : World} {now : Instant} : Arises w → w.instant ≤ now → Arises (w.later now)
  | performs {w w' : World} {job : WebhookJob} {t : List Exchange} {p : Program (Except DomainError IngestReport)} :
    Arises w → (perform job).run.Reaches t p → w.Carries t w' → Arises w'

namespace Carries

variable {w w₁ w' : World} {t t₁ t₂ : List Exchange}

theorem split (h : Carries w (t₁ ++ t₂) w') : ∃ w₁, Carries w t₁ w₁ ∧ Carries w₁ t₂ w' := Takes.split h

theorem append (h : Carries w t₁ w₁) (h' : Carries w₁ t₂ w') : Carries w (t₁ ++ t₂) w' := Takes.append h h'

/-- Where nothing is downloaded the delivery is alone. -/
theorem runs (h : Carries w t w') (ht : ∀ x ∈ t, x.request.isFetch = false) : w.Runs {} t w' := by
  obtain ⟨u, h⟩ := h
  induction h with
  | nil => exact .nil
  | exchange hr _ ih => exact .exchange hr (ih (List.forall_mem_cons.1 ht).2)
  | lapse hl _ ih => exact Takes.lapse hl (ih ht)
  | intrusion hx | guest hx => cases hx.symm.trans ((List.forall_mem_cons.1 ht).1)

/-- Before an exchange that is no download only time passes. -/
theorem cons {x : Exchange} (h : Carries w (x :: t) w') (hx : x.request.isFetch = false) :
    ∃ now w₁, w.Carries [] (w.later now) ∧ (w.later now).Deals {} x.request x.reply w₁ ∧ w₁.Carries t w' := by
  obtain ⟨u, h⟩ := h
  generalize ht : x :: t = t' at h
  induction h with
  | nil => cases ht
  | @exchange w w₁ _ _ _ _ _ hr hrest =>
    cases ht
    exact ⟨w.instant, w₁, Takes.nil, hr, _, hrest⟩
  | lapse hl _ ih =>
    obtain ⟨hle, rfl⟩ := hl
    obtain ⟨now, w₁, hfirst, hd, hrest⟩ := ih ht
    exact ⟨now, w₁, Takes.lapse ⟨hle, rfl⟩ hfirst, hd, hrest⟩
  | intrusion hx' | guest hx' =>
    obtain ⟨rfl, -⟩ := List.cons.inj ht
    cases hx'.symm.trans hx

theorem of_runs {o : Conditions} (h : w.Runs o t w') : Carries w t w' := by
  obtain ⟨u, h⟩ := h.unconditioned
  exact ⟨u, h.mono (fun _ _ _ _ h => h) (fun _ _ _ h => h) (fun _ _ _ h => h.elim) fun _ h => h.elim⟩

end Carries

end World

/-! ## At most one -/

theorem Exchange.not_opened_of_not_seeks {x : Exchange} (h : x.seeks = false) : x.opened = none := by
  obtain ⟨r, b⟩ := x
  cases r <;> first | rfl | cases h

namespace Tables

variable {t t' : Tables} {link : Snowflake} {f : ConversationFilter}

/-- Each contact inbox has at most one conversation that is not resolved. -/
def Single (t : Tables) : Prop := ∀ link, t.unresolved link ≤ 1

theorem unresolved_eq_zero (h : t.findConversation link f = none) : t.unresolved link = 0 := by
  rw [unresolved, List.countP_eq_zero]
  intro c hc hboth
  obtain ⟨hlink, hopen⟩ := Bool.and_eq_true_iff.1 hboth
  have hadmits : f.admits c = true := by cases f <;> [rfl; exact hopen]
  exact findConversation_eq_none_iff.1 h c hc ⟨of_decide_eq_true hlink, hadmits⟩

theorem unresolved_congr (h : t'.conversations = t.conversations) (link : Snowflake) :
    t'.unresolved link = t.unresolved link := by
  rw [unresolved, unresolved, h]

theorem Single.congr (ht : t.Single) (h : t'.conversations = t.conversations) : t'.Single :=
  fun link => (unresolved_congr h link).trans_le (ht link)

theorem single_resolveConversations (t : Tables) : t.resolveConversations.Single := by
  intro link
  have hnone : t.resolveConversations.unresolved link = 0 := by
    rw [unresolved, List.countP_eq_zero]
    intro c hc
    obtain ⟨d, -, rfl⟩ := List.mem_map.1 hc
    simp [Conversation.isResolved]
  omega

theorem Single.add {c : Conversation} (ht : t.Single) (hc : t.unresolved c.contactInbox = 0)
    (h : t'.conversations = t.conversations ++ [c]) : t'.Single := by
  intro link
  have hadded : t'.unresolved link =
      t.unresolved link + [c].countP fun c => c.contactInbox = link && !c.isResolved := by
    rw [unresolved, h, List.countP_append, ← unresolved]
  have hone : ([c].countP fun c => c.contactInbox = link && !c.isResolved) ≤ 1 := List.countP_le_length
  by_cases hlink : c.contactInbox = link
  · subst hlink
    omega
  · have hnot : ([c].countP fun c => c.contactInbox = link && !c.isResolved) = 0 := by simp [hlink]
    have hfew := ht link
    omega

end Tables

theorem MemoryStore.Changes.single {s s' : MemoryStore} (h : s.Changes s') (hs : s.tables.Single) :
    s'.tables.Single := by
  cases h with
  | resolve => exact s.tables.single_resolveConversations
  | lock | stand | authorize | fail => exact hs.congr rfl

namespace World

variable {w w' : World} {t : List Exchange} {v v' : Option Snowflake} {f : ConversationFilter}

/-- No contact inbox has two conversations that are not resolved, and that which is vacant has none. -/
structure Sparse (w : World) (v : Option Snowflake) : Prop where
  single : w.tables.Single
  vacant : ∀ link, v = some link → w.tables.unresolved link = 0

theorem Sparse.congr (h : w.Sparse v) (hw : w'.tables.conversations = w.tables.conversations) : w'.Sparse v :=
  ⟨h.single.congr hw, fun link hv => (Tables.unresolved_congr hw link).trans (h.vacant link hv)⟩

theorem Sparse.forget (h : w.Sparse v) : w.Sparse none := ⟨h.single, nofun⟩

theorem eq_none_of_fetch {x : Exchange} (h : Looking f v (x :: t) v') (hx : x.request.isFetch = true) : v = none := by
  cases h with
  | newId | now | opens => cases hx
  | vacant | other => rfl

theorem Carries.sparse (h : w.Carries t w') (ht : Looking f v t v') (hw : w.Sparse v) : w'.Sparse v' := by
  obtain ⟨u, h⟩ := h
  induction h generalizing f v v' with
  | nil =>
    cases ht
    exact hw
  | exchange hr _ ih =>
    have hd : World.Deals {} _ _ _ _ := hr
    have hadded := hd.conversations
    cases ht with
    | @vacant link _ _ ht =>
      obtain ⟨hnone, rfl⟩ := hd.findConversation_ok
      refine ih ht ⟨hw.single, fun link' hlink => ?_⟩
      obtain rfl := Option.some.inj hlink
      exact Tables.unresolved_eq_zero hnone
    | newId ht | now ht => exact ih ht (hw.congr (hadded.trans (List.append_nil _)))
    | @opens c b _ _ _ ht =>
      cases b with
      | error => exact ih ht (hw.congr (hadded.trans (List.append_nil _))).forget
      | ok => exact ih ht ⟨hw.single.add (hw.vacant _ rfl) hadded, nofun⟩
    | other hx ht =>
      refine ih ht (hw.congr ?_)
      have hnone : Exchange.opened ⟨_, _⟩ = none := Exchange.not_opened_of_not_seeks hx
      rw [hadded, hnone]
      exact List.append_nil _
  | lapse _ _ ih => exact ih ht (hw.congr rfl)
  | intrusion hx hi _ ih =>
    obtain rfl := eq_none_of_fetch ht hx
    obtain ⟨rfl, hs | ⟨_, _, _, _, rfl⟩⟩ := hi
    · exact ih ht ⟨hs.single hw.single, nofun⟩
    · exact ih ht (hw.congr rfl)
  | guest hx hg _ _ ihguest ih =>
    obtain rfl := eq_none_of_fetch ht hx
    obtain ⟨job, r, hy⟩ := hg
    obtain ⟨f', hlooking⟩ := exists_looking hy
    exact ih ht (ihguest hlooking hw)

theorem Arises.single (h : w.Arises) : w.tables.Single := by
  induction h with
  | empty => exact fun link => Nat.zero_le _
  | seed _ ih => exact ih.congr rfl
  | change _ hs ih => exact hs.single ih
  | waits _ _ ih => exact ih.congr rfl
  | @performs w w' job t p _ hreach hcarries ih =>
    obtain ⟨t', r, hy, -⟩ := p.exists_yields (Exchange.exists_fits {})
    obtain ⟨f, hlooking⟩ := exists_looking (hreach.yields hy)
    obtain ⟨v, hv, -⟩ := hlooking.split
    exact (hcarries.sparse hv ⟨ih, nofun⟩).single

end World

end Intake
