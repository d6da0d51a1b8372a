import Intake.Proofs.Retry.Alone
import Intake.Proofs.World.Holdings
import Mathlib.Data.List.Forall2

/-!
# Events that are known

An event that has been handled is known from then on: its message is stored, or the contact that it announces is linked
to the inbox. Handling a known event again adds nothing, gets to an outcome, and drops a message as a duplicate
(`handleEvent_again`). Delivery reports are known from the start: whatever they change, they add no row.
-/

namespace Intake

open Ingest

variable {o : Outage} {w w' : World} {target : ResolvedChannel} {e : IncomingEvent} {es : List IncomingEvent}
  {t : List Exchange}

/-- Created messages are those of accepted events. -/
def EventOutcome.CreatesAccepted (e : IncomingEvent) (outcome : EventOutcome) : Prop :=
  ∀ source messages count, outcome = .messageCreated source messages count → source = e.sourceId ∧ ∃ m, e.Accepted m

def EventOutcome.DropsAccepted (e : IncomingEvent) (outcome : EventOutcome) : Prop :=
  ∀ m, e.Accepted m → outcome = .dropped e.sourceId .duplicate

theorem Request.addsRows_of_isFollowUp {r : Request} (h : r.isFollowUp = true) : r.addsRows = false := by
  cases r <;> trivial

structure Tables.Knows (tb : Tables) (target : ResolvedChannel) (e : IncomingEvent) : Prop where
  message : ∀ m, e.Accepted m → (target.inbox.id, e.sourceId) ∈ tb.keys
  contact : e.body = .contactCard → ∀ new, e.sender.bind (NewContact.ofSender? target.inbox) = some new →
    tb.Linked new.inbox new.sourceId

theorem Tables.Knows.later (h : w.tables.Knows target e) (hp : w.Passes o t w') : w'.tables.Knows target e where
  message m hm := hp.mem_keys_iff.2 (.inl (h.message m hm))
  contact hb new hn := (h.contact hb new hn).mono hp.links

namespace Ingest

/-! ### What one event leads to -/

theorem Handled.accepted_of_created {source : String} {messages : List Snowflake} {count : Nat}
    (h : Handled target e t (.ok (.messageCreated source messages count))) :
    source = e.sourceId ∧ ∃ m, e.Accepted m := by
  cases h with
  | quiet _ _ hn => cases hn
  | granted hm hp => exact ⟨hp.written.1, _, hm⟩

theorem Handled.unclaimed_after {r : Except DomainError EventOutcome} (h : Handled target e t r)
    (ho : o.releases = false) (hp : w.Passes o t w') (hc : ∀ c, ¬ w.Claimed c) : ∀ c, ¬ w'.Claimed c := by
  intro c hc'
  rcases hp.claimed hc' with hbefore | ⟨x, hx, hg⟩
  · exact hc c hbefore
  · obtain ⟨rfl, -⟩ := h.sought hx (Exchange.sought_of_granted hg)
    exact h.not_claimed ho hp (hc _) hc'

theorem Persisted.found_of_mem {source : String} {m : InboundMessage} {r : Except DomainError EventOutcome}
    (h : Persisted target source m t r) {t' : List Exchange} (hp : w.Passes o (t ++ t') w')
    (hk : (target.inbox.id, source) ∈ w.tables.keys) :
    r = .ok (.dropped source .duplicate) ∧ ∀ x ∈ t, x.request.addsRows = false := by
  have hmissed {t'' : List Exchange} (hp : w.Passes o (⟨.findMessage target.inbox.id source, .ok none⟩ :: t'') w') :
      False :=
    hp.not_mem_of_missed rfl hk
  cases h with
  | unread =>
    obtain ⟨w₀, w₁, -, ha, -⟩ := hp.uncons
    cases ha.findMessage
  | found => exact ⟨rfl, List.forall_mem_singleton.2 rfl⟩
  | unresolved | beaten | refused | torn | created => exact (hmissed hp).elim

/-! ### The first time -/

theorem handleEvent_knows {outcome : EventOutcome} (h : (handleEvent target e).run.Yields t (.ok outcome))
    (hp : w.Passes o t w') (hc : ∀ c, ¬ w.Claimed c) : w'.tables.Knows target e where
  message m hm := (handleEvent_yields h).stored hm hp (hc _)
  contact hb new hn := by
    rw [handleEvent, hb] at h
    obtain ⟨outcome', h', -⟩ := Attempt.yields_lift.1 h
    cases resolveCard_yields h' with
    | missing hnone =>
      rw [hn] at hnone
      cases hnone
    | resolved hsome | refused hsome =>
      cases hn.symm.trans hsome
      exact hp.linked_of_upsert List.mem_cons_self

/-! ### Once more -/

theorem handleEvent_again {r : Except DomainError EventOutcome} (h : (handleEvent target e).run.Yields t r)
    (hp : w.Passes o t w') (hc : ∀ c, ¬ w.Claimed c) (hk : w.tables.Knows target e) :
    w'.tables.holdings = w.tables.holdings ∧ ∃ outcome, r = .ok outcome ∧ EventOutcome.DropsAccepted e outcome := by
  by_cases hm : ∃ m, e.Accepted m
  · obtain ⟨m, hm⟩ := hm
    cases handleEvent_yields h with
    | quiet hn => exact absurd hm (hn m)
    | unclaimed =>
      obtain ⟨w₀, w₁, -, ha, -⟩ := hp.uncons
      obtain ⟨granted, hb, -⟩ := ha.tryClaim
      cases hb
    | denied => exact absurd hp.claimed_of_denied (hc _)
    | granted hm' hpers =>
      obtain ⟨w₀, w₁, h₀, ha, h₁⟩ := hp.uncons
      have hkey : (target.inbox.id, e.sourceId) ∈ w₁.tables.keys :=
        ha.mem_keys (h₀.mem_keys_iff.2 (.inl (hk.message m hm)))
      obtain ⟨rfl, hadds⟩ := hpers.found_of_mem h₁ hkey
      refine ⟨hp.holdings ?_, _, rfl, fun _ _ => rfl⟩
      exact List.forall_mem_cons.2 ⟨rfl, List.forall_mem_append.2 ⟨hadds, List.forall_mem_singleton.2 rfl⟩⟩
  · rw [not_exists] at hm
    obtain ⟨outcome, rfl, hrequests⟩ := handleEvent_unaccepted hm h
    refine ⟨?_, outcome, rfl, fun m hm' => absurd hm' (hm m)⟩
    rcases hrequests with hfollow | ⟨new, b, hb, hn, rfl⟩
    · exact hp.holdings fun x hx => Request.addsRows_of_isFollowUp (hfollow x hx)
    · exact hp.holdings_of_linked (hk.contact hb new hn)

/-! ### All events of a job -/

theorem handleEvents_knows {outcomes : List EventOutcome} (ho : o.releases = false)
    (h : (handleEvents target es).run.Yields t (.ok outcomes)) (hp : w.Passes o t w') (hc : ∀ c, ¬ w.Claimed c) :
    (∀ e ∈ es, w'.tables.Knows target e) ∧ (∀ c, ¬ w'.Claimed c) ∧
      List.Forall₂ EventOutcome.CreatesAccepted es outcomes := by
  induction es generalizing t w outcomes with
  | nil =>
    obtain ⟨rfl, heq⟩ := h
    cases heq
    exact ⟨by simp, hp.unclaimed (by simp) hc, .nil⟩
  | cons e es ih =>
    rcases handleEvents_cons h with ⟨error, -, heq⟩ | ⟨t₁, outcome, t₂, rest, rfl, h₁, h₂, heq⟩
    · cases heq
    obtain ⟨w₁, hp₁, hp₂⟩ := hp.split
    have hh := handleEvent_yields h₁
    cases rest with
    | error => cases heq
    | ok rest =>
      cases heq
      obtain ⟨hknown, hclaims, hrest⟩ := ih h₂ hp₂ (hh.unclaimed_after ho hp₁ hc)
      have hfirst := (handleEvent_knows h₁ hp₁ hc).later hp₂
      refine ⟨List.forall_mem_cons.2 ⟨hfirst, hknown⟩, hclaims, .cons ?_ hrest⟩
      rintro source messages count rfl
      exact hh.accepted_of_created

theorem handleEvents_again {r : Except DomainError (List EventOutcome)} (ho : o.releases = false)
    (h : (handleEvents target es).run.Yields t r) (hp : w.Passes o t w') (hc : ∀ c, ¬ w.Claimed c)
    (hk : ∀ e ∈ es, w.tables.Knows target e) :
    w'.tables.holdings = w.tables.holdings ∧ (∀ c, ¬ w'.Claimed c) ∧
      ∃ outcomes, r = .ok outcomes ∧ List.Forall₂ EventOutcome.DropsAccepted es outcomes := by
  induction es generalizing t w r with
  | nil =>
    obtain ⟨rfl, rfl⟩ := h
    exact ⟨hp.holdings (by simp), hp.unclaimed (by simp) hc, [], rfl, .nil⟩
  | cons e es ih =>
    obtain ⟨hfirst, hrest⟩ := List.forall_mem_cons.1 hk
    rcases handleEvents_cons h with ⟨error, h₁, -⟩ | ⟨t₁, outcome, t₂, rest, rfl, h₁, h₂, rfl⟩
    · obtain ⟨-, outcome, hok, -⟩ := handleEvent_again h₁ hp hc hfirst
      cases hok
    obtain ⟨w₁, hp₁, hp₂⟩ := hp.split
    obtain ⟨hheld, outcome', hok, hdrop⟩ := handleEvent_again h₁ hp₁ hc hfirst
    cases hok
    have hc₁ := (handleEvent_yields h₁).unclaimed_after ho hp₁ hc
    obtain ⟨hheld₂, hclaims, outcomes, rfl, hall⟩ := ih h₂ hp₂ hc₁ fun e he => (hrest e he).later hp₁
    exact ⟨hheld₂.trans hheld, hclaims, outcome :: outcomes, rfl, .cons hdrop hall⟩

end Ingest

end Intake
