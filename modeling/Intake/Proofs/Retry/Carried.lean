import Intake.Proofs.Integrity.Step
import Intake.Proofs.Retry.Effects
import Intake.Proofs.World.Flaky
import Intake.Proofs.World.Lasting

/-!
# What requests do while failures come and go

Under `Conditions.flaky` the parts of a delivery change the tables as `Tables.Links`, `Tables.Joins` and so on say, one
lemma for each. They speak of the tables without the status of messages (`Tables.recorded`), which reports change and
which no other part of a delivery reads.
-/

namespace Intake

open Ingest

namespace Tables

theorem recorded_eq {t t' : Tables} (ht : t'.tenants = t.tenants) (hh : t'.holdings = t.holdings) :
    t'.recorded = t.recorded := by
  simp only [tenants, holdings, Prod.mk.injEq, Holdings.mk.injEq] at ht hh
  simp [recorded, ht, hh]

theorem Links.recorded {t t' : Tables} {new : NewContact} {c : ResolvedContact} (h : t.Links new c t') :
    t.recorded.Links new c t'.recorded := by
  cases h with
  | linked hl hc => exact .linked hl hc
  | known hl hc hlink => exact .known hl hc hlink
  | new hl hc hcontact hlink => exact .new hl hc hcontact hlink

theorem recorded_keys (t : Tables) : t.recorded.keys = t.keys := by
  rw [keys, recorded, records, List.map_map]
  rfl

end Tables

namespace World

variable {o : Conditions} {fetch : Channel → MediaDescriptor → Option FetchedMedia} {w w' : World} {r : Request}
  {b : r.Reply} {t : List Exchange}

/-! ## Single requests -/

theorem Deals.recorded_eq (h : w.Deals o r b w') (hr : r.addsRows = false) : w'.tables.recorded = w.tables.recorded :=
  Tables.recorded_eq h.tenants (h.holdings hr)

theorem Runs.recorded_eq (h : w.Runs o t w') (ht : ∀ x ∈ t, x.request.addsRows = false) :
    w'.tables.recorded = w.tables.recorded :=
  Tables.recorded_eq h.tenants (h.holdings ht)

theorem Runs.fetched (h : w.Runs (.flaky fetch) t w') : ∀ x ∈ t, x.Fetched fetch := by
  induction h with
  | nil => exact fun _ hx => absurd hx List.not_mem_nil
  | @exchange _ _ _ r _ _ hd _ ih =>
    refine List.forall_mem_cons.2 ⟨?_, ih⟩
    cases r with
    | fetch channel media =>
      rcases hd with ⟨clock, file, -, hfile, ha⟩ | ⟨e, -, hb, -⟩
      · cases ha
        exact hfile channel media rfl
      · cases hb
    | _ => trivial
  | waits _ _ ih => exact ih

theorem Runs.one {x : Exchange} (h : w.Runs o [x] w') :
    ∃ v v' : World, v.Deals o x.request x.reply v' ∧ v.tables = w.tables ∧ w'.tables = v'.tables := by
  obtain ⟨now, w₁, hd, hr⟩ := h.cons
  obtain ⟨now', rfl⟩ := hr.nil_eq
  exact ⟨_, w₁, hd, rfl, rfl⟩

theorem Runs.head {x : Exchange} (h : w.Runs o (x :: t) w') : ∃ w₁, w.Runs o [x] w₁ ∧ w₁.Runs o t w' :=
  Runs.split (List.singleton_append ▸ h)

theorem Deals.of_flaky (h : w.Deals (.flaky fetch) r b w') (hr : ∀ e, r.mayFail e = false) :
    ∃ clock file, w.answer? clock file r = some (b, w') := by
  rcases h with ⟨clock, file, -, -, ha⟩ | ⟨e, he, -⟩
  · exact ⟨clock, file, ha⟩
  · cases (hr e).symm.trans he

theorem Runs.findMessage {inbox : Snowflake} {source : String} {b : Except DomainError (Option Message)}
    (h : w.Runs (.flaky fetch) [⟨.findMessage inbox source, b⟩] w') :
    ∃ found, b = .ok found ∧ (found.isSome = true ↔ (inbox, source) ∈ w.tables.recorded.keys) ∧
      w'.tables.recorded = w.tables.recorded := by
  obtain ⟨v, v', hd, hv, hv'⟩ := h.one
  obtain ⟨clock, file, ha⟩ := hd.of_flaky fun _ => rfl
  cases ha
  refine ⟨_, rfl, ?_, by rw [hv', hv]⟩
  rw [w.tables.recorded_keys, Tables.mem_keys_iff, hv]

theorem Runs.links {new : NewContact} {b : Except DomainError ResolvedContact}
    (h : w.Runs (.flaky fetch) [⟨.upsertContact new, b⟩] w') (hr : w.tables.recorded.Rooted) :
    ∃ c, b = .ok c ∧ w.tables.recorded.Links new c w'.tables.recorded := by
  obtain ⟨v, v', hd, hv, hv'⟩ := h.one
  obtain ⟨clock, file, ha⟩ := hd.of_flaky fun _ => rfl
  obtain ⟨rfl, rfl⟩ := Prod.mk.inj (Option.some.inj ha)
  rw [← hv] at hr ⊢
  rw [hv']
  obtain ⟨c, hc⟩ := v.store.upsertContact_ok hr clock new
  exact ⟨c, hc, (v.store.links_of_upsertContact hc).recorded⟩

theorem Runs.createMessage {m : Message} {b : Except DomainError Unit}
    (h : w.Runs (.flaky fetch) [⟨.createMessage m, b⟩] w') :
    (w'.tables.recorded = w.tables.recorded ∧
      ((∃ e, b = .error e ∧ Exchange.refused ⟨.createMessage m, b⟩ = some m.key) ∨ m.key ∈ w.tables.recorded.keys)) ∨
      b = .ok () ∧ w'.tables.recorded =
        { w.tables.recorded with messages := w.tables.recorded.messages ++ [m.record] } := by
  obtain ⟨v, v', hd, hv, hv'⟩ := h.one
  rw [w.tables.recorded_keys, ← hv, hv']
  rcases hd with ⟨clock, file, -, -, ha⟩ | ⟨e, he, hb, rfl⟩
  · obtain ⟨rfl, rfl⟩ := Prod.mk.inj (Option.some.inj ha)
    rcases v.store.createMessage_cases m with ⟨ht, hb | ⟨hk, -⟩⟩ | ⟨-, hb, -⟩
    · refine .inl ⟨congrArg Tables.recorded ht, .inl ⟨_, hb, ?_⟩⟩
      rw [hb]
      rfl
    · exact .inl ⟨congrArg Tables.recorded ht, .inr hk⟩
    · refine .inr ⟨hb, ?_⟩
      rcases v.store.createMessage_tables m with ⟨-, hne⟩ | ⟨ht, -⟩
      · exact absurd hb hne
      · refine (congrArg Tables.recorded ht).trans ?_
        simp [Tables.recorded, Tables.records, tables]
  · cases hb
    refine .inl ⟨rfl, .inl ⟨e, rfl, ?_⟩⟩
    cases e with
    | duplicateSourceId => cases he
    | _ => rfl

theorem Runs.findConversation {link : Snowflake} {filter : ConversationFilter}
    {b : Except DomainError (Option Conversation)}
    (h : w.Runs (.flaky fetch) [⟨.findConversation link filter, b⟩] w') :
    b = .ok (w.tables.recorded.findConversation link filter) ∧ w'.tables.recorded = w.tables.recorded := by
  obtain ⟨v, v', hd, hv, hv'⟩ := h.one
  obtain ⟨clock, file, ha⟩ := hd.of_flaky fun _ => rfl
  cases ha
  rw [hv', hv]
  exact ⟨rfl, rfl⟩

theorem Runs.createConversation {c : Conversation} {b : Except DomainError Unit}
    (h : w.Runs (.flaky fetch) [⟨.createConversation c, b⟩] w') :
    b = .ok () ∧ w'.tables.recorded = w.tables.recorded.addConversation c := by
  obtain ⟨v, v', hd, hv, hv'⟩ := h.one
  obtain ⟨clock, file, ha⟩ := hd.of_flaky fun _ => rfl
  cases ha
  exact ⟨rfl, by rw [hv', ← hv]; rfl⟩

theorem Runs.createAttachment {a : Attachment} {b : Except DomainError Unit}
    (h : w.Runs (.flaky fetch) [⟨.createAttachment a, b⟩] w') :
    b = .ok () ∧ w'.tables.recorded = w.tables.recorded.addAttachment a := by
  obtain ⟨v, v', hd, hv, hv'⟩ := h.one
  obtain ⟨clock, file, ha⟩ := hd.of_flaky fun _ => rfl
  cases ha
  exact ⟨rfl, by rw [hv', ← hv]; rfl⟩

/-! ## Parts of a delivery -/

theorem Runs.joins {inbox : Inbox} {contact : ResolvedContact} {r : Except DomainError Conversation}
    (hr : w.Runs (.flaky fetch) t w') (h : (resolveConversation inbox contact).run.Yields t r) :
    ∃ v, r = .ok v ∧ w.tables.recorded.Joins inbox contact v w'.tables.recorded := by
  unfold resolveConversation at h
  rcases Attempt.yields_bind.1 h with ⟨e, h₁, rfl⟩ | ⟨t₁, found, t₂, rfl, h₁, h₂⟩
  · obtain rfl := Program.yields_request.1 h₁
    cases hr.findConversation.1
  obtain rfl := Program.yields_request.1 h₁
  obtain ⟨w₁, hr₁, hr₂⟩ := hr.split
  obtain ⟨hfound, hsame⟩ := hr₁.findConversation
  cases found with
  | some v =>
    obtain ⟨rfl, rfl⟩ := h₂
    obtain ⟨now, rfl⟩ := hr₂.nil_eq
    refine ⟨v, rfl, ?_⟩
    change Tables.Joins _ _ _ _ w₁.tables.recorded
    rw [hsame]
    exact .existing (Except.ok.inj hfound).symm
  | none =>
    obtain ⟨t₃, id, t₄, rfl, h₃, h₄⟩ := Attempt.yields_lift_bind.1 h₂
    obtain ⟨t₅, now, t₆, rfl, h₅, h₆⟩ := Attempt.yields_lift_bind.1 h₄
    obtain rfl := Program.yields_request.1 h₃
    obtain rfl := Program.yields_request.1 h₅
    obtain ⟨w₂, hr₃, hr₄⟩ := hr₂.split
    obtain ⟨w₃, hr₅, hr₆⟩ := hr₄.split
    have hsame' : w₃.tables.recorded = w.tables.recorded := by
      rw [hr₅.recorded_eq (by simp [Request.addsRows]), hr₃.recorded_eq (by simp [Request.addsRows]), hsame]
    rcases Attempt.yields_bind.1 h₆ with ⟨e, h₇, rfl⟩ | ⟨t₇, _, t₈, rfl, h₇, h₈⟩
    · obtain rfl := Program.yields_request.1 h₇
      cases hr₆.createConversation.1
    · obtain rfl := Program.yields_request.1 h₇
      obtain ⟨rfl, rfl⟩ := h₈
      rw [List.append_nil] at hr₆
      rw [hr₆.createConversation.2, hsame']
      exact ⟨_, rfl, .opened (Except.ok.inj hfound).symm rfl⟩

theorem Runs.attaches {as : List Attachment} {n : Nat} (hr : w.Runs (.flaky fetch) t w')
    (h : (writeAttachments as).Yields t n) :
    w'.tables.recorded = { w.tables.recorded with attachments := w.tables.recorded.attachments ++ as } := by
  induction as generalizing w t n with
  | nil =>
    obtain ⟨rfl, -⟩ := h
    obtain ⟨now, rfl⟩ := hr.nil_eq
    rw [List.append_nil]
    rfl
  | cons a as ih =>
    obtain ⟨t₁, b, t₂, rfl, h₁, h₂⟩ := Program.yields_bind.1 h
    obtain ⟨t₃, rest, t₄, rfl, h₃, rfl, -⟩ := Program.yields_bind.1 h₂
    obtain rfl := Program.yields_request.1 h₁
    rw [List.append_nil] at hr
    obtain ⟨w₁, hr₁, hr₂⟩ := hr.split
    rw [ih hr₂ h₃, hr₁.createAttachment.2]
    simp [Tables.addAttachment]

/-- Up to the writing of its drafts, a message that is not there is made ready for. -/
theorem Runs.readies {target : ResolvedChannel} {source : String} {new : NewContact} {c : ResolvedContact}
    {v : Conversation} {t₁ t₂ t₃ : List Exchange}
    (hr : w.Runs (.flaky fetch)
      (⟨.findMessage target.inbox.id source, .ok none⟩ :: ⟨.upsertContact new, .ok c⟩ :: (t₁ ++ t₂ ++ t₃)) w')
    (hroot : w.tables.recorded.Rooted) (hj : (resolveConversation target.inbox c).run.Yields t₁ (.ok v))
    (hsupplies : ∀ x ∈ t₂, x.request.isSupply = true) :
    (target.inbox.id, source) ∉ w.tables.recorded.keys ∧ ∃ w₁ w₂ : World, w₁.Runs (.flaky fetch) t₂ w₂ ∧
      w.tables.recorded.Readies target.inbox new c v w₂.tables.recorded ∧ w₂.Runs (.flaky fetch) t₃ w' := by
  obtain ⟨w₁, hr₁, hr₂⟩ := hr.head
  obtain ⟨w₂, hr₂, hr₃⟩ := hr₂.head
  obtain ⟨w₄, hr₃, hr₅⟩ := hr₃.split
  obtain ⟨w₃, hr₃, hr₄⟩ := hr₃.split
  obtain ⟨_, heq, hfound, hsame₁⟩ := hr₁.findMessage
  cases heq
  obtain ⟨_, heq, hlinks⟩ := hr₂.links (hsame₁ ▸ hroot)
  cases heq
  obtain ⟨_, heq, hjoins⟩ := hr₃.joins hj
  cases heq
  have hsame₄ : w₄.tables.recorded = w₃.tables.recorded :=
    hr₄.recorded_eq fun x hx => Request.addsRows_of_isSupply (hsupplies x hx)
  refine ⟨by simpa using hfound, w₃, w₄, hr₄, ?_, hr₅⟩
  rw [hsame₄]
  exact ⟨hsame₁ ▸ hlinks, hjoins⟩

end World

end Intake
