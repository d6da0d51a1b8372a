import Intake.Proofs.Clashes.Ids
import Intake.Proofs.Report.Dropped
import Intake.Proofs.Retry.Equivalence

/-!
# What one event stores when nothing fails

An event that is accepted and gets its claim has an outcome if the store is calm and links lead to contacts. It is a
duplicate if its id is stored; if not, it adds those of its messages whose ids are not stored (`Runs.settles`). Events
that are not accepted add none.
-/

namespace Intake

open Ingest

theorem Tables.Rooted.congr {t t' : Tables} (h : t.Rooted) (hc : t'.contacts = t.contacts)
    (hl : t'.contactInboxes = t.contactInboxes) : t'.Rooted := by
  rw [Rooted, hc, hl]
  exact h

namespace World

variable {o : Conditions} {fetch : Channel → MediaDescriptor → Option FetchedMedia} {w w' : World} {r : Request}
  {b : r.Reply} {t : List Exchange} {target : ResolvedChannel} {e : IncomingEvent} {source : String}
  {m : InboundMessage} {new : NewContact}

/-! ### Links -/

theorem Replies.rooted {clocks : Time → Prop} (h : w.Replies clocks o r b w') (hr : w.tables.Rooted) :
    w'.tables.Rooted := by
  cases hadds : r.addsRows with
  | false =>
    have hsame := h.holdings hadds
    simp only [Tables.holdings, Holdings.mk.injEq] at hsame
    exact hr.congr hsame.1 hsame.2.1
  | true =>
    rcases h with ⟨clock, file, -, -, ha⟩ | ⟨e, -, -, rfl⟩
    · cases r with
      | upsertContact new =>
        cases ha
        obtain ⟨c, hc⟩ := w.store.upsertContact_ok hr clock new
        exact (w.store.links_of_upsertContact hc).rooted hr
      | createMessage m =>
        cases ha
        exact hr.congr (w.store.createMessage_contacts m) (w.store.createMessage_links m)
      | createConversation | createAttachment =>
        cases ha
        exact hr
      | _ => cases hadds
    · exact hr

theorem Runs.rooted (h : w.Runs o t w') (hr : w.tables.Rooted) : w'.tables.Rooted := by
  induction h with
  | nil => exact hr
  | exchange hd _ ih => exact ih (hd.rooted hr)
  | waits _ _ ih => exact ih hr

/-! ### Claims -/

/-- What is done under a claim; the claim and its release leave the tables alone. -/
theorem Runs.under_claim {channel : Snowflake} {released : Except DomainError Unit}
    (hr : w.Runs (.calm fetch)
      (⟨.tryClaim channel source, .ok true⟩ :: (t ++ [⟨.release channel source, released⟩])) w') :
    ∃ w₁ w₂ : World, w.Runs (.calm fetch) [⟨.tryClaim channel source, .ok true⟩] w₁ ∧ w₁.Runs (.calm fetch) t w₂ ∧
      w₁.tables = w.tables ∧ w'.tables = w₂.tables := by
  obtain ⟨w₁, hr₁, hrest⟩ := hr.head
  obtain ⟨w₂, hr₂, hr₃⟩ := hrest.split
  exact ⟨w₁, w₂, hr₁, hr₂, (hr₁.untouched (List.forall_mem_singleton.2 rfl)).tables,
    (hr₃.untouched (List.forall_mem_singleton.2 rfl)).tables⟩

theorem Runs.granted {channel : Snowflake} {body : Attempt EventOutcome} {r : Except DomainError EventOutcome}
    (hr : w.Runs (.calm fetch) t w') (h : ClaimCase channel source body t r) (hfree : ¬w.Claimed (channel, source)) :
    ∃ t' released, t = ⟨.tryClaim channel source, .ok true⟩ :: (t' ++ [⟨.release channel source, released⟩]) ∧
      body.run.Yields t' r := by
  cases h with
  | failed =>
    obtain ⟨now, w₁, hd, -⟩ := hr.cons
    obtain ⟨granted, hb, -⟩ := hd.answers_of_calm.tryClaim
    cases hb
  | denied =>
    obtain ⟨now, hle, ⟨hnil, -⟩ | ⟨x, t', w₁, hcons, hd, -⟩⟩ := hr.uncons
    · cases hnil
    · cases hcons
      exact absurd (Claimed.of_later hle hd.answers_of_calm.claimed_of_denied) hfree
  | granted h => exact ⟨_, _, rfl, h⟩

/-! ### Keys -/

theorem Runs.keys_of_writing {ds : List Draft} (hr : w.Runs (.calm fetch) t w') (h : Writing ds t none)
    (hn : (ds.map Draft.key).Nodup) :
    w'.tables.keys = w.tables.keys ++ (ds.map Draft.key).filter (· ∉ w.tables.keys) := by
  generalize he : (none : Option DomainError) = e at h
  induction h generalizing w with
  | nil =>
    obtain ⟨now, rfl⟩ := hr.nil_eq
    exact (List.append_nil _).symm
  | @written d ds q t e hq _ ih =>
    obtain ⟨now, w₁, hd, hrest⟩ := hr.cons
    obtain ⟨w₂, hr₁, hr₂⟩ := hrest.split
    have hnew : d.key ∉ w.tables.keys := hd.written rfl
    have hkeys : w₂.tables.keys = w.tables.keys ++ [d.key] := (hr₁.keys_of_quiet hq).trans hd.keys
    obtain ⟨hd', hn⟩ := List.nodup_cons.1 hn
    have hsame : (ds.map Draft.key).filter (· ∉ w₂.tables.keys) = (ds.map Draft.key).filter (· ∉ w.tables.keys) := by
      refine List.filter_congr fun k hk => ?_
      have hne : k ≠ d.key := fun heq => hd' (heq ▸ hk)
      simp [hkeys, hne]
    rw [ih hr₂ hn he, hsame, hkeys, List.map_cons, List.filter_cons_of_pos (by simpa using hnew), List.append_assoc]
    rfl
  | @present d ds inbox source t e _ ih =>
    obtain ⟨now, w₁, hd, hrest⟩ := hr.cons
    have hmem : d.key ∈ (w.later now).tables.keys := Deals.mem_keys_of_beaten (Conditions.calm_honest fetch) hd
    change d.key ∈ w.tables.keys at hmem
    have hkeys : w₁.tables.keys = w.tables.keys := hd.keys.trans (List.append_nil _)
    rw [ih hrest (List.nodup_cons.1 hn).2 he, hkeys, List.map_cons, List.filter_cons_of_neg (by simpa using hmem)]
  | refused => cases he

theorem Runs.persist_ok {r : Except DomainError EventOutcome} (hr : w.Runs (.calm fetch) t w') (hw : w.Calm)
    (hroot : w.tables.Rooted) (h : (persist target source m new).run.Yields t r) : ∃ outcome, r = .ok outcome := by
  have haccepted := hr.accepted hw
  cases persist_cases h with
  | unread =>
    obtain ⟨now, w₁, hd, -⟩ := hr.cons
    cases hd.answers_of_calm.findMessage
  | found => exact ⟨_, rfl⟩
  | unlinked =>
    obtain ⟨w₁, hr₁, hr₂⟩ := hr.head
    obtain ⟨c, hc, -⟩ := hr₂.flaky.links (hr₁.rooted hroot)
    cases hc
  | unjoined hj =>
    obtain ⟨w₁, -, hrest⟩ := hr.head
    obtain ⟨w₂, -, hr₂⟩ := hrest.head
    obtain ⟨v, hv, -⟩ := hr₂.flaky.joins hj
    cases hv
  | drafted hj hd hw =>
    cases write_cases hw with
    | nothing | beaten => exact ⟨_, rfl⟩
    | refused hrefused =>
      have hnone := haccepted _ (List.mem_cons_of_mem _ (List.mem_cons_of_mem _ (List.mem_append_right _ (.head _))))
      cases hrefused.symm.trans hnone
    | written ha hrest =>
      rcases writeRest_yields hrest with ⟨-, messages, count, rfl⟩ | ⟨error, hwriting, rfl⟩
      · exact ⟨_, rfl⟩
      · have hds : DraftsOf target source m _ := drafts_keys (fun _ _ _ _ => drafter_key) hd
        have hnodup := hds ▸ messageKeys_nodup target source m
        obtain ⟨x, hx, k, hk, -⟩ := hwriting.missing (List.nodup_cons.1 hnodup).2
        cases hk.symm.trans (haccepted x (by simp [hx]))

/-- Under its claim an event is a duplicate if its id is there, and adds those of its messages that are not there if
not. -/
theorem Runs.keys_of_persisted {outcome : EventOutcome} (hr : w.Runs (.calm fetch) t w')
    (h : Persisted target source m t (.ok outcome)) :
    (target.inbox.id, source) ∈ w.tables.keys ∧ outcome = .dropped source .duplicate ∧ w'.tables.keys = w.tables.keys ∨
      (target.inbox.id, source) ∉ w.tables.keys ∧ (∃ messages count, outcome = .messageCreated source messages count) ∧
        w'.tables.keys = w.tables.keys ++ (messageKeys target source m).filter (· ∉ w.tables.keys) := by
  generalize hok : Except.ok outcome = r at h
  cases h with
  | unread | unresolved | refused | torn => cases hok
  | found =>
    cases hok
    obtain ⟨now, w₁, hd, hrest⟩ := hr.cons
    obtain ⟨hfound, rfl⟩ := hd.findMessage_ok
    obtain ⟨now', rfl⟩ := hrest.nil_eq
    exact .inl ⟨Tables.mem_keys_iff.2 (congrArg Option.isSome hfound), rfl, rfl⟩
  | beaten hq hds =>
    obtain ⟨hinbox, hsource⟩ := Prod.mk.inj hds.head
    rw [← hinbox, ← hsource] at hr
    exact absurd hq (hr.not_beaten (Conditions.calm_honest fetch))
  | @created q q' t d ds messages count hq hds hq' hwriting =>
    cases hok
    obtain ⟨now, w₁, hd, hrest⟩ := hr.cons
    obtain ⟨hnone, rfl⟩ := hd.findMessage_ok
    have hnew : (target.inbox.id, source) ∉ w.tables.keys := fun hmem => by
      cases (Tables.mem_keys_iff.1 hmem).symm.trans (congrArg Option.isSome hnone)
    obtain ⟨w₂, hr₁, hr₂⟩ := hrest.split
    refine .inr ⟨hnew, ⟨messages, count, rfl⟩, ?_⟩
    -- The first message is written like the others.
    have hwritten : Writing (d :: ds) (⟨.createMessage d.message, .ok ()⟩ :: (q' ++ t)) none := .written hq' hwriting
    have hkeys := hr₂.keys_of_writing hwritten (hds ▸ messageKeys_nodup target source m)
    rw [hkeys, hds, hr₁.keys_of_quiet hq]
    rfl

end World

/-! ### One event -/

/-- The event is a duplicate, or it adds those of its messages that are not there. -/
inductive Settles (target : ResolvedChannel) (e : IncomingEvent) (w w' : World) :
    Except DomainError EventOutcome → Prop
  | duplicate :
    e.sourceId ∈ e.ids → (target.inbox.id, e.sourceId) ∈ w.tables.keys → w'.tables.keys = w.tables.keys →
      Settles target e w w' (.ok (.dropped e.sourceId .duplicate))
  | adds {r : Except DomainError EventOutcome} :
    (e.sourceId ∈ e.ids → (target.inbox.id, e.sourceId) ∉ w.tables.keys) → (∀ id, r ≠ .ok (.dropped id .duplicate)) →
      w'.tables.keys = w.tables.keys ++ (e.ids.map (Prod.mk target.inbox.id)).filter (· ∉ w.tables.keys) →
      Settles target e w w' r

namespace World

variable {fetch : Channel → MediaDescriptor → Option FetchedMedia} {w w' : World} {t : List Exchange}
  {target : ResolvedChannel} {e : IncomingEvent} {r : Except DomainError EventOutcome}

theorem Runs.settles_of_quiet (hr : w.Runs (.calm fetch) t w') (hy : (handleEvent target e).run.Yields t r)
    (hn : ∀ m, ¬e.Accepted m) (hq : QuietTrace t) : Settles target e w w' r := by
  have hids : e.ids = [] := IncomingEvent.ids_of_not_accepted hn
  refine .adds (by simp [hids]) ?_ (by simp [hids, hr.keys_of_quiet hq])
  rintro id rfl
  cases handleEvent_dropped hy with
  | unguarded _ hne => exact hne rfl
  | found | beaten => cases hq _ (.head _)

/-- A claim that is free is granted, and everything else of the event is done under it. -/
theorem Runs.settles (hr : w.Runs (.calm fetch) t w') (hy : (handleEvent target e).run.Yields t r) (hw : w.Calm)
    (hroot : w.tables.Rooted) (hfree : ¬w.Claimed (target.channel.id, e.sourceId)) : Settles target e w w' r := by
  by_cases hacc : ∃ m, e.Accepted m
  · obtain ⟨m, hm⟩ := hacc
    obtain ⟨new, hclaimed⟩ := handleEvent_of_accepted target hm
    rw [hclaimed] at hy
    obtain ⟨t, released, rfl, hpersist⟩ := hr.granted (claimed_cases hy) hfree
    obtain ⟨w₁, w₂, hr₁, hr₂, hclaim, hrelease⟩ := hr.under_claim
    obtain ⟨outcome, rfl⟩ := hr₂.persist_ok (hr₁.calm hw) (hr₁.rooted hroot) hpersist
    rcases hr₂.keys_of_persisted (persist_yields hpersist) with
      ⟨hmem, rfl, hkeys⟩ | ⟨hnew, ⟨messages, count, rfl⟩, hkeys⟩
    · rw [hclaim] at hmem hkeys
      exact .duplicate hm.mem_ids hmem ((congrArg Tables.keys hrelease).trans hkeys)
    · rw [hclaim] at hnew hkeys
      refine .adds (fun _ => hnew) (fun _ => nofun) ?_
      rw [IncomingEvent.ids_of_accepted hm, hrelease]
      exact hkeys
  · cases handleEvent_yields hy with
    | quiet hn hq => exact hr.settles_of_quiet hy hn hq
    | unclaimed hm | denied hm | granted hm => exact absurd ⟨_, hm⟩ hacc

end World

end Intake
