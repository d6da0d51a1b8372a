import Intake.Proofs.Tenants.Alike
import Intake.Proofs.Tenants.Calm

/-!
# Twins

Two worlds are twins for a target if its rows are alike in both. A request of a delivery is answered alike in twins as
long as nothing is refused, downloads bring the same and the guard heeds the same claims, and leaves them twins
(`World.Twin.deals`). What `Guided` says of the requests is needed on the way: a conversation is made only where none
was found to join, so moments of creation decide nothing.
-/

namespace Intake

/-! ## Ids that stand for each other -/

namespace Snowflake.Generator

variable {g g' h h' : Generator} {R : Snowflake → Snowflake → Prop} {clock clock' : Int}

/-- Ids that stand for each other were made by the two generators, and each stands for one. -/
structure Pairs (g g' : Generator) (R : Snowflake → Snowflake → Prop) : Prop where
  unique : Relator.BiUnique R
  issued : ∀ i j, R i j → g.Issued i ∧ g'.Issued j

/-- The ids that the generators make next stand for each other, too. -/
def Next (g g' : Generator) (clock clock' : Int) (R : Snowflake → Snowflake → Prop) (i j : Snowflake) : Prop :=
  R i j ∨ i = (g.generate clock).1 ∧ j = (g'.generate clock').1

theorem Pairs.mono (hp : g.Pairs g' R) (hg : ∀ id, g.Issued id → h.Issued id)
    (hg' : ∀ id, g'.Issued id → h'.Issued id) :
    h.Pairs h' R :=
  ⟨hp.unique, fun i j hij => ⟨hg i (hp.issued i j hij).1, hg' j (hp.issued i j hij).2⟩⟩

theorem Pairs.next (hp : g.Pairs g' R) (h₀ : 0 ≤ g.stamp) (h₀' : 0 ≤ g'.stamp)
    (hr : (g.generate clock).2.stamp < 2 ^ 54) (hr' : (g'.generate clock').2.stamp < 2 ^ 54) :
    (g.generate clock).2.Pairs (g'.generate clock').2 (g.Next g' clock clock' R) := by
  have hnew := not_issued_generate h₀ hr
  have hnew' := not_issued_generate h₀' hr'
  refine ⟨Renaming.biUnique_insert hp.unique (fun j hij => hnew (hp.issued _ j hij).1)
    fun i hij => hnew' (hp.issued i _ hij).2, ?_⟩
  rintro i j (hij | ⟨rfl, rfl⟩)
  · exact ⟨(hp.issued i j hij).1.generate, (hp.issued i j hij).2.generate⟩
  · exact ⟨issued_generate h₀, issued_generate h₀'⟩

end Snowflake.Generator

/-- The renaming has grown by ids that neither world had made. -/
structure Renaming.Grows (ρ ρ' : Renaming) (w v : World) : Prop where
  le : ρ ≤ ρ'
  store : ∀ i j, ρ'.store i j → ρ.store i j ∨ ¬ w.store.ids.Issued i ∧ ¬ v.store.ids.Issued j
  made : ∀ i j, ρ'.made i j → ρ.made i j ∨ ¬ w.ids.Issued i ∧ ¬ v.ids.Issued j

theorem Renaming.Grows.refl (ρ : Renaming) (w v : World) : ρ.Grows ρ w v :=
  ⟨ρ.le_refl, fun _ _ h => .inl h, fun _ _ h => .inl h⟩

theorem Renaming.Grows.trans {ρ ρ₁ ρ₂ : Renaming} {w v w' v' : World} (h : ρ.Grows ρ₁ w v) (h' : ρ₁.Grows ρ₂ w' v')
    (hi : (∀ id, w.ids.Issued id → w'.ids.Issued id) ∧ ∀ id, w.store.ids.Issued id → w'.store.ids.Issued id)
    (hi' : (∀ id, v.ids.Issued id → v'.ids.Issued id) ∧ ∀ id, v.store.ids.Issued id → v'.store.ids.Issued id) :
    ρ.Grows ρ₂ w v := by
  refine ⟨le_trans h.le h'.le, fun i j hij => ?_, fun i j hij => ?_⟩
  · rcases h'.store i j hij with hij | ⟨hi₂, hj₂⟩
    · exact h.store i j hij
    · exact .inr ⟨fun hid => hi₂ (hi.2 i hid), fun hid => hj₂ (hi'.2 j hid)⟩
  · rcases h'.made i j hij with hij | ⟨hi₂, hj₂⟩
    · exact h.made i j hij
    · exact .inr ⟨fun hid => hi₂ (hi.1 i hid), fun hid => hj₂ (hi'.1 j hid)⟩

/-! ## Twins -/

namespace World

variable {w w' v v' : World} {target : ResolvedChannel} {hand : Hand} {others : Multiset Snowflake} {r : Request}
  {b : r.Reply} {fetch : Channel → MediaDescriptor → Option FetchedMedia}

/-- The target's rows are alike in both worlds, and so are the conversations that are found to join. -/
structure Twin (target : ResolvedChannel) (ρ : Renaming) (w v : World) : Prop where
  rows : (w.tables.within target).Like ρ (v.tables.within target)
  found : ∀ link link', ρ.store link link' → Option.Rel (Conversation.Like ρ)
    ((w.tables.within target).findConversation link target.inbox.joinable)
    ((v.tables.within target).findConversation link' target.inbox.joinable)
  store : w.store.ids.Pairs v.store.ids ρ.store
  made : w.ids.Pairs v.ids ρ.made

namespace Twin

variable {ρ ρ' : Renaming} {hand' : Hand} {others' : Multiset Snowflake}

/-- The exchanges are alike, and leave twins behind. -/
def Becomes (target : ResolvedChannel) (ρ : Renaming) (w v : World) (x x' : Exchange) (w' v' : World) : Prop :=
  ∃ ρ', ρ.Grows ρ' w v ∧ Exchange.Like ρ' x x' ∧ Twin target ρ' w' v'

/-- Conversations are the same as before, and no id that stands for another is new. -/
theorem keep (h : Twin target ρ w v) (rows : (w'.tables.within target).Like ρ (v'.tables.within target))
    (hconv : (w'.tables.within target).conversations = (w.tables.within target).conversations)
    (hconv' : (v'.tables.within target).conversations = (v.tables.within target).conversations)
    (hi : (∀ id, w.ids.Issued id → w'.ids.Issued id) ∧ ∀ id, w.store.ids.Issued id → w'.store.ids.Issued id)
    (hi' : (∀ id, v.ids.Issued id → v'.ids.Issued id) ∧ ∀ id, v.store.ids.Issued id → v'.store.ids.Issued id) :
    Twin target ρ w' v' := by
  refine ⟨rows, fun link link' hl => ?_, h.store.mono hi.2 hi'.2, h.made.mono hi.1 hi'.1⟩
  rw [Tables.findConversation, Tables.findConversation, hconv, hconv']
  exact h.found link link' hl

theorem keep_tables (h : Twin target ρ w v) {r' : Request} {b' : r'.Reply} (hd : w.Deals (.calm fetch) r b w')
    (hd' : v.Deals (.calm fetch) r' b' v') (ht : w'.tables = w.tables) (ht' : v'.tables = v.tables) :
    Twin target ρ w' v' :=
  h.keep (by rw [ht, ht']; exact h.rows) (by rw [ht]) (by rw [ht']) hd.issued hd'.issued

theorem tryClaim (h : Twin target ρ w v) {K : Snowflake × String → Prop} {channel : Snowflake} {source : String}
    {b b' : Except DomainError Bool} (hx : Exchange.Heeds K ⟨.tryClaim channel source, b⟩)
    (hx' : Exchange.Heeds K ⟨.tryClaim channel source, b'⟩) (hd : w.Deals (.calm fetch) (.tryClaim channel source) b w')
    (hd' : v.Deals (.calm fetch) (.tryClaim channel source) b' v') :
    Becomes target ρ w v ⟨.tryClaim channel source, b⟩ ⟨.tryClaim channel source, b'⟩ w' v' := by
  obtain ⟨granted, rfl, hgrant⟩ := hx
  obtain ⟨granted', rfl, hgrant'⟩ := hx'
  obtain rfl : granted = granted' := by rw [Bool.eq_iff_iff, hgrant, hgrant']
  obtain ⟨clock, file, -, ha⟩ := hd.of_calm
  obtain ⟨clock', file', -, ha'⟩ := hd'.of_calm
  obtain ⟨⟨_, guard⟩, -, heq⟩ := Option.map_eq_some_iff.1 ha
  obtain ⟨⟨_, guard'⟩, -, heq'⟩ := Option.map_eq_some_iff.1 ha'
  cases heq
  cases heq'
  exact ⟨ρ, .refl ρ w v, ⟨_, rfl, rfl⟩, h.keep_tables hd hd' rfl rfl⟩

theorem release (h : Twin target ρ w v) {channel : Snowflake} {source : String} {b b' : Except DomainError Unit}
    (hd : w.Deals (.calm fetch) (.release channel source) b w')
    (hd' : v.Deals (.calm fetch) (.release channel source) b' v') :
    Becomes target ρ w v ⟨.release channel source, b⟩ ⟨.release channel source, b'⟩ w' v' := by
  obtain ⟨clock, file, -, ha⟩ := hd.of_calm
  obtain ⟨clock', file', -, ha'⟩ := hd'.of_calm
  cases ha
  cases ha'
  exact ⟨ρ, .refl ρ w v, trivial, h.keep_tables hd hd' rfl rfl⟩

theorem findMessage (h : Twin target ρ w v) {source : String} {b b' : Except DomainError (Option Message)}
    (hd : w.Deals (.calm fetch) (.findMessage target.inbox.id source) b w')
    (hd' : v.Deals (.calm fetch) (.findMessage target.inbox.id source) b' v') :
    Becomes target ρ w v ⟨.findMessage target.inbox.id source, b⟩ ⟨.findMessage target.inbox.id source, b'⟩ w' v' := by
  obtain ⟨clock, file, -, ha⟩ := hd.of_calm
  obtain ⟨clock', file', -, ha'⟩ := hd'.of_calm
  cases ha
  cases ha'
  refine ⟨ρ, .refl ρ _ _, ⟨_, _, rfl, rfl, ?_⟩, h⟩
  rw [← w.tables.within_findMessage target, ← v.tables.within_findMessage target]
  exact h.rows.findMessage _ _

theorem createMessage (h : Twin target ρ w v) (hw : w.Calm) (hv : v.Calm) {m m' : Message} (hm : m.Like ρ m')
    (hi : m.inbox = target.inbox.id) {b b' : Except DomainError Unit}
    (hd : w.Deals (.calm fetch) (.createMessage m) b w') (hd' : v.Deals (.calm fetch) (.createMessage m') b' v') :
    Becomes target ρ w v ⟨.createMessage m, b⟩ ⟨.createMessage m', b'⟩ w' v' := by
  have hfound : (w.tables.findMessage m.inbox m.sourceId).isSome =
      (v.tables.findMessage m'.inbox m'.sourceId).isSome := by
    rw [← hm.inbox, ← hm.sourceId, hi, ← w.tables.within_findMessage target, ← v.tables.within_findMessage target]
    exact Option.Rel.isSome_eq (h.rows.findMessage target.inbox.id m.sourceId)
  rcases hd.createMessage hw hi with ⟨hsome, rfl, ht⟩ | ⟨hnone, rfl, ht⟩
  · rcases hd'.createMessage hv (hm.inbox ▸ hi) with ⟨-, rfl, ht'⟩ | ⟨hnone', -⟩
    · refine ⟨ρ, .refl ρ w v, ⟨?_, .inr ⟨_, _, rfl⟩⟩, h.keep_tables hd hd' ht ht'⟩
      rw [hm.inbox, hm.sourceId]
    · cases hsome.symm.trans (hfound.trans hnone')
  · rcases hd'.createMessage hv (hm.inbox ▸ hi) with ⟨hsome', -⟩ | ⟨-, rfl, ht'⟩
    · cases hnone.symm.trans (hfound.trans hsome')
    · refine ⟨ρ, .refl ρ w v, ⟨rfl, .inl rfl⟩, h.keep ?_ (by rw [ht]) (by rw [ht']) hd.issued hd'.issued⟩
      rw [ht, ht']
      exact h.rows.addMessage hm

theorem updateStatus (h : Twin target ρ w v) (hw : w.tables.Integrity) (hv : v.tables.Integrity)
    {message message' account account' : Snowflake} (hm : ρ.made message message')
    (hmessage : w.tables.HasMessage message target.inbox.id account)
    (hmessage' : v.tables.HasMessage message' target.inbox.id account') {status : MessageStatus} {e : Option String}
    {b b' : Except DomainError Unit} (hd : w.Deals (.calm fetch) (.updateStatus message status e) b w')
    (hd' : v.Deals (.calm fetch) (.updateStatus message' status e) b' v') :
    Becomes target ρ w v ⟨.updateStatus message status e, b⟩ ⟨.updateStatus message' status e, b'⟩ w' v' := by
  obtain ⟨rfl, ht⟩ := hd.updateStatus hw hmessage
  obtain ⟨rfl, ht'⟩ := hd'.updateStatus hv hmessage'
  refine ⟨ρ, .refl ρ w v, ⟨rfl, rfl⟩, h.keep ?_ (by rw [ht]) (by rw [ht']) hd.issued hd'.issued⟩
  rw [ht, ht']
  exact h.rows.updateStatus h.made.unique hm status e

theorem findConversation (h : Twin target ρ w v) (hw : w.tables.Integrity) (hv : v.tables.Integrity)
    {link link' contact contact' : Snowflake} (hlink : ρ.store link link')
    (hl : w.tables.HasLink link target.inbox.id contact) (hl' : v.tables.HasLink link' target.inbox.id contact')
    {b b' : Except DomainError (Option Conversation)}
    (hd : w.Deals (.calm fetch) (.findConversation link target.inbox.joinable) b w')
    (hd' : v.Deals (.calm fetch) (.findConversation link' target.inbox.joinable) b' v') :
    Becomes target ρ w v ⟨.findConversation link target.inbox.joinable, b⟩
      ⟨.findConversation link' target.inbox.joinable, b'⟩ w' v' := by
  obtain ⟨clock, file, -, ha⟩ := hd.of_calm
  obtain ⟨clock', file', -, ha'⟩ := hd'.of_calm
  cases ha
  cases ha'
  refine ⟨ρ, .refl ρ _ _, ⟨_, _, rfl, rfl, ?_⟩, h⟩
  rw [← hw.within_findConversation hl, ← hv.within_findConversation hl']
  exact h.found link link' hlink

theorem createConversation (h : Twin target ρ w v) {c c' : Conversation} (hc : c.Like ρ c') (hopen : c.status = .open)
    (hi : c.inbox = target.inbox.id)
    (hnone : (w.tables.within target).findConversation c.contactInbox target.inbox.joinable = none)
    (hnone' : (v.tables.within target).findConversation c'.contactInbox target.inbox.joinable = none)
    {b b' : Except DomainError Unit}
    (hd : w.Deals (.calm fetch) (.createConversation c) b w')
    (hd' : v.Deals (.calm fetch) (.createConversation c') b' v') :
    Becomes target ρ w v ⟨.createConversation c, b⟩ ⟨.createConversation c', b'⟩ w' v' := by
  obtain ⟨rfl, ht⟩ := hd.createConversation hi
  obtain ⟨rfl, ht'⟩ := hd'.createConversation (hc.inbox ▸ hi)
  refine ⟨ρ, .refl ρ w v, ⟨rfl, rfl⟩, ?_, fun link link' hl => ?_, h.store.mono hd.issued.2 hd'.issued.2,
    h.made.mono hd.issued.1 hd'.issued.1⟩
  · rw [ht, ht']
    exact h.rows.addConversation hc
  · rw [ht, ht', Tables.findConversation_add hnone hopen, Tables.findConversation_add hnone' (hc.status ▸ hopen)]
    by_cases heq : c.contactInbox = link
    · have heq' : c'.contactInbox = link' := h.store.unique.2 (heq ▸ hc.contactInbox) hl
      rw [if_pos heq, if_pos heq']
      exact .some hc
    · have heq' : c'.contactInbox ≠ link' := fun heq' => heq (h.store.unique.1 (heq' ▸ hc.contactInbox) hl)
      rw [if_neg heq, if_neg heq']
      exact h.found link link' hl

theorem createAttachment (h : Twin target ρ w v) {a a' : Attachment} (hlike : a.Like ρ a')
    (hi : a.account = target.inbox.account) {b b' : Except DomainError Unit}
    (hd : w.Deals (.calm fetch) (.createAttachment a) b w')
    (hd' : v.Deals (.calm fetch) (.createAttachment a') b' v') :
    Becomes target ρ w v ⟨.createAttachment a, b⟩ ⟨.createAttachment a', b'⟩ w' v' := by
  obtain ⟨rfl, ht⟩ := hd.createAttachment hi
  obtain ⟨rfl, ht'⟩ := hd'.createAttachment (hlike.account ▸ hi)
  refine ⟨ρ, .refl ρ w v, ⟨rfl, rfl⟩, h.keep ?_ (by rw [ht]; rfl) (by rw [ht']; rfl) hd.issued hd'.issued⟩
  rw [ht, ht']
  exact h.rows.addAttachment hlike

theorem advance (h : Twin target ρ w v) {held held' : Multiset Snowflake} (hw : w.Bears held) (hv : v.Bears held')
    {clock clock' : Time} (hr : (w.store.ids.generate clock).2.stamp < 2 ^ 54)
    (hr' : (v.store.ids.generate clock').2.stamp < 2 ^ 54) :
    ρ.Grows { ρ with store := w.store.ids.Next v.store.ids clock clock' ρ.store } w v ∧
      Twin target { ρ with store := w.store.ids.Next v.store.ids clock clock' ρ.store } (w.advance clock)
        (v.advance clock') := by
  have hnew := Snowflake.Generator.not_issued_generate hw.kept.nonneg hr
  have hnew' := Snowflake.Generator.not_issued_generate hv.kept.nonneg hr'
  have hle : ρ ≤ { ρ with store := w.store.ids.Next v.store.ids clock clock' ρ.store } :=
    ⟨fun _ _ hij => .inl hij, fun _ _ hij => hij⟩
  refine ⟨⟨hle, ?_, fun _ _ hij => .inl hij⟩, h.rows.mono hle, ?_, ?_, h.made⟩
  · rintro i j (hij | ⟨rfl, rfl⟩)
    · exact .inl hij
    · exact .inr ⟨hnew, hnew'⟩
  · rintro i j (hij | ⟨rfl, rfl⟩)
    · exact Option.Rel.mono (fun _ _ hc => hc.mono hle) (h.found i j hij)
    · have hnone := hw.findConversation_eq_none target hnew target.inbox.joinable
      have hnone' := hv.findConversation_eq_none target hnew' target.inbox.joinable
      change Option.Rel _ ((w.tables.within target).findConversation _ _)
        ((v.tables.within target).findConversation _ _)
      rw [hnone, hnone']
      exact .none
  · exact h.store.next hw.kept.nonneg hv.kept.nonneg hr hr'

theorem addContact (h : Twin target ρ w v) {c c' : Contact} (hc : c.Like ρ c')
    (haccount : c.account = target.inbox.account) :
    Twin target ρ (w.withTables (w.tables.addContact c)) (v.withTables (v.tables.addContact c')) := by
  refine h.keep ?_ rfl rfl ⟨fun _ hid => hid, fun _ hid => hid⟩ ⟨fun _ hid => hid, fun _ hid => hid⟩
  have hrows := h.rows.addContact hc
  rw [← Tables.within_addContact haccount, ← Tables.within_addContact (hc.account ▸ haccount)] at hrows
  exact hrows

theorem addContactInbox (h : Twin target ρ w v) {l l' : ContactInbox} (hl : l.Like ρ l')
    (hi : l.inbox = target.inbox.id) :
    Twin target ρ (w.withTables (w.tables.addContactInbox l)) (v.withTables (v.tables.addContactInbox l')) := by
  refine h.keep ?_ rfl rfl ⟨fun _ hid => hid, fun _ hid => hid⟩ ⟨fun _ hid => hid, fun _ hid => hid⟩
  have hrows := h.rows.addContactInbox hl
  rw [← Tables.within_addContactInbox hi, ← Tables.within_addContactInbox (hl.inbox ▸ hi)] at hrows
  exact hrows

theorem upsertContact (h : Twin target ρ w v) {held held' : Multiset Snowflake} (hw : w.Bears held) (hv : v.Bears held')
    (hiw : w.tables.HasInbox target.inbox.id target.inbox.account)
    (hiv : v.tables.HasInbox target.inbox.id target.inbox.account) {new : NewContact}
    (hi : new.inbox = target.inbox.id) (haccount : new.account = target.inbox.account)
    {b b' : Except DomainError ResolvedContact} (hd : w.Deals (.calm fetch) (.upsertContact new) b w')
    (hd' : v.Deals (.calm fetch) (.upsertContact new) b' v') (hrange : w'.InRange) (hrange' : v'.InRange) :
    Becomes target ρ w v ⟨.upsertContact new, b⟩ ⟨.upsertContact new, b'⟩ w' v' := by
  have hlink : Option.Rel (ContactInbox.Like ρ) (w.tables.findContactInbox new.inbox new.sourceId)
      (v.tables.findContactInbox new.inbox new.sourceId) := by
    rw [hi, ← w.tables.within_findContactInbox target, ← v.tables.within_findContactInbox target]
    exact h.rows.findContactInbox _ _
  have hphone : Option.Rel (Contact.Like ρ) (w.tables.findContactByPhone new.account new.phoneNumber)
      (v.tables.findContactByPhone new.account new.phoneNumber) := by
    rw [haccount, ← w.tables.within_findContactByPhone target, ← v.tables.within_findContactByPhone target]
    exact h.rows.findContactByPhone _ _
  obtain ⟨clock, s, hs, rfl⟩ := hd.upsertContact
  obtain ⟨clock', s', hs', rfl⟩ := hd'.upsertContact
  rcases w.store.upsertContact_cases clock new with ⟨l, hl, -⟩ | ⟨hl, hcases⟩
  · -- The sender is linked.
    obtain ⟨l', hl', hll⟩ := Option.Rel.exists_of_some hlink hl
    obtain ⟨c, hc, heq⟩ := upsertContact_linked hw.integrity hiw hi hl clock
    obtain ⟨c', hc', heq'⟩ := upsertContact_linked hv.integrity hiv hi hl' clock'
    obtain ⟨d, hd, hcc⟩ := Option.Rel.exists_of_some (h.rows.findContact h.store.unique hll.contact) hc
    obtain rfl : d = c' := Option.some.inj (hd.symm.trans hc')
    cases heq.symm.trans hs
    cases heq'.symm.trans hs'
    exact ⟨ρ, .refl ρ _ _, ⟨_, _, rfl, rfl, hcc, hll⟩, h⟩
  rcases v.store.upsertContact_cases clock' new with ⟨l', hl', -⟩ | ⟨-, hcases'⟩
  · cases hl'.symm.trans (Option.Rel.eq_none hlink hl)
  rcases hcases with ⟨c, hc, heq⟩ | ⟨hc, heq⟩
  · -- Its contact is known by phone number.
    obtain ⟨c', hc', hcc⟩ := Option.Rel.exists_of_some hphone hc
    rcases hcases' with ⟨d, hd, heq'⟩ | ⟨hd, -⟩
    · obtain rfl : d = c' := Option.some.inj (hd.symm.trans hc')
      cases heq.symm.trans hs
      cases heq'.symm.trans hs'
      obtain ⟨hgrows, htwin⟩ := h.advance hw hv hrange.2 hrange'.2
      have hll : ContactInbox.Like { ρ with store := w.store.ids.Next v.store.ids clock clock' ρ.store }
          { id := (w.store.ids.generate clock).1, contact := c.id, inbox := new.inbox, sourceId := new.sourceId }
          { id := (v.store.ids.generate clock').1, contact := d.id, inbox := new.inbox, sourceId := new.sourceId } :=
        ⟨.inr ⟨rfl, rfl⟩, .inl hcc.id, rfl, rfl⟩
      exact ⟨_, hgrows, ⟨_, _, rfl, rfl, hcc.mono hgrows.le, hll⟩, htwin.addContactInbox hll hi⟩
    · cases hd.symm.trans hc'
  · -- Its contact is new.
    rcases hcases' with ⟨d, hd, -⟩ | ⟨-, heq'⟩
    · cases hd.symm.trans (Option.Rel.eq_none hphone hc)
    · cases heq.symm.trans hs
      cases heq'.symm.trans hs'
      have hr := Int.lt_trans Snowflake.Generator.stamp_lt_generate hrange.2
      have hr' := Int.lt_trans Snowflake.Generator.stamp_lt_generate hrange'.2
      obtain ⟨hgrows₁, htwin₁⟩ := h.advance hw hv hr hr'
      obtain ⟨hgrows₂, htwin₂⟩ := htwin₁.advance (hw.advance hr) (hv.advance hr') hrange.2 hrange'.2
      have hgrows := hgrows₁.trans hgrows₂ ⟨fun _ hid => hid, fun _ hid => hid.generate⟩
        ⟨fun _ hid => hid, fun _ hid => hid.generate⟩
      let ids := (w.store.ids.generate clock).2
      let ids' := (v.store.ids.generate clock').2
      let ρ₁ : Renaming := { ρ with store := w.store.ids.Next v.store.ids clock clock' ρ.store }
      have hcc : Contact.Like { ρ₁ with store := ids.Next ids' clock clock' ρ₁.store }
          { id := (w.store.ids.generate clock).1, account := new.account, name := new.name,
            phoneNumber := some new.phoneNumber }
          { id := (v.store.ids.generate clock').1, account := new.account, name := new.name,
            phoneNumber := some new.phoneNumber } :=
        ⟨.inl (.inr ⟨rfl, rfl⟩), rfl, rfl, rfl⟩
      have hll : ContactInbox.Like { ρ₁ with store := ids.Next ids' clock clock' ρ₁.store }
          { id := (ids.generate clock).1, contact := (w.store.ids.generate clock).1, inbox := new.inbox,
            sourceId := new.sourceId }
          { id := (ids'.generate clock').1, contact := (v.store.ids.generate clock').1, inbox := new.inbox,
            sourceId := new.sourceId } :=
        ⟨.inr ⟨rfl, rfl⟩, .inl (.inr ⟨rfl, rfl⟩), rfl, rfl⟩
      exact ⟨_, hgrows, ⟨_, _, rfl, rfl, hcc, hll⟩, (htwin₂.addContact hcc haccount).addContactInbox hll hi⟩

theorem newId (h : Twin target ρ w v) {held held' : Multiset Snowflake} (hw : w.Bears held) (hv : v.Bears held')
    {id id' : Snowflake} (hd : w.Deals (.calm fetch) .newId id w') (hd' : v.Deals (.calm fetch) .newId id' v')
    (hrange : w'.InRange) (hrange' : v'.InRange) : Becomes target ρ w v ⟨.newId, id⟩ ⟨.newId, id'⟩ w' v' := by
  obtain ⟨clock, file, -, ha⟩ := hd.of_calm
  obtain ⟨clock', file', -, ha'⟩ := hd'.of_calm
  cases ha
  cases ha'
  have hnew := Snowflake.Generator.not_issued_generate hw.made.nonneg hrange.1
  have hnew' := Snowflake.Generator.not_issued_generate hv.made.nonneg hrange'.1
  have hle : ρ ≤ { ρ with made := w.ids.Next v.ids clock clock' ρ.made } :=
    ⟨fun _ _ hij => hij, fun _ _ hij => .inl hij⟩
  refine ⟨{ ρ with made := w.ids.Next v.ids clock clock' ρ.made }, ⟨hle, fun _ _ hij => .inl hij, ?_⟩, .inr ⟨rfl, rfl⟩,
    h.rows.mono hle, fun i j hij => Option.Rel.mono (fun _ _ hc => hc.mono hle) (h.found i j hij), h.store,
    h.made.next hw.made.nonneg hv.made.nonneg hrange.1 hrange'.1⟩
  rintro i j (hij | ⟨rfl, rfl⟩)
  · exact .inl hij
  · exact .inr ⟨hnew, hnew'⟩

/-- Like requests that the delivery may make get like replies, and leave twins behind. -/
theorem deals (h : Twin target ρ w v) (hw : Ready target hand others w) (hv : Ready target hand' others' v)
    {K : Snowflake × String → Prop} {r' : Request} {b' : r'.Reply} (hr : r.Admits target hand w.tables)
    (hr' : r'.Admits target hand' v.tables) (hlike : r.Like ρ r') (hx : Exchange.Heeds K ⟨r, b⟩)
    (hx' : Exchange.Heeds K ⟨r', b'⟩) (hd : w.Deals (.calm fetch) r b w') (hd' : v.Deals (.calm fetch) r' b' v')
    (hrange : w'.InRange) (hrange' : v'.InRange) : Becomes target ρ w v ⟨r, b⟩ ⟨r', b'⟩ w' v' := by
  cases r with
  | tryClaim channel source =>
    cases r' with
    | tryClaim =>
      obtain ⟨rfl, rfl⟩ := hlike
      exact h.tryClaim hx hx' hd hd'
    | _ => cases hlike
  | release channel source =>
    cases r' with
    | release =>
      obtain ⟨rfl, rfl⟩ := hlike
      exact h.release hd hd'
    | _ => cases hlike
  | findMessage inbox source =>
    cases r' with
    | findMessage =>
      obtain ⟨rfl, rfl⟩ := hlike
      obtain rfl : inbox = target.inbox.id := hr
      exact h.findMessage hd hd'
    | _ => cases hlike
  | createMessage m =>
    cases r' with
    | createMessage => exact h.createMessage hw.calm hv.calm hlike hr.2.1 hd hd'
    | _ => cases hlike
  | updateStatus message status e =>
    cases r' with
    | updateStatus =>
      obtain ⟨hm, rfl, rfl⟩ := hlike
      obtain ⟨account, hmessage⟩ := hr
      obtain ⟨account', hmessage'⟩ := hr'
      exact h.updateStatus hw.bears.integrity hv.bears.integrity hm hmessage hmessage' hd hd'
    | _ => cases hlike
  | upsertContact new =>
    cases r' with
    | upsertContact =>
      obtain rfl := hlike
      exact h.upsertContact hw.bears hv.bears hw.inbox hv.inbox hr.1 hr.2.1 hd hd' hrange hrange'
    | _ => cases hlike
  | findConversation link filter =>
    cases r' with
    | findConversation =>
      obtain ⟨hl, rfl⟩ := hlike
      obtain ⟨rfl, contact, hlink⟩ := hr
      obtain ⟨-, contact', hlink'⟩ := hr'
      exact h.findConversation hw.bears.integrity hv.bears.integrity hl hlink hlink' hd hd'
    | _ => cases hlike
  | createConversation c =>
    cases r' with
    | createConversation c' =>
      obtain ⟨-, hvacant, hopen, hinbox, -⟩ := hr
      obtain ⟨-, hvacant', -⟩ := hr'
      exact h.createConversation hlike hopen hinbox (hw.vacant _ hvacant) (hv.vacant _ hvacant') hd hd'
    | _ => cases hlike
  | createAttachment a =>
    cases r' with
    | createAttachment => exact h.createAttachment hlike hr.2.1 hd hd'
    | _ => cases hlike
  | fetch channel media =>
    cases r' with
    | fetch =>
      obtain ⟨rfl, rfl⟩ := hlike
      obtain ⟨clock, file, hfile, ha⟩ := hd.of_calm
      obtain ⟨clock', file', hfile', ha'⟩ := hd'.of_calm
      cases ha
      cases ha'
      exact ⟨ρ, .refl ρ _ _, (hfile _ _ rfl).trans (hfile' _ _ rfl).symm, h⟩
    | _ => cases hlike
  | newId =>
    cases r' with
    | newId => exact h.newId hw.bears hv.bears hd hd' hrange hrange'
    | _ => cases hlike
  | now =>
    cases r' with
    | now =>
      obtain ⟨clock, file, -, ha⟩ := hd.of_calm
      obtain ⟨clock', file', -, ha'⟩ := hd'.of_calm
      cases ha
      cases ha'
      exact ⟨ρ, .refl ρ _ _, trivial, h⟩
    | _ => cases hlike
  | _ => cases hlike

end Twin

end World

end Intake
