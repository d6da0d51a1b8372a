import Intake.Proofs.Tenants.Twice

/-!
# Targets of different accounts

Targets of different accounts have nothing in common (`Apart`), and a delivery to one of them leaves the rows of the
other as they were (`World.KeepsOthers`). So before and after a delivery to another target the worlds are twins, with
every id standing for itself (`World.Twin.base`).
-/

namespace Intake

structure ResolvedChannel.Apart (target other : ResolvedChannel) : Prop where
  inbox : target.inbox.id ≠ other.inbox.id
  account : target.inbox.account ≠ other.inbox.account

theorem ResolvedChannel.Apart.symm {target other : ResolvedChannel} (h : target.Apart other) : other.Apart target :=
  ⟨h.inbox.symm, h.account.symm⟩

namespace Tables

variable {t t' : Tables} {job job' : WebhookJob} {target other : ResolvedChannel} {accounts inboxes : Snowflake → Bool}

theorem Serves.account (h : t.Serves job target) (ht : t.Integrity) :
    target.inbox.account = target.channel.account := by
  obtain ⟨c, hc, hid, haccount⟩ := ht.inboxes target.inbox h.inbox
  obtain rfl : c = target.channel := List.inj_on_of_nodup_map ht.channelIds hc h.stored (hid.trans h.linked)
  exact haccount.symm

theorem Serves.apart (h : t.Serves job target) (h' : t.Serves job' other) (ht : t.Integrity)
    (hne : target.channel.account ≠ other.channel.account) : target.Apart other := by
  have hinboxes : target.inbox.account ≠ other.inbox.account := by rwa [h.account ht, h'.account ht]
  refine ⟨fun heq => hinboxes ?_, hinboxes⟩
  rw [List.inj_on_of_nodup_map ht.inboxIds h.inbox h'.inbox heq]

theorem Integrity.message_of_attachment (h : t.Integrity) {a : Attachment} (ha : a ∈ t.attachments) :
    ∃ m ∈ t.messages, m.id = a.message ∧ t.HasInbox m.inbox a.account := by
  obtain ⟨inbox, m, hm, hid, -, haccount⟩ := h.attachments a ha
  obtain ⟨contact, -, c, hc, -, hinbox, haccount', -⟩ := h.messages m hm
  exact ⟨m, hm, hid, hinbox ▸ haccount ▸ haccount' ▸ (h.conversations c hc).1⟩

theorem part_eq_of_outside (h : t'.outside target = t.outside target) (ht : t.Integrity) (ht' : t'.Integrity)
    (hi : t.HasInbox target.inbox.id target.inbox.account) (hi' : t'.HasInbox target.inbox.id target.inbox.account)
    (haccount : accounts target.inbox.account = false) (hinbox : inboxes target.inbox.id = false) :
    t'.part accounts inboxes = t.part accounts inboxes := by
  have hne : ∀ x, accounts x = true → decide (x ≠ target.inbox.account) = true := by
    intro x hx
    refine decide_eq_true fun heq => ?_
    rw [heq, haccount] at hx
    cases hx
  have hne' : ∀ x, inboxes x = true → decide (x ≠ target.inbox.id) = true := by
    intro x hx
    refine decide_eq_true fun heq => ?_
    rw [heq, hinbox] at hx
    cases hx
  have hattached : ∀ {s : Tables}, s.Integrity → s.HasInbox target.inbox.id target.inbox.account →
      ∀ a ∈ s.attachments, accounts a.account = true →
        (s.messages.any fun m => m.id = a.message && m.inbox ≠ target.inbox.id) = true := by
    intro s hs his a ha hin
    obtain ⟨m, hm, hid, howner⟩ := hs.message_of_attachment ha
    refine List.any_eq_true.2 ⟨m, hm, ?_⟩
    have hother : m.inbox ≠ target.inbox.id := by
      intro heq
      have hown : a.account = target.inbox.account := hs.inbox_unique (heq ▸ howner) his
      rw [hown, haccount] at hin
      cases hin
    simp [hid, hother]
  simp only [outside, Tables.mk.injEq] at h
  obtain ⟨hchannels, hinboxes, haccounts, hcontacts, hlinks, hconversations, hmessages, hattachments⟩ := h
  simp only [part, Tables.mk.injEq]
  refine ⟨hchannels, hinboxes, haccounts, ?_, ?_, ?_, ?_, ?_⟩
  · exact List.filter_eq_of_filter_eq hcontacts (fun c _ => hne c.account) fun c _ => hne c.account
  · exact List.filter_eq_of_filter_eq hlinks (fun l _ => hne' l.inbox) fun l _ => hne' l.inbox
  · exact List.filter_eq_of_filter_eq hconversations (fun c _ => hne' c.inbox) fun c _ => hne' c.inbox
  · exact List.filter_eq_of_filter_eq hmessages (fun m _ => hne' m.inbox) fun m _ => hne' m.inbox
  · exact List.filter_eq_of_filter_eq hattachments (hattached ht hi) (hattached ht' hi')

end Tables

/-- Every id that has been made stands for itself. -/
def Renaming.base (w : World) : Renaming where
  store i j := i = j ∧ w.store.ids.Issued i
  made i j := i = j ∧ w.ids.Issued i

theorem Renaming.base_oneToOne (w : World) : (base w).OneToOne where
  store := ⟨fun _ _ _ hij hkj => hij.1.trans hkj.1.symm, fun _ _ _ hij hik => hij.1.symm.trans hik.1⟩
  made := ⟨fun _ _ _ hij hkj => hij.1.trans hkj.1.symm, fun _ _ _ hij hik => hij.1.symm.trans hik.1⟩

namespace World

variable {w w' x y : World} {target other : ResolvedChannel} {held : Multiset Snowflake}

/-- The ids of all rows have been made, and so have those that they refer to. -/
theorem Bears.like_base (h : w.Bears held) : w.tables.Like (.base w) w.tables :=
  h.coherent.like_rows.mono
    ⟨fun i _ hij => ⟨hij.1, h.kept.issued i hij.2⟩,
      fun i _ hij => ⟨hij.1, h.made.issued i (Multiset.mem_add.2 (.inr hij.2))⟩⟩

/-- Rows that are not the target's are in `w'` as in `w`, and ids that had been made have been made. -/
structure KeepsOthers (target : ResolvedChannel) (w w' : World) : Prop where
  parts : ∀ accounts inboxes : Snowflake → Bool, accounts target.inbox.account = false →
    inboxes target.inbox.id = false → w'.tables.part accounts inboxes = w.tables.part accounts inboxes
  issued : (∀ id, w.ids.Issued id → w'.ids.Issued id) ∧ ∀ id, w.store.ids.Issued id → w'.store.ids.Issued id

theorem KeepsOthers.refl (target : ResolvedChannel) (w : World) : KeepsOthers target w w :=
  ⟨fun _ _ _ _ => rfl, fun _ h => h, fun _ h => h⟩

theorem KeepsOthers.within (h : KeepsOthers other w w') (hapart : target.Apart other) :
    w'.tables.within target = w.tables.within target :=
  h.parts _ _ (decide_eq_false hapart.account.symm) (decide_eq_false hapart.inbox.symm)

/-- Worlds with the target's rows of `w` are twins, with every id that had been made standing for itself. -/
theorem Twin.self (hb : w.Bears held) (hx : x.tables.within target = w.tables.within target)
    (hy : y.tables.within target = w.tables.within target)
    (hi : (∀ id, w.ids.Issued id → x.ids.Issued id) ∧ ∀ id, w.store.ids.Issued id → x.store.ids.Issued id)
    (hi' : (∀ id, w.ids.Issued id → y.ids.Issued id) ∧ ∀ id, w.store.ids.Issued id → y.store.ids.Issued id) :
    Twin target (.base w) x y := by
  have hrows : (w.tables.within target).Like (.base w) (w.tables.within target) := hb.like_base.part _ _
  have hunique := Renaming.base_oneToOne w
  refine ⟨?_, ?_, ⟨hunique.store, ?_⟩, hunique.made, ?_⟩
  · rw [hx, hy]
    exact hrows
  · rintro link _ ⟨rfl, -⟩
    rw [hx, hy]
    cases hfound : (w.tables.within target).findConversation link target.inbox.joinable with
    | none => exact .none
    | some c =>
      have hmem : c ∈ (w.tables.within target).conversations :=
        (List.mem_filter.1 (Conversation.mem_of_latest? hfound)).1
      exact .some (List.forall₂_same.1 hrows.conversations c hmem)
  · rintro i _ ⟨rfl, hid⟩
    exact ⟨hi.2 i hid, hi'.2 i hid⟩
  · rintro i _ ⟨rfl, hid⟩
    exact ⟨hi.1 i hid, hi'.1 i hid⟩

/-- As long as only other targets are delivered to, every id stands for itself. -/
theorem Twin.base (hb : w.Bears held) (hapart : target.Apart other) (hx : KeepsOthers other w x)
    (hy : KeepsOthers other w y) : Twin target (.base w) x y :=
  .self hb (hx.within hapart) (hy.within hapart) hx.issued hy.issued

end World

theorem WebhookJob.ResolvedTo.keepsOthers {job : WebhookJob} {target : ResolvedChannel} {t : List Exchange}
    {r : Except DomainError IngestReport} {w w' : World} {fetch : Channel → MediaDescriptor → Option FetchedMedia}
    {others : Multiset Snowflake} (h : job.ResolvedTo target t r) (hr : w.Runs (.calm fetch) t w') (hb : w.Bears others)
    (hrange : w'.InRange) : w.KeepsOthers target w' ∧ w'.Bears others := by
  obtain ⟨hsame, hb'⟩ := h.sameOutside hr hb hrange
  have hinbox := (Tables.serves_of_route (h.route hr.fits)).inbox
  have hinboxes : w'.tables.inboxes = w.tables.inboxes := congrArg (fun s => s.2.1) hr.tenants
  have hi : w.tables.HasInbox target.inbox.id target.inbox.account := ⟨target.inbox, hinbox, rfl, rfl⟩
  have hi' : w'.tables.HasInbox target.inbox.id target.inbox.account := ⟨target.inbox, hinboxes ▸ hinbox, rfl, rfl⟩
  refine ⟨⟨fun accounts inboxes => ?_, hr.issued⟩, hb'⟩
  exact Tables.part_eq_of_outside hsame.tables hb.integrity hb'.integrity hi hi'

end Intake
