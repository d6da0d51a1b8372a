import Intake.Proofs.Integrity.Reached
import Intake.Proofs.Routing.Safe

/-!
# Nothing happens outside a delivery's tenant

A delivery adds and changes rows of the inbox that it is resolved to and of the inbox's account, and asks the guard
about its channel only. All else stays as it was (`perform_isolated`). The tables must be in order for this, since a
message's status is changed by the message's id alone.
-/

namespace Intake

/-- The tables without the rows of the target's inbox and the contacts of its account. -/
def Tables.outside (t : Tables) (target : ResolvedChannel) : Tables :=
  { t with
    contacts := t.contacts.filter (·.account ≠ target.inbox.account)
    contactInboxes := t.contactInboxes.filter (·.inbox ≠ target.inbox.id)
    conversations := t.conversations.filter (·.inbox ≠ target.inbox.id)
    messages := t.messages.filter (·.inbox ≠ target.inbox.id)
    attachments := t.attachments.filter fun a =>
      t.messages.any fun m => m.id = a.message && m.inbox ≠ target.inbox.id }

/-- The tables are the same outside the target, and so are the live claims but for those of the target's channel. -/
structure World.SameOutside (target : ResolvedChannel) (w w' : World) : Prop where
  later : w.instant ≤ w'.instant
  tables : w'.tables.outside target = w.tables.outside target
  claims : ∀ key deadline, (∀ source, key ≠ Guard.claimKey target.channel.id source) → w'.instant < deadline →
    ((key, deadline) ∈ w'.guard.claims ↔ (key, deadline) ∈ w.guard.claims)

namespace Tables

variable {t : Tables} {target : ResolvedChannel}

theorem filter_modifyFirst {α : Type} {p q : α → Bool} {f : α → α} {l : List α}
    (h : ∀ a ∈ l, p a = true → q a = false ∧ q (f a) = false) : (modifyFirst p f l).filter q = l.filter q := by
  induction l with
  | nil => rfl
  | cons a l ih =>
    obtain ⟨ha, hl⟩ := List.forall_mem_cons.1 h
    rw [modifyFirst]
    split
    · next hp => simp [ha hp]
    · rw [List.filter_cons, List.filter_cons, ih hl]

theorem any_modifyFirst {α : Type} {p q : α → Bool} {f : α → α} (h : ∀ a, q (f a) = q a) (l : List α) :
    (modifyFirst p f l).any q = l.any q := by
  induction l with
  | nil => rfl
  | cons a l ih =>
    rw [modifyFirst]
    split
    · rw [List.any_cons, List.any_cons, h]
    · rw [List.any_cons, List.any_cons, ih]

theorem outside_addMessage {m : Message} (hm : m.inbox = target.inbox.id) :
    Tables.outside { t with messages := t.messages ++ [m] } target = t.outside target := by
  simp [outside, hm]

theorem outside_addConversation {c : Conversation} (hc : c.inbox = target.inbox.id) :
    (t.addConversation c).outside target = t.outside target := by
  simp [outside, addConversation, hc]

theorem outside_addContact {c : Contact} (hc : c.account = target.inbox.account) :
    (t.addContact c).outside target = t.outside target := by
  simp [outside, addContact, hc]

theorem outside_addContactInbox {l : ContactInbox} (hl : l.inbox = target.inbox.id) :
    (t.addContactInbox l).outside target = t.outside target := by
  simp [outside, addContactInbox, hl]

theorem DistinctIds.inbox_of_hasMessage (hd : t.DistinctIds) {m : Message} {inbox account : Snowflake}
    (h : t.HasMessage m.id inbox account) (hm : m ∈ t.messages) : m.inbox = inbox :=
  (hd.message_unique ⟨m, hm, rfl, rfl, rfl⟩ h).1

theorem outside_addAttachment {a : Attachment} {account : Snowflake} (hd : t.DistinctIds)
    (ha : t.HasMessage a.message target.inbox.id account) : (t.addAttachment a).outside target = t.outside target := by
  have hnone : (t.messages.any fun m => m.id = a.message && m.inbox ≠ target.inbox.id) = false := by
    rw [List.any_eq_false]
    intro m hm hboth
    obtain ⟨hid, hinbox⟩ : m.id = a.message ∧ m.inbox ≠ target.inbox.id := by simpa using hboth
    exact hinbox (hd.inbox_of_hasMessage (hid ▸ ha) hm)
  simp only [outside, addAttachment, List.filter_append, List.filter_cons, hnone, Bool.false_eq_true, if_false,
    List.filter_nil, List.append_nil]

theorem outside_updateStatus {t' : Tables} {message account : Snowflake} {status : MessageStatus} {e : Option String}
    (hd : t.DistinctIds) (hm : t.HasMessage message target.inbox.id account)
    (h : t.updateStatus message status e = .ok t') : t'.outside target = t.outside target := by
  rw [updateStatus] at h
  split at h
  · cases h
    have hmessages : (modifyFirst (·.id = message) (·.applyStatus status e) t.messages).filter
        (·.inbox ≠ target.inbox.id) = t.messages.filter (·.inbox ≠ target.inbox.id) := by
      refine filter_modifyFirst fun m hmem hid => ?_
      obtain rfl : m.id = message := by simpa using hid
      have hinbox := hd.inbox_of_hasMessage hm hmem
      have hout : decide (m.inbox ≠ target.inbox.id) = false := by simpa using hinbox
      exact ⟨hout, hout⟩
    have hids : ∀ a : Attachment, ((modifyFirst (·.id = message) (·.applyStatus status e) t.messages).any fun m =>
        m.id = a.message && m.inbox ≠ target.inbox.id) =
          t.messages.any fun m => m.id = a.message && m.inbox ≠ target.inbox.id :=
      fun a => any_modifyFirst (f := fun m : Message => m.applyStatus status e) (fun _ => rfl) _
    simp only [outside, hmessages, hids]
  · cases h

end Tables

namespace World

variable {target : ResolvedChannel} {w w' w'' : World} {o : Conditions}

namespace SameOutside

theorem refl (target : ResolvedChannel) (w : World) : SameOutside target w w :=
  ⟨Nat.le_refl _, rfl, fun _ _ _ _ => Iff.rfl⟩

theorem trans (h : SameOutside target w w') (h' : SameOutside target w' w'') : SameOutside target w w'' :=
  ⟨Nat.le_trans h.later h'.later, h'.tables.trans h.tables, fun key deadline hkey hlive =>
    (h'.claims key deadline hkey hlive).trans
      (h.claims key deadline hkey (Nat.lt_of_le_of_lt h'.later hlive))⟩

theorem of_tables (ht : w'.tables.outside target = w.tables.outside target) (hg : w'.guard = w.guard)
    (hi : w'.instant = w.instant) : SameOutside target w w' :=
  ⟨Nat.le_of_eq hi.symm, ht, fun _ _ _ _ => by rw [hg]⟩

end SameOutside

theorem Deals.sameOutside {hand : Hand} {r : Request} {b : r.Reply} (h : w.Deals o r b w') (hd : w.tables.DistinctIds)
    (hr : r.Admits target hand w.tables) : SameOutside target w w' := by
  rcases h with ⟨clock, file, -, -, ha⟩ | ⟨e, -, -, rfl⟩
  · cases r with
    | tryClaim channel source =>
      obtain ⟨⟨b, g⟩, hclaim, heq⟩ := Option.map_eq_some_iff.1 ha
      cases heq
      obtain rfl : channel = target.channel.id := hr
      exact ⟨Nat.le_refl _, rfl, fun key deadline hkey hlive =>
        MemoryGuard.mem_claimKey?_iff hclaim (hkey source) hlive⟩
    | release channel source =>
      cases ha
      obtain rfl : channel = target.channel.id := hr
      refine ⟨Nat.le_refl _, rfl, fun key deadline hkey _ => ?_⟩
      exact MemoryGuard.mem_erase.trans (and_iff_left (hkey source))
    | createMessage m =>
      cases ha
      obtain ⟨-, hinbox, -⟩ := hr
      refine .of_tables ?_ rfl rfl
      rcases w.store.createMessage_tables m with ⟨ht, -⟩ | ⟨ht, -⟩
      · exact congrArg (·.outside target) ht
      · exact (congrArg (·.outside target) ht).trans (Tables.outside_addMessage hinbox)
    | updateStatus message status e =>
      cases ha
      obtain ⟨account, hm⟩ := hr
      refine .of_tables ?_ rfl rfl
      change (w.store.commit (w.store.tables.updateStatus message status e)).2.tables.outside target = _
      cases ht : w.store.tables.updateStatus message status e with
      | ok t => exact Tables.outside_updateStatus hd hm ht
      | error => rfl
    | upsertContact new =>
      cases ha
      obtain ⟨hinbox, haccount, -⟩ := hr
      refine .of_tables ?_ rfl rfl
      change (w.store.upsertContact clock new).2.tables.outside target = _
      rcases w.store.upsertContact_cases clock new with ⟨-, -, heq, -⟩ | ⟨-, ⟨contact, -, heq⟩ | ⟨-, heq⟩⟩
      · rw [heq]
        rfl
      · rw [heq]
        exact Tables.outside_addContactInbox hinbox
      · rw [heq]
        exact (Tables.outside_addContactInbox hinbox).trans (Tables.outside_addContact haccount)
    | createConversation c =>
      cases ha
      obtain ⟨-, -, -, hinbox, -⟩ := hr
      exact .of_tables (Tables.outside_addConversation hinbox) rfl rfl
    | createAttachment a =>
      cases ha
      obtain ⟨-, -, -, hm⟩ := hr
      exact .of_tables (Tables.outside_addAttachment hd hm) rfl rfl
    | findChannelByPhone | findGupshupChannel =>
      cases ha
      exact .of_tables (congrArg (·.outside target) (w.store.lookUp_tables _)) rfl rfl
    | _ =>
      cases ha
      exact .of_tables rfl rfl rfl
  · exact .refl target w'

theorem Runs.sameOutside {α : Type} {p : Program α} {Q : Hand → Tables → α → Prop} {hand : Hand}
    {others : Multiset Snowflake} {t : List Exchange} {a : α} (h : w.Runs o t w') (hy : p.Yields t a)
    (hp : p.Guided (.of target) Q hand w.tables) (hb : w.Bears (hand.held + others)) (hrange : w'.InRange) :
    SameOutside target w w' ∧ ∃ hand' : Hand, w'.Bears (hand'.held + others) := by
  induction h generalizing p hand with
  | @nil w =>
    cases p with
    | done a' =>
      exact ⟨.refl target w, hand, hb⟩
    | ask r next =>
      obtain ⟨_, _, ht, -⟩ := hy
      cases ht
  | @exchange w w₁ w' r b t hd hrest ih =>
    cases p with
    | done a' =>
      obtain ⟨ht, -⟩ := hy
      cases ht
    | ask r' next =>
      obtain ⟨b', t', ht, hy⟩ := hy
      cases ht
      obtain ⟨hb', hg, hrec⟩ := hb.deals hp.1 hd (hrest.inRange hrange)
      obtain ⟨hsame, hend⟩ := ih hy (hp.2 b w₁.tables hg hb'.distinctIds hrec) hb' hrange
      exact ⟨(hd.sameOutside hb.distinctIds hp.1).trans hsame, hend⟩
  | @waits w w' now t hle _ ih =>
    obtain ⟨hsame, hend⟩ := ih hy hp (hb.congr rfl rfl rfl) hrange
    have hwait : SameOutside target w (w.later now) := ⟨hle, rfl, fun _ _ _ _ => Iff.rfl⟩
    exact ⟨hwait.trans hsame, hend⟩

end World

variable {job : WebhookJob} {target : ResolvedChannel} {t : List Exchange} {r : Except DomainError IngestReport}
  {w w' : World} {o : Conditions}

theorem WebhookJob.ResolvedTo.sameOutside {others : Multiset Snowflake} (h : job.ResolvedTo target t r)
    (hr : w.Runs o t w') (hb : w.Bears others) (hrange : w'.InRange) :
    w.SameOutside target w' ∧ w'.Bears others := by
  have hinbox := (Tables.serves_of_route (h.route hr.fits)).inbox
  obtain ⟨q, t', rfl, hq, hy⟩ := h
  obtain ⟨w₁, hr₁, hr₂⟩ := hr.split
  have ht : w₁.tables = w.tables := hr₁.tables_of_lookups ((Routing.resolve_lookups job).mem hq)
  have hb₀ : w.Bears (({} : Hand).held + others) := hb.mono (le_of_eq (zero_add _))
  obtain ⟨hsame₁, hand, hb₁⟩ :=
    hr₁.sameOutside hq (.of_lookups (Routing.resolve_lookups job) target) hb₀ (hr₂.inRange hrange)
  have hguided : (performOn job (.active target)).run.Guided (.of target) Anything {} w₁.tables :=
    performOn_guided hb₁.distinctIds (ht ▸ ⟨target.inbox, hinbox, rfl, rfl⟩)
  have hb₂ : w₁.Bears (0 + others) := hb₁.mono (Multiset.add_le_add_right (Multiset.zero_le _))
  obtain ⟨hsame₂, hand', hb'⟩ := hr₂.sameOutside hy hguided hb₂ hrange
  exact ⟨hsame₁.trans hsame₂, hb'.mono (Multiset.le_add_left _ _)⟩

/-- Whatever becomes of a job in a store that came about from nothing, nothing happens outside the channel and the inbox
that it is resolved to. Above all, a report about a message changes no message of another inbox. The bound leaves the
ids room, as for `Pool.reached_integrity`. -/
theorem perform_isolated {n : Nat} {P : Pool WebhookJob (Except DomainError IngestReport)} (h : Pool.Reached n P)
    (hres : job.ResolvedTo target t r) (hr : P.world.Runs {} t w') (hn : n + t.length ≤ 2 ^ 51) :
    P.world.SameOutside target w' := by
  have hrange : w'.InRange := (hr.ahead h.ahead).inRange (by omega)
  exact (hres.sameOutside hr (h.inOrder (hr.inRange hrange)).bears hrange).1

/-! ## Playing -/

namespace Sample

/-- Carries a job out if it is resolved to a channel. -/
def carry? (fetch : Channel → MediaDescriptor → Option FetchedMedia) (job : WebhookJob) (w : World) :
    Option (ResolvedChannel × List Exchange × Except DomainError IngestReport × World) :=
  match (Replay.calm fetch).run? [] (Routing.resolve job).run w with
  | some (q, .ok (.active target), w) =>
    ((Replay.calm fetch).run? [] (performOn job (.active target)).run w).map fun (t, r, w) => (target, q ++ t, r, w)
  | _ => none

theorem resolvedTo_of_carry? {fetch : Channel → MediaDescriptor → Option FetchedMedia}
    (h : carry? fetch job w = some (target, t, r, w')) : job.ResolvedTo target t r ∧ w.Runs (.calm fetch) t w' := by
  unfold carry? at h
  split at h
  · next q target' w₁ hq =>
    obtain ⟨⟨t', r', w₂⟩, ht, heq⟩ := Option.map_eq_some_iff.1 h
    cases heq
    obtain ⟨hyq, hrq⟩ := World.runs_of_calm hq
    obtain ⟨hyt, hrt⟩ := World.runs_of_calm ht
    exact ⟨⟨q, t', rfl, hyq, hyt⟩, hrq.append hrt⟩
  · cases h

/-- A job with a report about a message of the channel with that number. -/
def report (channel id status : String) : WebhookJob :=
  let entry := .object [("id", .string id), ("status", .string status)]
  (WebhookJob.ofPayload (.object [("statuses", .array [entry])])).withPhoneNumber channel

/-- Two channels receive greetings of the same source id. -/
def greetingMoves : List Pool.Move :=
  [.seed .default "+15550001" ⟨[]⟩, .seed .default "+15550002" ⟨[]⟩,
    .arrive (message "15550001" "wamid.1" "15550003" "text" (.object [("body", .string "hello")])),
    .arrive (message "15550002" "wamid.1" "15550003" "text" (.object [("body", .string "hello")]))] ++
  List.replicate 14 (.turn 0 none none) ++ List.replicate 14 (.turn 1 none none)

end Sample

/-- Of two messages of the same source id only the one is read that is in the channel's inbox. -/
theorem report_isolated : ∃ n P target t r w', Pool.Reached n P ∧
    (Sample.report "15550002" "wamid.1" "read").ResolvedTo target t r ∧ P.world.Runs {} t w' ∧
    n + t.length ≤ 2 ^ 51 ∧
    (P.world.tables.messages.map (·.sourceId) = ["wamid.1", "wamid.1"] ∧
      w'.tables.messages.map (·.status) = [.sent, .read]) ∧ P.world.SameOutside target w' := by
  have hplay : (Pool.play? Sample.greetingMoves Sample.pool).any (fun P =>
      (Sample.carry? (fun _ _ => none) (Sample.report "15550002" "wamid.1" "read") P.world).any fun played => decide
        (played.2.1.length ≤ 2 ^ 50 ∧ P.world.tables.messages.map (·.sourceId) = ["wamid.1", "wamid.1"] ∧
          played.2.2.2.tables.messages.map (·.status) = [.sent, .read])) = true := by
    decide +kernel
  obtain ⟨P, hp, hcarry⟩ := (Option.any_eq_true ..).1 hplay
  obtain ⟨⟨target, t, r, w'⟩, hc, hcheck⟩ := (Option.any_eq_true ..).1 hcarry
  obtain ⟨hlength, hsources, hstatus⟩ := of_decide_eq_true hcheck
  obtain ⟨n, hn, h⟩ := Sample.pool_reached.play hp
  obtain ⟨hres, hr⟩ := Sample.resolvedTo_of_carry? hc
  have hbound : n + t.length ≤ 2 ^ 51 := by
    have hmoves : Sample.greetingMoves.length = 32 := by decide
    have ht : t.length ≤ 2 ^ 50 := hlength
    omega
  exact ⟨n, P, target, t, r, w', h, hres, hr.unconditioned, hbound, ⟨hsources, hstatus⟩,
    perform_isolated h hres hr.unconditioned hbound⟩

end Intake
