import Intake.Proofs.Delivery.Writes

/-!
# What happens under a claim

`PersistCase` lists how the look-up of a message, and the writing if it is not there, can go: the exchanges, with the
outcome, in terms of the parts of `persist`. `Persisted` is what is left of that when all but the look-up and the writes
is forgotten. So facts about deliveries are case analyses, one case for each way, and need not look at the program
again.
-/

namespace Intake.Ingest

def messageKeys (target : ResolvedChannel) (source : String) (m : InboundMessage) : List (Snowflake × String) :=
  (messageIds source m).map (Prod.mk target.inbox.id)

theorem messageKeys_nodup (target : ResolvedChannel) (source : String) (m : InboundMessage) :
    (messageKeys target source m).Nodup :=
  List.pairwise_map.2 ((messageIds_nodup source m).imp fun h he => h (Prod.mk.inj he).2)

theorem mem_messageKeys_self (target : ResolvedChannel) (source : String) (m : InboundMessage) :
    (target.inbox.id, source) ∈ messageKeys target source m :=
  List.mem_map.2 ⟨source, mem_messageIds_self source m, rfl⟩

def DraftsOf (target : ResolvedChannel) (source : String) (m : InboundMessage) (ds : List Draft) : Prop :=
  ds.map Draft.key = messageKeys target source m

inductive Persisted (target : ResolvedChannel) (source : String) (m : InboundMessage) :
    List Exchange → Except DomainError EventOutcome → Prop
  | unread {e : DomainError} :
    Persisted target source m [⟨.findMessage target.inbox.id source, .error e⟩] (.error e)
  | found {stored : Message} :
    Persisted target source m [⟨.findMessage target.inbox.id source, .ok (some stored)⟩]
      (.ok (.dropped source .duplicate))
  /-- No contact or no conversation. -/
  | unresolved {q : List Exchange} {e : DomainError} :
    QuietTrace q → Persisted target source m (⟨.findMessage target.inbox.id source, .ok none⟩ :: q) (.error e)
  /-- Another delivery has written the message since the look-up. -/
  | beaten {q : List Exchange} {d : Draft} {ds : List Draft} {inbox : Snowflake} {id : String} :
    QuietTrace q → DraftsOf target source m (d :: ds) →
      Persisted target source m
        (⟨.findMessage target.inbox.id source, .ok none⟩ ::
          (q ++ [⟨.createMessage d.message, .error (.duplicateSourceId inbox id)⟩]))
        (.ok (.dropped source .duplicate))
  | refused {q : List Exchange} {d : Draft} {ds : List Draft} {e : DomainError} :
    QuietTrace q → DraftsOf target source m (d :: ds) →
      Exchange.refused ⟨.createMessage d.message, .error e⟩ = some d.key →
      Persisted target source m
        (⟨.findMessage target.inbox.id source, .ok none⟩ :: (q ++ [⟨.createMessage d.message, .error e⟩])) (.error e)
  /-- The first message was written, and a later one refused. -/
  | torn {q q' t : List Exchange} {d : Draft} {ds : List Draft} {e : DomainError} :
    QuietTrace q → DraftsOf target source m (d :: ds) → QuietTrace q' → Writing ds t (some e) →
      Persisted target source m
        (⟨.findMessage target.inbox.id source, .ok none⟩ ::
          (q ++ ⟨.createMessage d.message, .ok ()⟩ :: (q' ++ t)))
        (.error e)
  | created {q q' t : List Exchange} {d : Draft} {ds : List Draft} {messages : List Snowflake} {count : Nat} :
    QuietTrace q → DraftsOf target source m (d :: ds) → QuietTrace q' → Writing ds t none →
      Persisted target source m
        (⟨.findMessage target.inbox.id source, .ok none⟩ ::
          (q ++ ⟨.createMessage d.message, .ok ()⟩ :: (q' ++ t)))
        (.ok (.messageCreated source messages count))

variable {target : ResolvedChannel} {source : String} {m : InboundMessage} {t : List Exchange}
  {r : Except DomainError EventOutcome}

/-- How the parts of `persist` can follow each other. -/
inductive PersistCase (target : ResolvedChannel) (source : String) (m : InboundMessage) (new : NewContact) :
    List Exchange → Except DomainError EventOutcome → Prop
  | unread {e : DomainError} :
    PersistCase target source m new [⟨.findMessage target.inbox.id source, .error e⟩] (.error e)
  | found {stored : Message} :
    PersistCase target source m new [⟨.findMessage target.inbox.id source, .ok (some stored)⟩]
      (.ok (.dropped source .duplicate))
  | unlinked {e : DomainError} :
    PersistCase target source m new
      [⟨.findMessage target.inbox.id source, .ok none⟩, ⟨.upsertContact new, .error e⟩] (.error e)
  | unjoined {c : ResolvedContact} {t : List Exchange} {e : DomainError} :
    (resolveConversation target.inbox c).run.Yields t (.error e) →
      PersistCase target source m new
        (⟨.findMessage target.inbox.id source, .ok none⟩ :: ⟨.upsertContact new, .ok c⟩ :: t) (.error e)
  | drafted {c : ResolvedContact} {v : Conversation} {ds : List Draft} {t₁ t₂ t₃ : List Exchange}
    {r : Except DomainError EventOutcome} :
    (resolveConversation target.inbox c).run.Yields t₁ (.ok v) →
      (drafts (drafter target.inbox v c.contact m.replyTo) target.channel source m).Yields t₂ ds →
        (write source ds).run.Yields t₃ r →
          PersistCase target source m new
            (⟨.findMessage target.inbox.id source, .ok none⟩ :: ⟨.upsertContact new, .ok c⟩ :: (t₁ ++ t₂ ++ t₃)) r

theorem persist_cases {new : NewContact} (h : (persist target source m new).run.Yields t r) :
    PersistCase target source m new t r := by
  unfold persist at h
  rcases Attempt.yields_bind.1 h with ⟨e, h₁, rfl⟩ | ⟨t₁, stored, t₂, rfl, h₁, h₂⟩
  · obtain rfl := Program.yields_request.1 h₁
    exact .unread
  obtain rfl := Program.yields_request.1 h₁
  rcases stored with - | stored
  · rcases Attempt.yields_bind.1 h₂ with ⟨e, h₃, rfl⟩ | ⟨t₃, c, t₄, rfl, h₃, h₄⟩
    · obtain rfl := Program.yields_request.1 h₃
      exact .unlinked
    obtain rfl := Program.yields_request.1 h₃
    rcases Attempt.yields_bind.1 h₄ with ⟨e, h₅, rfl⟩ | ⟨t₅, v, t₆, rfl, h₅, h₆⟩
    · exact .unjoined h₅
    obtain ⟨t₇, ds, t₈, rfl, h₇, h₈⟩ := Attempt.yields_lift_bind.1 h₆
    rw [← List.append_assoc t₅]
    exact .drafted h₅ h₇ h₈
  · obtain ⟨rfl, rfl⟩ := h₂
    exact .found

theorem asks_persist {new : NewContact} {P : Request → Prop} (hfind : P (.findMessage target.inbox.id source))
    (hupsert : P (.upsertContact new)) (hjoin : ∀ r, r.isJoin = true → P r)
    (hdrafts : ∀ v c, (drafts (drafter target.inbox v c m.replyTo) target.channel source m).Asks P)
    (hwrite : ∀ v c t ds, (drafts (drafter target.inbox v c m.replyTo) target.channel source m).Yields t ds →
      (write source ds).run.Asks P) :
    (persist target source m new).run.Asks P := by
  unfold persist
  refine Attempt.asks_bind (Program.Asks.request hfind) fun stored => ?_
  split
  · trivial
  refine Attempt.asks_bind (Program.Asks.request hupsert) fun c => ?_
  refine Attempt.asks_bind ((resolveConversation_joins ..).mono hjoin) fun v => ?_
  exact Attempt.asks_lift_bind_of_yields (hdrafts v c.contact) (hwrite v c.contact)

theorem persist_yields {new : NewContact} (h : (persist target source m new).run.Yields t r) :
    Persisted target source m t r := by
  cases persist_cases h with
  | unread => exact .unread
  | found => exact .found
  | unlinked => exact .unresolved (QuietTrace.cons rfl (by simp [QuietTrace]))
  | unjoined hj => exact .unresolved (QuietTrace.cons rfl ((resolveConversation_quiet ..).mem hj))
  | @drafted c v ds t₁ t₂ t₃ _ hj hd hw =>
    have hq : QuietTrace (⟨.upsertContact new, .ok c⟩ :: (t₁ ++ t₂)) :=
      .cons rfl (.append ((resolveConversation_quiet ..).mem hj)
        ((drafts_supplies (drafter_supplies _ _ _ _) ..).quiet.mem hd))
    have hds : DraftsOf target source m ds := drafts_keys (fun _ _ _ _ => drafter_key) hd
    rw [← List.cons_append]
    cases write_cases hw with
    | nothing =>
      -- The event has at least its own message, so there is a first draft.
      obtain ⟨ids, hids⟩ := messageIds_eq_cons source m
      rw [DraftsOf, messageKeys, hids] at hds
      cases hds
    | beaten => exact .beaten hq hds
    | refused he => exact .refused hq hds he
    | written ha hrest =>
      have hq' := (writeAttachments_quiet _).mem ha
      rcases writeRest_yields hrest with ⟨hwriting, messages, count, rfl⟩ | ⟨e, hwriting, rfl⟩
      · exact .created hq hds hq' hwriting
      · exact .torn hq hds hq' hwriting

theorem DraftsOf.head {d : Draft} {ds : List Draft} (h : DraftsOf target source m (d :: ds)) :
    d.key = (target.inbox.id, source) := by
  obtain ⟨ids, hids⟩ := messageIds_eq_cons source m
  rw [DraftsOf, messageKeys, hids] at h
  exact (List.cons.inj h).1

namespace Persisted

theorem isGuard (h : Persisted target source m t r) : ∀ x ∈ t, x.request.isGuard = false := by
  cases h with
  | unread | found => exact List.forall_mem_singleton.2 rfl
  | unresolved hq => exact List.forall_mem_cons.2 ⟨rfl, fun x hx => hq.isGuard hx⟩
  | beaten hq | refused hq =>
    refine List.forall_mem_cons.2 ⟨rfl, List.forall_mem_append.2 ⟨fun x hx => hq.isGuard hx, ?_⟩⟩
    exact List.forall_mem_singleton.2 rfl
  | torn hq _ hq' hw | created hq _ hq' hw =>
    refine List.forall_mem_cons.2 ⟨rfl, List.forall_mem_append.2 ⟨fun x hx => hq.isGuard hx, ?_⟩⟩
    exact List.forall_mem_cons.2 ⟨rfl, List.forall_mem_append.2 ⟨fun x hx => hq'.isGuard hx, hw.isGuard⟩⟩

theorem attempted_mem {x : Exchange} {k : Snowflake × String} (h : Persisted target source m t r) (hx : x ∈ t)
    (hk : x.attempted = some k) : k ∈ messageKeys target source m := by
  have hhead {d : Draft} {ds : List Draft} (hds : DraftsOf target source m (d :: ds)) (hk : some d.key = some k) :
      k ∈ messageKeys target source m :=
    hds ▸ Option.some.inj hk ▸ List.mem_cons_self
  cases h with
  | unread | found => cases List.mem_singleton.1 hx; cases hk
  | unresolved hq => exact absurd hk ((hq.cons rfl).not_attempted hx)
  | beaten hq hds | refused hq hds =>
    rcases List.mem_append.1 (List.cons_append ▸ hx) with hx | hx
    · exact absurd hk ((hq.cons rfl).not_attempted hx)
    · cases List.mem_singleton.1 hx
      exact hhead hds hk
  | torn hq hds hq' hw | created hq hds hq' hw =>
    rcases (hq.cons rfl).attempted_cases hq' hx hk with rfl | hx
    · exact hhead hds hk
    · exact hds ▸ List.mem_cons_of_mem _ (hw.attempted_mem hx hk)

theorem shown {outcome : EventOutcome} (h : Persisted target source m t (.ok outcome)) :
    ∃ x ∈ t, x.shown = some (target.inbox.id, source) := by
  cases h with
  | found => exact ⟨_, List.mem_cons_self, rfl⟩
  | beaten hq hds =>
    refine ⟨_, List.mem_cons_of_mem _ (List.mem_append_right _ List.mem_cons_self), ?_⟩
    exact congrArg some hds.head
  | created hq hds =>
    refine ⟨_, List.mem_cons_of_mem _ (List.mem_append_right _ List.mem_cons_self), ?_⟩
    exact congrArg some hds.head

theorem written {id : String} {messages : List Snowflake} {count : Nat}
    (h : Persisted target source m t (.ok (.messageCreated id messages count))) :
    id = source ∧ ∃ x ∈ t, x.written = some (target.inbox.id, source) := by
  cases h with
  | created hq hds =>
    refine ⟨rfl, _, List.mem_cons_of_mem _ (List.mem_append_right _ List.mem_cons_self), ?_⟩
    exact congrArg some hds.head

theorem of_error {e : DomainError} (h : Persisted target source m t (.error e)) :
    ∃ b t', t = ⟨.findMessage target.inbox.id source, b⟩ :: t' ∧ ∀ stored, b ≠ .ok (some stored) := by
  cases h with
  | unread | unresolved | refused | torn => exact ⟨_, _, rfl, nofun⟩

end Persisted

end Intake.Ingest
