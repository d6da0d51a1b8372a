import Intake.Proofs.Tenants.Within
import Intake.Proofs.World.Runs

/-!
# Conversations of a contact inbox

Conversations are opened by one request and by no other (`World.Deals.conversations`), and the latest one is the
greatest by creation and id (`Conversation.latest?_spec`).
-/

namespace Intake

namespace Conversation

variable {c d e : Conversation} {cs : List Conversation}

theorem notAfter_iff : c.notAfter d = true ↔
    c.createdAt < d.createdAt ∨ c.createdAt = d.createdAt ∧ c.id.toInt ≤ d.id.toInt := by
  simp [notAfter]

theorem notAfter_refl (c : Conversation) : c.notAfter c = true := notAfter_iff.2 (.inr ⟨rfl, Int.le_refl _⟩)

theorem notAfter_trans (h : c.notAfter d = true) (h' : d.notAfter e = true) : c.notAfter e = true := by
  rw [notAfter_iff] at h h' ⊢
  rcases h with hlt | ⟨heq, hle⟩
  · exact .inl (h'.elim (Int.lt_trans hlt) fun h' => h'.1 ▸ hlt)
  · exact h'.imp (fun hlt => heq ▸ hlt) fun h' => ⟨heq.trans h'.1, Int.le_trans hle h'.2⟩

theorem notAfter_of_not (h : ¬ c.notAfter d = true) : d.notAfter c = true := by
  rw [notAfter_iff] at h ⊢
  rcases Int.lt_trichotomy c.createdAt d.createdAt with hlt | heq | hgt
  · exact absurd (.inl hlt) h
  · exact .inr ⟨heq.symm, Int.le_of_lt (Int.not_le.1 fun hle => h (.inr ⟨heq, hle⟩))⟩
  · exact .inl hgt

theorem latest?_spec (h : latest? cs = some c) : c ∈ cs ∧ ∀ d ∈ cs, d.notAfter c = true := by
  refine ⟨mem_of_latest? h, ?_⟩
  cases cs with
  | nil => cases h
  | cons first cs =>
    obtain rfl := Option.some.inj h
    clear h
    induction cs generalizing first with
    | nil => simp [notAfter_refl]
    | cons d ds ih =>
      rw [List.foldl_cons]
      obtain ⟨hbest, hrest⟩ := List.forall_mem_cons.1 (ih (if first.notAfter d then d else first))
      have hboth : first.notAfter (if first.notAfter d then d else first) = true ∧
          d.notAfter (if first.notAfter d then d else first) = true := by
        split
        · next hle => exact ⟨hle, notAfter_refl d⟩
        · next hle => exact ⟨notAfter_refl first, notAfter_of_not hle⟩
      exact List.forall_mem_cons.2 ⟨notAfter_trans hboth.1 hbest,
        List.forall_mem_cons.2 ⟨notAfter_trans hboth.2 hbest, hrest⟩⟩

end Conversation

/-- How many conversations a contact inbox has. -/
def Tables.threads (t : Tables) (link : Snowflake) : Nat := t.conversations.countP (·.contactInbox = link)

theorem Tables.threads_eq_zero_iff {t : Tables} {link : Snowflake} :
    t.threads link = 0 ↔ t.findConversation link .any = none := by
  rw [findConversation_eq_none_iff, threads, List.countP_eq_zero]
  simp [ConversationFilter.admits]

/-- The conversation that the exchange has opened. -/
def Exchange.opened : Exchange → Option Conversation
  | ⟨.createConversation c, .ok _⟩ => some c
  | _ => none

namespace World

variable {w w' : World} {r : Request} {b : r.Reply} {link : Snowflake} {f : ConversationFilter}

theorem Replies.conversations {clocks : Time → Prop} {o : Conditions} (h : w.Replies clocks o r b w') :
    w'.tables.conversations = w.tables.conversations ++ (Exchange.opened ⟨r, b⟩).toList := by
  rcases h with ⟨clock, file, -, -, h⟩ | ⟨e, -, hb, rfl⟩
  · cases r with
    | tryClaim channel source =>
      obtain ⟨a, -, h⟩ := Option.map_eq_some_iff.1 h
      cases h
      exact (List.append_nil _).symm
    | createMessage m =>
      cases h
      refine Eq.trans ?_ (List.append_nil _).symm
      change (w.store.createMessage m).2.tables.conversations = w.store.tables.conversations
      rw [MemoryStore.createMessage]
      cases w.store.failingWrites with
      | succ n => rfl
      | zero => rcases w.store.tables.addMessage_cases m with ⟨-, heq⟩ | ⟨-, heq⟩ <;> rw [heq] <;> rfl
    | updateStatus message status error =>
      cases h
      refine Eq.trans ?_ (List.append_nil _).symm
      change (w.store.updateStatus message status error).2.tables.conversations = w.store.tables.conversations
      rw [MemoryStore.updateStatus, Tables.updateStatus]
      split <;> rfl
    | upsertContact new =>
      cases h
      refine Eq.trans ?_ (List.append_nil _).symm
      change (w.store.upsertContact clock new).2.tables.conversations = w.store.tables.conversations
      rcases w.store.upsertContact_cases clock new with ⟨_, -, heq, -⟩ | ⟨-, ⟨_, -, heq⟩ | ⟨-, heq⟩⟩ <;>
        rw [heq] <;> rfl
    | findChannelByPhone | findGupshupChannel =>
      cases h
      exact (congrArg Tables.conversations (w.store.lookUp_tables _)).trans (List.append_nil _).symm
    | createConversation c =>
      cases h
      rfl
    | _ =>
      cases h
      exact (List.append_nil _).symm
  · cases r with
    | createConversation =>
      cases hb
      exact (List.append_nil _).symm
    | _ => exact (List.append_nil _).symm

theorem Answers.findConversation {o : Outage} {b : Except DomainError (Option Conversation)}
    (h : w.Answers o (.findConversation link f) b w') : b = .ok (w.tables.findConversation link f) := by
  rcases h with ⟨clock, file, -, -, h⟩ | ⟨e, hs, -, -⟩
  · exact (Prod.mk.inj (Option.some.inj h)).1.symm
  · cases hs

theorem Answers.createConversation {o : Outage} {c : Conversation} {b : Except DomainError Unit}
    (h : w.Answers o (.createConversation c) b w') : b = .ok () := by
  rcases h with ⟨clock, file, -, -, h⟩ | ⟨e, hs, -, -⟩
  · exact (Prod.mk.inj (Option.some.inj h)).1.symm
  · cases hs

theorem Deals.findConversation_ok {o : Conditions} {found : Option Conversation}
    (h : w.Deals o (.findConversation link f) (.ok found) w') : w.tables.findConversation link f = found ∧ w' = w := by
  rcases h with ⟨clock, file, -, -, ha⟩ | ⟨e, -, hb, -⟩
  · cases ha
    exact ⟨rfl, rfl⟩
  · cases hb

end World

end Intake
