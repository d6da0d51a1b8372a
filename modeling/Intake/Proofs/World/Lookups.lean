import Intake.Proofs.World.Store

/-!
# Look-ups among tenants

They change no table, and fail only while the store has failures of look-ups left. A job whose look-ups do not fail is
routed.
-/

namespace Intake

/-- The exchange is no look-up among the tenants that failed. -/
def Exchange.Read : Exchange → Prop
  | ⟨.findChannelByPhone _, b⟩ => ∃ channel, b = .ok channel
  | ⟨.findGupshupChannel _, b⟩ => ∃ channel, b = .ok channel
  | ⟨.accountStatus _, b⟩ => ∃ status, b = .ok status
  | ⟨.findInbox _, b⟩ => ∃ inbox, b = .ok inbox
  | _ => True

namespace Routing

variable {job : WebhookJob} {t : List Exchange} {e : DomainError}

theorem findChannel_not_read (h : (findChannel job).run.Yields t (.error e)) : ∃ x ∈ t, ¬ x.Read := by
  unfold findChannel at h
  split at h
  · split at h
    · obtain rfl := Program.yields_request.1 h
      exact ⟨_, List.mem_cons_self, nofun⟩
    · cases h.2
  · split at h
    · rcases Attempt.yields_bind.1 h with ⟨e', h₁, -⟩ | ⟨t₁, found, t₂, rfl, -, h₂⟩
      · obtain rfl := Program.yields_request.1 h₁
        exact ⟨_, List.mem_cons_self, nofun⟩
      · cases h₂.2
    · cases h.2
  · split at h
    · obtain rfl := Program.yields_request.1 h
      exact ⟨_, List.mem_cons_self, nofun⟩
    · cases h.2

theorem resolve_not_read (h : (resolve job).run.Yields t (.error e)) : ∃ x ∈ t, ¬ x.Read := by
  unfold resolve at h
  rcases Attempt.yields_bind.1 h with ⟨e', h₁, -⟩ | ⟨t₁, channel, t₂, rfl, -, h₂⟩
  · exact findChannel_not_read h₁
  have hlater {t' : List Exchange} (h : ∃ x ∈ t', ¬ x.Read) : ∃ x ∈ t₁ ++ t', ¬ x.Read := by
    obtain ⟨x, hx, hr⟩ := h
    exact ⟨x, List.mem_append_right _ hx, hr⟩
  refine hlater ?_
  split at h₂
  · cases h₂.2
  · split at h₂
    · cases h₂.2
    · rcases Attempt.yields_bind.1 h₂ with ⟨e', h₃, -⟩ | ⟨t₃, status, t₄, rfl, -, h₄⟩
      · obtain rfl := Program.yields_request.1 h₃
        exact ⟨_, List.mem_cons_self, nofun⟩
      · split at h₄
        · cases h₄.2
        · rcases Attempt.yields_bind.1 h₄ with ⟨e', h₅, -⟩ | ⟨t₅, inbox, t₆, rfl, -, h₆⟩
          · obtain rfl := Program.yields_request.1 h₅
            exact ⟨_, List.mem_append_right _ List.mem_cons_self, nofun⟩
          · split at h₆ <;> cases h₆.2

end Routing

namespace MemoryStore

variable (s : MemoryStore) (clock : Time)

theorem lookUp_eq_ok {α : Type} (find : Tables → α) (h : s.failingLookups = 0) :
    s.lookUp find = (.ok (find s.tables), s) := by
  rw [lookUp, h]

theorem lookUp_failingLookups {α : Type} (find : Tables → α) (h : s.failingLookups = 0) :
    (s.lookUp find).2.failingLookups = 0 := by
  rw [s.lookUp_eq_ok find h]
  exact h

theorem commit_failingLookups (tables : Except DomainError Tables) :
    (s.commit tables).2.failingLookups = s.failingLookups := by
  cases tables <;> rfl

theorem createMessage_failingLookups (m : Message) : (s.createMessage m).2.failingLookups = s.failingLookups := by
  rw [createMessage]
  split
  · exact s.commit_failingLookups _
  · rfl

theorem contactFor_failingLookups (new : NewContact) :
    (s.contactFor clock new).2.failingLookups = s.failingLookups := by
  rw [contactFor]
  split <;> rfl

theorem upsertContact_failingLookups (new : NewContact) :
    (s.upsertContact clock new).2.failingLookups = s.failingLookups := by
  rw [upsertContact]
  split
  · split <;> rfl
  · exact s.contactFor_failingLookups clock new

end MemoryStore

namespace World

variable {clocks : Time → Prop} {o : Conditions} {lapses : World → MemoryGuard → Instant → Prop} {w w' : World}
  {t : List Exchange} {r : Request} {b : r.Reply}

namespace Replies

theorem failingLookups (h : w.Replies clocks o r b w') (h₀ : w.store.failingLookups = 0) :
    w'.store.failingLookups = 0 := by
  rcases h with ⟨clock, file, -, -, h⟩ | ⟨e, -, -, rfl⟩
  · cases r with
    | tryClaim c s =>
      obtain ⟨a, -, h⟩ := Option.map_eq_some_iff.1 h
      obtain ⟨rfl, rfl⟩ := Prod.mk.inj h
      exact h₀
    | createMessage m =>
      obtain ⟨rfl, rfl⟩ := Prod.mk.inj (Option.some.inj h)
      exact (w.store.createMessage_failingLookups m).trans h₀
    | updateStatus m s e =>
      obtain ⟨rfl, rfl⟩ := Prod.mk.inj (Option.some.inj h)
      exact (w.store.commit_failingLookups _).trans h₀
    | upsertContact new =>
      obtain ⟨rfl, rfl⟩ := Prod.mk.inj (Option.some.inj h)
      exact (w.store.upsertContact_failingLookups clock new).trans h₀
    | findChannelByPhone | findGupshupChannel =>
      obtain ⟨rfl, rfl⟩ := Prod.mk.inj (Option.some.inj h)
      exact w.store.lookUp_failingLookups _ h₀
    | _ =>
      obtain ⟨rfl, rfl⟩ := Prod.mk.inj (Option.some.inj h)
      exact h₀
  · exact h₀

theorem tables_of_lookup (h : w.Replies clocks o r b w') (hr : r.isLookup = true) : w'.tables = w.tables := by
  rcases h with ⟨clock, file, -, -, h⟩ | ⟨e, -, -, rfl⟩
  · cases r with
    | findChannelByPhone | findGupshupChannel =>
      obtain ⟨rfl, rfl⟩ := Prod.mk.inj (Option.some.inj h)
      exact w.store.lookUp_tables _
    | accountStatus | findInbox =>
      obtain ⟨rfl, rfl⟩ := Prod.mk.inj (Option.some.inj h)
      rfl
    | _ => cases hr
  · rfl

end Replies

theorem Takes.failingLookups (h : w.Takes (.alone clocks o lapses) t w') (h₀ : w.store.failingLookups = 0) :
    w'.store.failingLookups = 0 := by
  induction h with
  | nil => exact h₀
  | exchange hr _ ih => exact ih (hr.failingLookups h₀)
  | lapse _ _ ih => exact ih h₀

theorem Takes.tables_of_lookups (h : w.Takes (.alone clocks o lapses) t w')
    (ht : ∀ x ∈ t, x.request.isLookup = true) : w'.tables = w.tables := by
  induction h with
  | nil => rfl
  | exchange hr _ ih =>
    obtain ⟨hx, ht⟩ := List.forall_mem_cons.1 ht
    exact (ih ht).trans (hr.tables_of_lookup hx)
  | lapse _ _ ih => exact ih ht

/-- An outage keeps nothing from being looked up. -/
theorem Answers.read {outage : Outage} (h : w.Answers outage r b w') (h₀ : w.store.failingLookups = 0) :
    Exchange.Read ⟨r, b⟩ := by
  rcases h with ⟨clock, file, -, -, h⟩ | ⟨e, hs, -, -⟩
  · cases r with
    | findChannelByPhone | findGupshupChannel =>
      obtain ⟨rfl, rfl⟩ := Prod.mk.inj (Option.some.inj h)
      exact ⟨_, congrArg Prod.fst (w.store.lookUp_eq_ok _ h₀)⟩
    | accountStatus | findInbox =>
      obtain ⟨rfl, rfl⟩ := Prod.mk.inj (Option.some.inj h)
      exact ⟨_, rfl⟩
    | _ => trivial
  · cases r <;> trivial

theorem Passes.read {outage : Outage} (h : w.Passes outage t w') (h₀ : w.store.failingLookups = 0) :
    ∀ x ∈ t, x.Read := by
  induction h with
  | nil => simp
  | exchange ha _ ih => exact List.forall_mem_cons.2 ⟨ha.read h₀, ih (ha.failingLookups h₀)⟩
  | lapse _ _ ih => exact ih h₀

end World

end Intake
