import Intake.Proofs.Delivery.Route
import Intake.Proofs.World.Basic

/-!
# What requests do to the store

Tenants (channels, inboxes and the standing of accounts) never change, so look-ups among them always get the same reply
(`Exchange.Fits`). Messages are only added: `Takes.keys` says that the stored keys are the old ones followed by those
that were written, and `Replies.records` that no message goes or changes but in its status and error.
-/

namespace Intake

namespace Message

/-- A message but for its delivery status and error. -/
def record (m : Message) : Message := { m with status := .sent, externalError := none }

theorem key_applyStatus (m : Message) (status : MessageStatus) (e : Option String) :
    (m.applyStatus status e).key = m.key := rfl

theorem record_applyStatus (m : Message) (status : MessageStatus) (e : Option String) :
    (m.applyStatus status e).record = m.record := rfl

end Message

namespace Tables

variable {t t' : Tables} {k : Snowflake × String}

/-- The inbox and source id of every message, in the order of their creation. -/
def keys (t : Tables) : List (Snowflake × String) := t.messages.map Message.key

def records (t : Tables) : List Message := t.messages.map Message.record

theorem mem_keys_iff : k ∈ t.keys ↔ (t.findMessage k.1 k.2).isSome = true := by
  simp only [keys, findMessage, List.mem_map, List.find?_isSome, Bool.and_eq_true, decide_eq_true_eq]
  constructor
  · rintro ⟨m, hm, rfl⟩
    exact ⟨m, hm, rfl, rfl⟩
  · rintro ⟨m, hm, h₁, h₂⟩
    exact ⟨m, hm, Prod.ext h₁ h₂⟩

theorem map_modifyFirst {α β : Type} {p : α → Bool} {f : α → α} {g : α → β} (h : ∀ a, g (f a) = g a)
    (l : List α) : (modifyFirst p f l).map g = l.map g := by
  induction l with
  | nil => rfl
  | cons a l ih =>
    rw [modifyFirst]
    split
    · rw [List.map_cons, List.map_cons, h]
    · rw [List.map_cons, List.map_cons, ih]

/-- The first row that satisfies `p` is the only one. -/
theorem modifyFirst_eq_map {α : Type} {p : α → Bool} {f : α → α} {l : List α}
    (h : l.Pairwise fun a b => p a = true → p b = false) :
    modifyFirst p f l = l.map fun a => if p a then f a else a := by
  induction l with
  | nil => rfl
  | cons a l ih =>
    obtain ⟨ha, hl⟩ := List.pairwise_cons.1 h
    rw [modifyFirst, List.map_cons]
    split
    · next hp =>
      congr 1
      refine (List.map_id l).symm.trans (List.map_congr_left fun b hb => ?_)
      rw [ha b hb hp]
      rfl
    · rw [ih hl]

theorem modifyFirst_of_id {l : List Message} (h : (l.map (·.id)).Nodup) (id : Snowflake) (f : Message → Message) :
    modifyFirst (·.id = id) f l = l.map fun m => if m.id = id then f m else m := by
  have hpairs : l.Pairwise fun m n => decide (m.id = id) = true → decide (n.id = id) = false := by
    refine (List.pairwise_map.1 h).imp fun hne hm => ?_
    rw [decide_eq_true_eq] at hm
    exact decide_eq_false (hm ▸ hne.symm)
  simpa using modifyFirst_eq_map (f := f) hpairs

theorem find?_modifyFirst {α : Type} {p : α → Bool} {f : α → α} (hf : ∀ a, p (f a) = p a) (l : List α) :
    (modifyFirst p f l).find? p = (l.find? p).map f := by
  induction l with
  | nil => rfl
  | cons a l ih =>
    rw [modifyFirst, List.find?_cons]
    split
    · next hp => rw [List.find?_cons, hf a, hp, Option.map_some]
    · next hp => rw [List.find?_cons, Bool.eq_false_iff.2 hp, ih]

theorem messages_of_updateStatus {id : Snowflake} {status : MessageStatus} {error : Option String}
    (h : t.updateStatus id status error = .ok t') :
    t'.messages = modifyFirst (·.id = id) (·.applyStatus status error) t.messages := by
  rw [updateStatus] at h
  split at h
  · exact congrArg Tables.messages (Except.ok.inj h).symm
  · cases h

theorem addMessage_cases (t : Tables) (m : Message) :
    (m.key ∈ t.keys ∧ t.addMessage m = .error (.duplicateSourceId m.inbox m.sourceId)) ∨
      m.key ∉ t.keys ∧ t.addMessage m = .ok { t with messages := t.messages ++ [m] } := by
  rw [mem_keys_iff, addMessage]
  split
  · exact .inl ⟨‹_›, rfl⟩
  · exact .inr ⟨‹_›, rfl⟩

end Tables

namespace MemoryStore

variable (s : MemoryStore) (clock : Time)

/-- A write either fails, or finds the key there, or adds the message. -/
theorem createMessage_cases (m : Message) :
    ((s.createMessage m).2.tables = s.tables ∧
      ((s.createMessage m).1 = .error writeFailure ∨
        m.key ∈ s.tables.keys ∧ (s.createMessage m).1 = .error (.duplicateSourceId m.inbox m.sourceId))) ∨
      m.key ∉ s.tables.keys ∧ (s.createMessage m).1 = .ok () ∧
        (s.createMessage m).2.tables.tenants = s.tables.tenants ∧
          (s.createMessage m).2.tables.messages = s.tables.messages ++ [m] := by
  rw [createMessage]
  cases s.failingWrites with
  | succ n => exact .inl ⟨rfl, .inl rfl⟩
  | zero =>
    rcases s.tables.addMessage_cases m with ⟨hk, h⟩ | ⟨hk, h⟩
    · rw [h]
      exact .inl ⟨rfl, .inr ⟨hk, rfl⟩⟩
    · rw [h]
      exact .inr ⟨hk, rfl, rfl, rfl⟩

theorem updateStatus_frame (message : Snowflake) (status : MessageStatus) (e : Option String) :
    (s.updateStatus message status e).2.tables.tenants = s.tables.tenants ∧
      (s.updateStatus message status e).2.tables.keys = s.tables.keys ∧
      (s.updateStatus message status e).2.tables.records = s.tables.records := by
  rw [updateStatus, Tables.updateStatus]
  split
  · exact ⟨rfl, Tables.map_modifyFirst (fun m => m.key_applyStatus status e) _,
      Tables.map_modifyFirst (fun m => m.record_applyStatus status e) _⟩
  · exact ⟨rfl, rfl, rfl⟩

theorem contactFor_frame (new : NewContact) :
    (s.contactFor clock new).2.tables.tenants = s.tables.tenants ∧
      (s.contactFor clock new).2.tables.messages = s.tables.messages := by
  rw [contactFor]
  split <;> exact ⟨rfl, rfl⟩

theorem upsertContact_frame (new : NewContact) :
    (s.upsertContact clock new).2.tables.tenants = s.tables.tenants ∧
      (s.upsertContact clock new).2.tables.messages = s.tables.messages := by
  rw [upsertContact]
  split
  · split <;> exact ⟨rfl, rfl⟩
  · exact s.contactFor_frame clock new

theorem lookUp_tables {α : Type} (find : Tables → α) : (s.lookUp find).2.tables = s.tables := by
  rw [lookUp]
  split <;> rfl

theorem lookUp_ok {α : Type} {find : Tables → α} {a : α} (h : (s.lookUp find).1 = .ok a) : a = find s.tables := by
  rw [lookUp] at h
  split at h
  · exact (Except.ok.inj h).symm
  · cases h

/-- A store with channels and nothing else. -/
def seeded (setups : List (Time × Provider × String × Credentials)) : MemoryStore :=
  setups.foldl (fun s (clock, provider, phone, credentials) => s.addChannel clock provider phone credentials) {}

theorem seeded_keys (setups : List (Time × Provider × String × Credentials)) : (seeded setups).tables.keys = [] := by
  have h : ∀ s : MemoryStore, s.tables.keys = [] →
      (setups.foldl (fun s (clock, provider, phone, credentials) => s.addChannel clock provider phone credentials)
        s).tables.keys = [] := by
    induction setups with
    | nil => exact fun _ hs => hs
    | cons setup setups ih => exact fun s hs => ih _ hs
  exact h {} rfl

end MemoryStore

/-- Whether the request can change stored messages. -/
def Request.touchesMessages : Request → Bool
  | createMessage _ | updateStatus .. => true
  | _ => false

namespace World

variable {w w' : World} {t : List Exchange} {k : Snowflake × String} {r : Request} {b : r.Reply}

section

variable {clocks : Time → Prop} {o : Conditions} {lapses : World → MemoryGuard → Instant → Prop}

namespace Replies

theorem tenants (h : w.Replies clocks o r b w') : w'.tables.tenants = w.tables.tenants := by
  rcases h with ⟨clock, file, -, -, h⟩ | ⟨e, -, -, rfl⟩
  · cases r with
    | tryClaim c s =>
      obtain ⟨a, -, h⟩ := Option.map_eq_some_iff.1 h
      obtain ⟨rfl, rfl⟩ := Prod.mk.inj h
      rfl
    | createMessage m =>
      obtain ⟨rfl, rfl⟩ := Prod.mk.inj (Option.some.inj h)
      rcases w.store.createMessage_cases m with ⟨h, -⟩ | ⟨-, -, h, -⟩
      · exact congrArg Tables.tenants h
      · exact h
    | updateStatus m s e =>
      obtain ⟨rfl, rfl⟩ := Prod.mk.inj (Option.some.inj h)
      exact (w.store.updateStatus_frame m s e).1
    | upsertContact new =>
      obtain ⟨rfl, rfl⟩ := Prod.mk.inj (Option.some.inj h)
      exact (w.store.upsertContact_frame clock new).1
    | findChannelByPhone | findGupshupChannel =>
      obtain ⟨rfl, rfl⟩ := Prod.mk.inj (Option.some.inj h)
      exact congrArg Tables.tenants (w.store.lookUp_tables _)
    | _ =>
      obtain ⟨rfl, rfl⟩ := Prod.mk.inj (Option.some.inj h)
      rfl
  · rfl

theorem fits (h : w.Replies clocks o r b w') : Exchange.Fits w.tables ⟨r, b⟩ := by
  rcases h with ⟨clock, file, -, -, h⟩ | ⟨e, -, hb, -⟩
  · cases r with
    | findChannelByPhone | findGupshupChannel =>
      obtain ⟨rfl, rfl⟩ := Prod.mk.inj (Option.some.inj h)
      exact fun c hc => w.store.lookUp_ok hc
    | accountStatus | findInbox =>
      obtain ⟨rfl, rfl⟩ := Prod.mk.inj (Option.some.inj h)
      exact fun c hc => (Except.ok.inj hc).symm
    | _ => trivial
  · cases r with
    | findChannelByPhone | findGupshupChannel | accountStatus | findInbox =>
      cases hb
      exact nofun
    | _ => trivial

theorem messages (h : w.Replies clocks o r b w') (hr : r.touchesMessages = false) :
    w'.tables.messages = w.tables.messages := by
  rcases h with ⟨clock, file, -, -, h⟩ | ⟨e, -, -, rfl⟩
  · cases r with
    | tryClaim c s =>
      obtain ⟨a, -, h⟩ := Option.map_eq_some_iff.1 h
      obtain ⟨rfl, rfl⟩ := Prod.mk.inj h
      rfl
    | createMessage | updateStatus => cases hr
    | upsertContact new =>
      obtain ⟨rfl, rfl⟩ := Prod.mk.inj (Option.some.inj h)
      exact (w.store.upsertContact_frame clock new).2
    | findChannelByPhone | findGupshupChannel =>
      obtain ⟨rfl, rfl⟩ := Prod.mk.inj (Option.some.inj h)
      exact congrArg Tables.messages (w.store.lookUp_tables _)
    | _ =>
      obtain ⟨rfl, rfl⟩ := Prod.mk.inj (Option.some.inj h)
      rfl
  · rfl

/-- A message that is not refused is added. -/
theorem createMessage {m : Message} {b : Except DomainError Unit} (h : w.Replies clocks o (.createMessage m) b w') :
    (w'.tables.messages = w.tables.messages ∧ ∃ e, b = .error e) ∨
      m.key ∉ w.tables.keys ∧ b = .ok () ∧ w'.tables.messages = w.tables.messages ++ [m] := by
  rcases h with ⟨clock, file, -, -, h⟩ | ⟨e, -, hb, rfl⟩
  · obtain ⟨rfl, rfl⟩ := Prod.mk.inj (Option.some.inj h)
    rcases w.store.createMessage_cases m with ⟨ht, hb | ⟨-, hb⟩⟩ | ⟨hk, hb, -, hm⟩
    · exact .inl ⟨congrArg Tables.messages ht, _, hb⟩
    · exact .inl ⟨congrArg Tables.messages ht, _, hb⟩
    · exact .inr ⟨hk, hb, hm⟩
  · exact .inl ⟨rfl, e, (Option.some.inj hb).symm⟩

theorem updateStatus {m : Snowflake} {s : MessageStatus} {e : Option String} {b : Except DomainError Unit}
    (h : w.Replies clocks o (.updateStatus m s e) b w') :
    w'.tables.keys = w.tables.keys ∧ w'.tables.records = w.tables.records := by
  rcases h with ⟨clock, file, -, -, h⟩ | ⟨e, -, -, rfl⟩
  · obtain ⟨rfl, rfl⟩ := Prod.mk.inj (Option.some.inj h)
    exact (w.store.updateStatus_frame m s e).2
  · exact ⟨rfl, rfl⟩

theorem keys (h : w.Replies clocks o r b w') :
    w'.tables.keys = w.tables.keys ++ (Exchange.written ⟨r, b⟩).toList := by
  cases r with
  | createMessage m =>
    rcases h.createMessage with ⟨hm, _, rfl⟩ | ⟨-, rfl, hm⟩ <;> simp [Tables.keys, hm, Exchange.written]
  | updateStatus m s e =>
    rw [h.updateStatus.1]
    exact (List.append_nil _).symm
  | _ =>
    rw [Tables.keys, h.messages rfl]
    exact (List.append_nil _).symm

theorem records (h : w.Replies clocks o r b w') : w.tables.records <+: w'.tables.records := by
  cases r with
  | createMessage m =>
    rcases h.createMessage with ⟨hm, -⟩ | ⟨-, -, hm⟩ <;> simp [Tables.records, hm]
  | updateStatus m s e => exact h.updateStatus.2 ▸ List.prefix_rfl
  | _ =>
    have hm : w'.tables.records = w.tables.records := congrArg (List.map Message.record) (h.messages rfl)
    exact hm ▸ List.prefix_rfl

theorem written (h : w.Replies clocks o r b w') (hk : Exchange.written ⟨r, b⟩ = some k) : k ∉ w.tables.keys := by
  cases r with
  | createMessage m =>
    rcases h.createMessage with ⟨-, _, rfl⟩ | ⟨hn, rfl, -⟩
    · cases hk
    · cases hk
      exact hn
  | _ => cases hk

theorem mem_keys (h : w.Replies clocks o r b w') (hk : k ∈ w.tables.keys) : k ∈ w'.tables.keys := by
  rw [h.keys]
  exact List.mem_append_left _ hk

theorem nodup (h : w.Replies clocks o r b w') (hn : w.tables.keys.Nodup) : w'.tables.keys.Nodup := by
  rw [h.keys]
  cases hk : Exchange.written ⟨r, b⟩ with
  | none => simpa using hn
  | some k =>
    refine List.nodup_append.2 ⟨hn, List.pairwise_singleton _ k, fun k' hk' k'' hk'' he => ?_⟩
    rw [Option.toList_some, List.mem_singleton] at hk''
    exact h.written hk (hk'' ▸ he ▸ hk')

end Replies

namespace Takes

theorem tenants (h : w.Takes (.alone clocks o lapses) t w') : w'.tables.tenants = w.tables.tenants := by
  induction h with
  | nil => rfl
  | exchange hr _ ih => exact ih.trans hr.tenants
  | lapse _ _ ih => exact ih

theorem fits (h : w.Takes (.alone clocks o lapses) t w') : ∀ x ∈ t, x.Fits w.tables := by
  induction h with
  | nil => simp
  | exchange hr _ ih =>
    exact List.forall_mem_cons.2 ⟨hr.fits, fun x hx => (ih x hx).congr hr.tenants.symm⟩
  | lapse _ _ ih => exact ih

theorem keys (h : w.Takes (.alone clocks o lapses) t w') :
    w'.tables.keys = w.tables.keys ++ t.filterMap Exchange.written := by
  induction h with
  | nil => simp
  | @exchange w w₁ w' r b t hr _ ih =>
    rw [ih, hr.keys, List.append_assoc, List.filterMap_cons]
    cases Exchange.written ⟨r, b⟩ <;> rfl
  | lapse _ _ ih => exact ih

theorem mem_keys_iff (h : w.Takes (.alone clocks o lapses) t w') :
    k ∈ w'.tables.keys ↔ k ∈ w.tables.keys ∨ ∃ x ∈ t, x.written = some k := by
  rw [h.keys, List.mem_append, List.mem_filterMap]

end Takes

end

variable {o : Outage}

namespace Answers

/-- A write is refused, or the key is there, or the message is added. -/
theorem createMessage {m : Message} {b : Except DomainError Unit} (h : w.Answers o (.createMessage m) b w') :
    (w'.tables.messages = w.tables.messages ∧
      ((∃ reason, b = .error (.database reason)) ∨
        m.key ∈ w.tables.keys ∧ b = .error (.duplicateSourceId m.inbox m.sourceId))) ∨
      m.key ∉ w.tables.keys ∧ b = .ok () ∧ w'.tables.messages = w.tables.messages ++ [m] := by
  rcases h with ⟨clock, file, -, -, h⟩ | ⟨e, hs, hr, rfl⟩
  · obtain ⟨rfl, rfl⟩ := Prod.mk.inj (Option.some.inj h)
    rcases w.store.createMessage_cases m with ⟨ht, hb⟩ | ⟨hk, hb, -, hm⟩
    · exact .inl ⟨congrArg Tables.messages ht, hb.imp_left fun hb => ⟨_, hb⟩⟩
    · exact .inr ⟨hk, hb, hm⟩
  · obtain rfl := Option.some.inj hr
    cases e with
    | database reason => exact .inl ⟨rfl, .inl ⟨reason, rfl⟩⟩
    | _ => cases hs

theorem findMessage {inbox : Snowflake} {source : String} {b : Except DomainError (Option Message)}
    (h : w.Answers o (.findMessage inbox source) b w') : b = .ok (w.tables.findMessage inbox source) := by
  rcases h with ⟨clock, file, -, -, h⟩ | ⟨e, hs, -, -⟩
  · exact (Prod.mk.inj (Option.some.inj h)).1.symm
  · cases hs

theorem shown (h : w.Answers o r b w') (hk : Exchange.shown ⟨r, b⟩ = some k) : k ∈ w'.tables.keys := by
  cases r with
  | createMessage m =>
    rcases h.createMessage with ⟨hm, ⟨_, rfl⟩ | ⟨hmem, rfl⟩⟩ | ⟨-, rfl, hm⟩ <;> cases hk
    · rwa [Tables.keys, hm]
    · simp [Tables.keys, hm]
  | findMessage inbox source =>
    rw [Tables.keys, h.messages rfl]
    rw [h.findMessage] at hk
    cases hf : w.tables.findMessage inbox source with
    | none => rw [hf] at hk; cases hk
    | some m =>
      rw [hf] at hk
      cases hk
      exact Tables.mem_keys_iff.2 (by rw [hf]; rfl)
  | _ => cases hk

theorem missed (h : w.Answers o r b w') (hk : Exchange.missed ⟨r, b⟩ = some k) : k ∉ w.tables.keys := by
  cases r with
  | findMessage inbox source =>
    rw [h.findMessage] at hk
    cases hf : w.tables.findMessage inbox source with
    | some m => rw [hf] at hk; cases hk
    | none =>
      rw [hf] at hk
      cases hk
      rw [Tables.mem_keys_iff, hf]
      simp
  | _ => cases hk

end Answers

theorem Passes.shown (h : Passes o w t w') {x : Exchange} (hx : x ∈ t) (hk : x.shown = some k) :
    k ∈ w'.tables.keys := by
  induction h with
  | nil => cases hx
  | exchange ha hp ih =>
    rcases List.mem_cons.1 hx with rfl | hx
    · exact hp.mem_keys_iff.2 (.inl (ha.shown hk))
    · exact ih hx
  | lapse _ _ ih => exact ih hx

end World

end Intake
