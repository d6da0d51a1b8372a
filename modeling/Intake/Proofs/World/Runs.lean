import Intake.Proofs.Snowflake.Issued
import Intake.Proofs.World.Claims
import Intake.Proofs.World.Holdings
import Intake.Proofs.World.Lookups
import Intake.Proofs.World.Replay

/-!
# Runs under conditions

`Runs` is one delivery carried out by itself: its exchanges one after the other, with time passing in between. The
guard's table changes only by what the guard is asked, so claims end when they run out or are given back, and not
otherwise. `Conditions` say what downloads may bring and which requests may be refused. The clock is before the horizon
of ids, and `InRange` says that the generators' stamps fit an id.
-/

namespace Intake

/-- The clock is before the horizon of ids, and no claim expires before its time. -/
def Conditions.rules (o : Conditions) : Rules :=
  .alone (· < Snowflake.horizon) o fun w guard now => w.instant ≤ now ∧ guard = w.guard

theorem Conditions.clocks_zero (o : Conditions) : o.rules.clocks 0 := show 0 < Snowflake.horizon by decide

/-- Downloads bring what `fetch` says, and nothing is refused. -/
def Conditions.calm (fetch : Channel → MediaDescriptor → Option FetchedMedia) : Conditions where
  serves channel media file := file = fetch channel media
  refuses _ _ := False

theorem Conditions.calm_sparesGuard (fetch : Channel → MediaDescriptor → Option FetchedMedia) :
    (calm fetch).SparesGuard :=
  fun _ _ h => h.elim

namespace MemoryStore

variable (s : MemoryStore) (clock : Time)

theorem commit_ids (tables : Except DomainError Tables) : (s.commit tables).2.ids = s.ids := by
  cases tables <;> rfl

theorem createMessage_ids (m : Message) : (s.createMessage m).2.ids = s.ids := by
  rw [createMessage]
  split
  · exact s.commit_ids _
  · rfl

theorem lookUp_ids {α : Type} (find : Tables → α) : (s.lookUp find).2.ids = s.ids := by
  rw [lookUp]
  split <;> rfl

/-- What becomes of a sender: its link is there, or it is linked to the contact with its phone number, or to a new one.
-/
theorem upsertContact_cases (new : NewContact) :
    (∃ link, s.tables.findContactInbox new.inbox new.sourceId = some link ∧
      (s.upsertContact clock new).2 = s ∧
      ((∃ contact, s.tables.findContact link.contact = some contact ∧
          (s.upsertContact clock new).1 = .ok ⟨contact, link⟩) ∨
        s.tables.findContact link.contact = none)) ∨
    s.tables.findContactInbox new.inbox new.sourceId = none ∧
      ((∃ contact, s.tables.findContactByPhone new.account new.phoneNumber = some contact ∧
          s.upsertContact clock new =
            let link : ContactInbox :=
              { id := (s.ids.generate clock).1, contact := contact.id, inbox := new.inbox, sourceId := new.sourceId }
            (.ok ⟨contact, link⟩,
              { s with ids := (s.ids.generate clock).2, tables := s.tables.addContactInbox link })) ∨
        s.tables.findContactByPhone new.account new.phoneNumber = none ∧
          s.upsertContact clock new =
            let contact : Contact :=
              { id := (s.ids.generate clock).1, account := new.account, name := new.name,
                phoneNumber := some new.phoneNumber }
            let ids := (s.ids.generate clock).2
            let link : ContactInbox :=
              { id := (ids.generate clock).1, contact := contact.id, inbox := new.inbox, sourceId := new.sourceId }
            (.ok ⟨contact, link⟩,
              { s with
                ids := (ids.generate clock).2
                tables := (s.tables.addContact contact).addContactInbox link })) := by
  rw [upsertContact]
  cases hl : s.tables.findContactInbox new.inbox new.sourceId with
  | some link =>
    refine .inl ⟨link, rfl, ?_⟩
    dsimp only
    cases hc : s.tables.findContact link.contact with
    | some contact => exact ⟨rfl, .inl ⟨contact, rfl, rfl⟩⟩
    | none => exact ⟨rfl, .inr rfl⟩
  | none =>
    refine .inr ⟨rfl, ?_⟩
    rw [contactFor]
    cases hc : s.tables.findContactByPhone new.account new.phoneNumber with
    | some contact => exact .inl ⟨contact, rfl, rfl⟩
    | none => exact .inr ⟨rfl, rfl⟩

end MemoryStore

namespace World

/-- Replies under the conditions. -/
def Deals (o : Conditions) : World → (r : Request) → r.Reply → World → Prop := Replies (· < Snowflake.horizon) o

/-- The same world when the guard's clock shows another time. -/
def later (w : World) (now : Instant) : World := { w with instant := now }

theorem Claimed.of_later {w : World} {now : Instant} {c : Snowflake × String} (hle : w.instant ≤ now)
    (h : (w.later now).Claimed c) : w.Claimed c :=
  MemoryGuard.holds_of_subset (fun _ hmem => hmem) hle h

/-- `w` carries out the exchanges of one delivery that is alone, and is `w'` then, under the conditions. -/
def Runs (o : Conditions) : World → List Exchange → World → Prop := Takes o.rules

/-- The stamps of both generators fit an id. -/
def InRange (w : World) : Prop := w.ids.stamp < 2 ^ 54 ∧ w.store.ids.stamp < 2 ^ 54

/-- Neither generator is ahead of the horizon by more than `n` ids. -/
def Ahead (w : World) (n : Nat) : Prop := w.ids.stamp ≤ 2 ^ 53 + n ∧ w.store.ids.stamp ≤ 2 ^ 53 + n

variable {o : Conditions} {w w' w'' : World} {r : Request} {b : r.Reply} {t t₁ t₂ : List Exchange}

theorem Ahead.mono {n m : Nat} (h : w.Ahead n) (hle : n ≤ m) : w.Ahead m := by
  obtain ⟨h₁, h₂⟩ := h
  constructor <;> omega

theorem Ahead.inRange {n : Nat} (h : w.Ahead n) (hn : n < 2 ^ 53) : w.InRange := by
  obtain ⟨h₁, h₂⟩ := h
  constructor <;> omega

namespace Deals

/-- Ids are made by the two requests that need them, and by no other. -/
theorem ids (h : w.Deals o r b w') :
    (w'.ids = w.ids ∨ ∃ clock, clock < Snowflake.horizon ∧ w'.ids = (w.ids.generate clock).2) ∧
      (w'.store.ids = w.store.ids ∨
        ∃ clock, clock < Snowflake.horizon ∧ (w'.store.ids = (w.store.ids.generate clock).2 ∨
          w'.store.ids = ((w.store.ids.generate clock).2.generate clock).2)) := by
  rcases h with ⟨clock, file, hc, -, h⟩ | ⟨e, -, -, rfl⟩
  · cases r with
    | tryClaim c s =>
      obtain ⟨a, -, h⟩ := Option.map_eq_some_iff.1 h
      obtain ⟨rfl, rfl⟩ := Prod.mk.inj h
      exact ⟨.inl rfl, .inl rfl⟩
    | createMessage m =>
      obtain ⟨rfl, rfl⟩ := Prod.mk.inj (Option.some.inj h)
      exact ⟨.inl rfl, .inl (w.store.createMessage_ids m)⟩
    | updateStatus m s e =>
      obtain ⟨rfl, rfl⟩ := Prod.mk.inj (Option.some.inj h)
      exact ⟨.inl rfl, .inl (w.store.commit_ids _)⟩
    | findChannelByPhone | findGupshupChannel =>
      obtain ⟨rfl, rfl⟩ := Prod.mk.inj (Option.some.inj h)
      exact ⟨.inl rfl, .inl (w.store.lookUp_ids _)⟩
    | upsertContact new =>
      obtain ⟨rfl, rfl⟩ := Prod.mk.inj (Option.some.inj h)
      refine ⟨.inl rfl, ?_⟩
      rcases w.store.upsertContact_cases clock new with ⟨_, -, heq, -⟩ | ⟨-, ⟨_, -, heq⟩ | ⟨-, heq⟩⟩
      · exact .inl (congrArg MemoryStore.ids heq)
      · exact .inr ⟨clock, hc, .inl (congrArg (fun p => p.2.ids) heq)⟩
      · exact .inr ⟨clock, hc, .inr (congrArg (fun p => p.2.ids) heq)⟩
    | newId =>
      obtain ⟨rfl, rfl⟩ := Prod.mk.inj (Option.some.inj h)
      exact ⟨.inr ⟨clock, hc, rfl⟩, .inl rfl⟩
    | _ =>
      obtain ⟨rfl, rfl⟩ := Prod.mk.inj (Option.some.inj h)
      exact ⟨.inl rfl, .inl rfl⟩
  · exact ⟨.inl rfl, .inl rfl⟩

theorem ahead {n : Nat} (h : w.Deals o r b w') (hn : w.Ahead n) : w'.Ahead (n + 2) := by
  obtain ⟨hids, hstore⟩ := h.ids
  obtain ⟨h₁, h₂⟩ := hn
  constructor
  · rcases hids with heq | ⟨clock, hc, heq⟩
    · rw [heq]
      omega
    · rw [heq]
      exact Snowflake.Generator.stamp_generate_le hc (by omega) (by omega)
  · rcases hstore with heq | ⟨clock, hc, heq | heq⟩
    · rw [heq]
      omega
    · rw [heq]
      exact Snowflake.Generator.stamp_generate_le hc (by omega) (by omega)
    · have hfirst : (w.store.ids.generate clock).2.stamp ≤ 2 ^ 53 + ((n + 1 : Nat) : Int) :=
        Snowflake.Generator.stamp_generate_le hc (by omega) (by omega)
      rw [heq]
      exact Snowflake.Generator.stamp_generate_le hc (by omega) (by omega)

theorem stamp_le (h : w.Deals o r b w') : w.ids.stamp ≤ w'.ids.stamp ∧ w.store.ids.stamp ≤ w'.store.ids.stamp := by
  obtain ⟨hids, hstore⟩ := h.ids
  constructor
  · rcases hids with heq | ⟨clock, -, heq⟩
    · exact Int.le_of_eq (by rw [heq])
    · rw [heq]
      exact Int.le_of_lt Snowflake.Generator.stamp_lt_generate
  · rcases hstore with heq | ⟨clock, -, heq | heq⟩
    · exact Int.le_of_eq (by rw [heq])
    · rw [heq]
      exact Int.le_of_lt Snowflake.Generator.stamp_lt_generate
    · rw [heq]
      exact Int.le_of_lt (Int.lt_trans Snowflake.Generator.stamp_lt_generate Snowflake.Generator.stamp_lt_generate)

theorem of_calm {fetch : Channel → MediaDescriptor → Option FetchedMedia} (h : w.Deals (.calm fetch) r b w') :
    ∃ clock file, (∀ channel media, r = .fetch channel media → file = fetch channel media) ∧
      w.answer? clock file r = some (b, w') := by
  rcases h with ⟨clock, file, -, hfile, ha⟩ | ⟨e, he, -⟩
  · exact ⟨clock, file, hfile, ha⟩
  · cases he

theorem answers_of_calm {fetch : Channel → MediaDescriptor → Option FetchedMedia} (h : w.Deals (.calm fetch) r b w') :
    w.Answers {} r b w' := by
  obtain ⟨clock, file, -, ha⟩ := h.of_calm
  exact .of_answer? ha

theorem findMessage_ok {inbox : Snowflake} {source : String} {found : Option Message}
    (h : w.Deals o (.findMessage inbox source) (.ok found) w') :
    w.tables.findMessage inbox source = found ∧ w' = w := by
  rcases h with ⟨clock, file, -, -, ha⟩ | ⟨e, -, hb, -⟩
  · cases ha
    exact ⟨rfl, rfl⟩
  · cases hb

theorem updateStatus_ok {id : Snowflake} {status : MessageStatus} {error : Option String}
    (h : w.Deals o (.updateStatus id status error) (.ok ()) w') :
    w.tables.updateStatus id status error = .ok w'.tables := by
  rcases h with ⟨clock, file, -, -, ha⟩ | ⟨e, -, hb, -⟩
  · obtain ⟨hreply, rfl⟩ := Prod.mk.inj (Option.some.inj ha)
    change (w.store.commit (w.tables.updateStatus id status error)).1 = .ok () at hreply
    change _ = Except.ok (w.store.commit (w.tables.updateStatus id status error)).2.tables
    cases hu : w.tables.updateStatus id status error with
    | ok tables => rfl
    | error => rw [hu] at hreply; cases hreply
  · cases hb

theorem issued (h : w.Deals o r b w') :
    (∀ id, w.ids.Issued id → w'.ids.Issued id) ∧ ∀ id, w.store.ids.Issued id → w'.store.ids.Issued id := by
  obtain ⟨hids, hstore⟩ := h.ids
  constructor
  · rcases hids with heq | ⟨clock, -, heq⟩
    · exact fun id hid => heq ▸ hid
    · exact fun id hid => heq ▸ hid.generate
  · rcases hstore with heq | ⟨clock, -, heq | heq⟩
    · exact fun id hid => heq ▸ hid
    · exact fun id hid => heq ▸ hid.generate
    · exact fun id hid => heq ▸ hid.generate.generate

theorem inRange (h : w.Deals o r b w') (hr : w'.InRange) : w.InRange :=
  ⟨Int.lt_of_le_of_lt h.stamp_le.1 hr.1, Int.lt_of_le_of_lt h.stamp_le.2 hr.2⟩

end Deals

namespace Runs

theorem waits {now : Instant} (hle : w.instant ≤ now) (h : Runs o (w.later now) t w') : Runs o w t w' :=
  Takes.lapse (R := o.rules) ⟨hle, rfl⟩ h

@[elab_as_elim, induction_eliminator]
theorem induction {motive : (w : World) → (t : List Exchange) → (w' : World) → Runs o w t w' → Prop}
    (nil : ∀ {w : World}, motive w [] w .nil)
    (exchange : ∀ {w w₁ w' : World} {r : Request} {b : r.Reply} {t : List Exchange} (hd : w.Deals o r b w₁)
      (h : Runs o w₁ t w'), motive w₁ t w' h → motive w (⟨r, b⟩ :: t) w' (Takes.exchange hd h))
    (waits : ∀ {w w' : World} {now : Instant} {t : List Exchange} (hle : w.instant ≤ now)
      (h : Runs o (w.later now) t w'), motive (w.later now) t w' h → motive w t w' (Runs.waits hle h))
    {w : World} {t : List Exchange} {w' : World} (h : Runs o w t w') : motive w t w' h :=
  Takes.induction nil exchange
    (fun ⟨hle, hguard⟩ h ih => by
      subst hguard
      exact waits hle h ih)
    h

theorem split (h : Runs o w (t₁ ++ t₂) w') : ∃ w₁, Runs o w t₁ w₁ ∧ Runs o w₁ t₂ w' := Takes.split h

theorem append (h : Runs o w t₁ w') (h' : Runs o w' t₂ w'') : Runs o w (t₁ ++ t₂) w'' := Takes.append h h'

/-- Some time passes, and then the run is over or goes on with its first exchange. -/
theorem uncons (h : Runs o w t w') :
    ∃ now, w.instant ≤ now ∧
      (t = [] ∧ w' = w.later now ∨
        ∃ x t₁ w₁, t = x :: t₁ ∧ (w.later now).Deals o x.request x.reply w₁ ∧ Runs o w₁ t₁ w') := by
  induction h with
  | @nil w => exact ⟨w.instant, Nat.le_refl _, .inl ⟨rfl, rfl⟩⟩
  | @exchange w _ _ _ _ _ hd hrest _ => exact ⟨w.instant, Nat.le_refl _, .inr ⟨_, _, _, rfl, hd, hrest⟩⟩
  | waits hle _ ih =>
    obtain ⟨now, hle', hcases⟩ := ih
    exact ⟨now, Nat.le_trans hle hle', hcases⟩

/-- The first exchange is dealt with by a world that differs at most by its clock. -/
theorem cons {x : Exchange} (h : w.Runs o (x :: t) w') :
    ∃ now w₁, (w.later now).Deals o x.request x.reply w₁ ∧ w₁.Runs o t w' := by
  obtain ⟨now, -, ⟨heq, -⟩ | ⟨_, _, w₁, heq, hd, hr⟩⟩ := h.uncons
  · cases heq
  · cases heq
    exact ⟨now, w₁, hd, hr⟩

theorem nil_eq (h : w.Runs o [] w') : ∃ now, w' = w.later now := by
  obtain ⟨now, -, ⟨-, hw⟩ | ⟨_, _, _, heq, -⟩⟩ := h.uncons
  · exact ⟨now, hw⟩
  · cases heq

theorem mono {o' : Conditions} (h : Runs o w t w')
    (hserves : ∀ channel media file, o.serves channel media file → o'.serves channel media file)
    (hrefuses : ∀ r e, o.refuses r e → o'.refuses r e) : Runs o' w t w' := by
  obtain ⟨u, h⟩ := h
  exact ⟨u, h.mono (fun _ _ _ _ hr => hr.mono (fun _ h => h) hserves hrefuses) (fun _ _ _ h => h)
    (fun _ _ _ h => h) fun _ h => h⟩

theorem unconditioned (h : Runs o w t w') : Runs {} w t w' := h.mono (fun _ _ _ _ => trivial) fun _ _ _ => trivial

theorem ahead {n : Nat} (h : Runs o w t w') (hn : w.Ahead n) : w'.Ahead (n + 2 * t.length) := by
  induction h generalizing n with
  | nil => exact hn
  | exchange hd _ ih => exact (ih (hd.ahead hn)).mono (by rw [List.length_cons]; omega)
  | waits _ _ ih => exact ih hn

theorem issued (h : Runs o w t w') :
    (∀ id, w.ids.Issued id → w'.ids.Issued id) ∧ ∀ id, w.store.ids.Issued id → w'.store.ids.Issued id := by
  induction h with
  | nil => exact ⟨fun _ h => h, fun _ h => h⟩
  | exchange hd _ ih => exact ⟨fun id hid => ih.1 id (hd.issued.1 id hid), fun id hid => ih.2 id (hd.issued.2 id hid)⟩
  | waits _ _ ih => exact ih

theorem inRange (h : Runs o w t w') (hr : w'.InRange) : w.InRange := by
  induction h with
  | nil => exact hr
  | exchange hd _ ih => exact hd.inRange (ih hr)
  | waits _ _ ih => exact ih hr

end Runs

theorem exists_runs {α : Type} (fetch : Channel → MediaDescriptor → Option FetchedMedia) (p : Program α)
    (h : (w.instant.deadline? w.guard.ttl).isSome = true) :
    ∃ t a w', p.Yields t a ∧ Runs (.calm fetch) w t w' :=
  exists_takes (R := (Conditions.calm fetch).rules) 0 p (Conditions.clocks_zero _)
    (fun channel media => ⟨fetch channel media, rfl⟩) h

end World

/-! ## Replays -/

/-- Downloads bring what `fetch` says, and no fault may strike. -/
def Replay.calm (fetch : Channel → MediaDescriptor → Option FetchedMedia) : Replay := { fetch }

theorem Replay.calm_within (fetch : Channel → MediaDescriptor → Option FetchedMedia) :
    (calm fetch).Within (Conditions.calm fetch).rules where
  clocks := Conditions.clocks_zero _
  refuses _ _ := nofun
  serves _ _ := rfl
  visits _ _ _ := Replay.unvisited

theorem World.runs_of_calm {fetch : Channel → MediaDescriptor → Option FetchedMedia} {α : Type} {p : Program α} {a : α}
    {w w' : World} {t : List Exchange} (h : (Replay.calm fetch).run? [] p w = some (t, a, w')) :
    p.Yields t a ∧ w.Runs (.calm fetch) t w' :=
  (Replay.calm_within fetch).run h

end Intake
