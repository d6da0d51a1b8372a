import Intake.Guard.Memory
import Intake.Proofs.Program.Exchange
import Intake.Rehearsal.Fault
import Intake.Store.Memory

/-!
# Worlds

What deliveries share: a store, a guard and a source of ids, with the reading of the guard's clock. `Replies` says how a
world may reply to one request. Clock readings and what a download brings are open, some requests may be refused, and a
claim whose deadline cannot be expressed gets no reply at all.

A delivery goes through the world one exchange after the other (`Goes`). What else may happen is a matter of `Rules`:
what becomes of the guard as time passes, what changes the store during a download, and which deliveries run meanwhile.
Whatever deliveries are said to do elsewhere, they do under some rules; `Passes` are those of an outage that may refuse
some requests, where claims may expire at any time.
-/

namespace Intake

structure World where
  store : MemoryStore
  guard : MemoryGuard
  ids : Snowflake.Generator := { worker := 0 }
  /-- The guard's clock, which never goes back. -/
  instant : Instant := 0

/-- Under which conditions requests get their replies. -/
structure Conditions where
  /-- What a download over the channel may bring. -/
  serves : Channel → MediaDescriptor → Option FetchedMedia → Prop := fun _ _ _ => True
  /-- Which requests may fail without an effect, and how. -/
  refuses : Request → DomainError → Prop := fun _ _ => True

/-- What may happen while a delivery runs. -/
structure Rules extends Conditions where
  /-- What the clock may show. -/
  clocks : Time → Prop := fun _ => True
  /-- What the guard may be, and its clock, when time has passed. -/
  lapses : World → MemoryGuard → Instant → Prop
  /-- What the store may be, and the source of ids, when others have changed it during a download. -/
  intrudes : World → MemoryStore → Snowflake.Generator → Prop := fun _ _ _ => False
  /-- What other deliveries may exchange that run during a download. -/
  hosts : List Exchange → Prop := fun _ => False

/-- A delivery is alone. -/
def Rules.alone (clocks : Time → Prop) (o : Conditions) (lapses : World → MemoryGuard → Instant → Prop) : Rules :=
  { toConditions := o, clocks, lapses }

/-- Which requests may fail without an effect. -/
structure Outage where
  /-- Writes of messages may fail, as failures of the database. -/
  writes : Bool := false
  /-- Releases may fail, and leave the claim behind. -/
  releases : Bool := false

namespace Outage

/-- Whether the outage may refuse a request with that error. -/
def strikes (o : Outage) : Request → DomainError → Bool
  | .createMessage _, .database _ => o.writes
  | .release .., _ => o.releases
  | _, _ => false

def conditions (o : Outage) : Conditions where
  refuses r e := o.strikes r e = true

end Outage

namespace World

def tables (w : World) : Tables := w.store.tables

def onStore {α : Type} (w : World) (f : MemoryStore → α × MemoryStore) : Option (α × World) :=
  some ((f w.store).1, { w with store := (f w.store).2 })

/-- Carries a request out, given what the clock shows and what a download brings. -/
def answer? (clock : Time) (file : Option FetchedMedia) : (r : Request) → World → Option (r.Reply × World)
  | .findChannelByPhone phoneNumber, w => w.onStore (·.findChannelByPhone phoneNumber)
  | .findGupshupChannel appName, w => w.onStore (·.findGupshupChannel appName)
  | .accountStatus account, w => some (.ok (w.tables.accountStatus account), w)
  | .findInbox channel, w => some (.ok (w.tables.findInbox channel), w)
  | .tryClaim channel source, w =>
    (w.guard.tryClaim? w.instant channel source).map fun (claimed, guard) => (.ok claimed, { w with guard })
  | .release channel source, w => some (.ok (), { w with guard := w.guard.release channel source })
  | .findMessage inbox source, w => some (.ok (w.tables.findMessage inbox source), w)
  | .createMessage m, w => w.onStore (·.createMessage m)
  | .updateStatus message status externalError, w => w.onStore (·.updateStatus message status externalError)
  | .upsertContact contact, w => w.onStore (·.upsertContact clock contact)
  | .findConversation contactInbox filter, w => some (.ok (w.tables.findConversation contactInbox filter), w)
  | .createConversation c, w => w.onStore fun s => (.ok (), { s with tables := s.tables.addConversation c })
  | .createAttachment a, w => w.onStore fun s => (.ok (), { s with tables := s.tables.addAttachment a })
  | .fetch .., w => some (file, w)
  | .newId, w => some ((w.ids.generate clock).1, { w with ids := (w.ids.generate clock).2 })
  | .now, w => some (clock, w)
  | .pause _, w => some ((), w)

/-- `w` may reply to `r` with `b` and be `w'` then. -/
def Replies (clocks : Time → Prop) (o : Conditions) (w : World) (r : Request) (b : r.Reply) (w' : World) : Prop :=
  (∃ clock file, clocks clock ∧ (∀ channel media, r = .fetch channel media → o.serves channel media file) ∧
    w.answer? clock file r = some (b, w')) ∨
  ∃ e, o.refuses r e ∧ r.refusal? e = some b ∧ w' = w

/-- Replies while an outage lasts. -/
def Answers (o : Outage) : World → (r : Request) → r.Reply → World → Prop := Replies (fun _ => True) o.conditions

/-- `w` carries out the exchanges `t` of one delivery and is `w'` then, where `u` is all that was exchanged. -/
inductive Goes (R : Rules) : World → List Exchange → List Exchange → World → Prop
  | nil {w : World} : Goes R w [] [] w
  | exchange {w w₁ w' : World} {r : Request} {b : r.Reply} {t u : List Exchange} :
    w.Replies R.clocks R.toConditions r b w₁ → Goes R w₁ t u w' → Goes R w (⟨r, b⟩ :: t) (⟨r, b⟩ :: u) w'
  | lapse {w w' : World} {guard : MemoryGuard} {now : Instant} {t u : List Exchange} :
    R.lapses w guard now → Goes R { w with guard, instant := now } t u w' → Goes R w t u w'
  | intrusion {w w' : World} {store : MemoryStore} {ids : Snowflake.Generator} {x : Exchange} {t u : List Exchange} :
    x.request.isFetch = true → R.intrudes w store ids → Goes R { w with store, ids } (x :: t) u w' →
      Goes R w (x :: t) u w'
  | guest {w w₁ w' : World} {t₁ u₁ : List Exchange} {x : Exchange} {t u : List Exchange} :
    x.request.isFetch = true → R.hosts t₁ → Goes R w t₁ u₁ w₁ → Goes R w₁ (x :: t) u w' →
      Goes R w (x :: t) (u₁ ++ u) w'

/-- The exchanges of one delivery, whatever others exchange meanwhile. -/
def Takes (R : Rules) (w : World) (t : List Exchange) (w' : World) : Prop := ∃ u, Goes R w t u w'

section

variable {R R' : Rules} {w w₁ w' : World} {t t₁ t₂ u u₁ u₂ : List Exchange} {r : Request} {b : r.Reply} {x : Exchange}

theorem Replies.of_answer? {clocks : Time → Prop} {o : Conditions} {clock : Time} {file : Option FetchedMedia}
    (h : w.answer? clock file r = some (b, w')) (hclock : clocks clock)
    (hfile : ∀ channel media, r = .fetch channel media → o.serves channel media file) :
    w.Replies clocks o r b w' :=
  .inl ⟨clock, file, hclock, hfile, h⟩

theorem Answers.of_answer? {o : Outage} {clock : Time} {file : Option FetchedMedia}
    (h : w.answer? clock file r = some (b, w')) : w.Answers o r b w' :=
  Replies.of_answer? h trivial fun _ _ _ => trivial

theorem Replies.mono {clocks clocks' : Time → Prop} {o o' : Conditions} (h : w.Replies clocks o r b w')
    (hclocks : ∀ clock, clocks clock → clocks' clock)
    (hserves : ∀ channel media file, o.serves channel media file → o'.serves channel media file)
    (hrefuses : ∀ r e, o.refuses r e → o'.refuses r e) : w.Replies clocks' o' r b w' := by
  rcases h with ⟨clock, file, hclock, hfile, ha⟩ | ⟨e, he, hb, hw⟩
  · exact .inl ⟨clock, file, hclocks clock hclock, fun channel media hr => hserves _ _ _ (hfile channel media hr), ha⟩
  · exact .inr ⟨e, hrefuses r e he, hb, hw⟩

theorem Goes.append (h : Goes R w t₁ u₁ w₁) (h' : Goes R w₁ t₂ u₂ w') : Goes R w (t₁ ++ t₂) (u₁ ++ u₂) w' := by
  induction h with
  | nil => exact h'
  | exchange hr _ ih => exact .exchange hr (ih h')
  | lapse hl _ ih => exact .lapse hl (ih h')
  | intrusion hx hi _ ih => exact .intrusion hx hi (ih h')
  | guest hx hg hguest _ _ ih =>
    rw [List.append_assoc]
    exact .guest hx hg hguest (ih h')

/-- What happens before an exchange is part of what comes after the split. -/
theorem Goes.split (h : Goes R w (t₁ ++ t₂) u w') :
    ∃ w₁ u₁ u₂, u = u₁ ++ u₂ ∧ Goes R w t₁ u₁ w₁ ∧ Goes R w₁ t₂ u₂ w' := by
  generalize ht : t₁ ++ t₂ = t at h
  induction h generalizing t₁ with
  | nil =>
    obtain ⟨rfl, rfl⟩ := List.append_eq_nil_iff.1 ht
    exact ⟨_, [], [], rfl, .nil, .nil⟩
  | exchange hr hrest ih =>
    cases t₁ with
    | nil =>
      rw [List.nil_append] at ht
      exact ⟨_, [], _, rfl, .nil, ht ▸ .exchange hr hrest⟩
    | cons y t₁ =>
      obtain ⟨rfl, rfl⟩ := List.cons.inj ht
      obtain ⟨w₂, u₁, u₂, rfl, h₁, h₂⟩ := ih rfl
      exact ⟨w₂, _ :: u₁, u₂, rfl, .exchange hr h₁, h₂⟩
  | lapse hl _ ih =>
    obtain ⟨w₂, u₁, u₂, rfl, h₁, h₂⟩ := ih ht
    exact ⟨w₂, u₁, u₂, rfl, .lapse hl h₁, h₂⟩
  | intrusion hx hi hrest ih =>
    cases t₁ with
    | nil =>
      rw [List.nil_append] at ht
      exact ⟨_, [], _, rfl, .nil, ht ▸ .intrusion hx hi hrest⟩
    | cons y t₁ =>
      obtain ⟨w₂, u₁, u₂, rfl, h₁, h₂⟩ := ih ht
      obtain ⟨rfl, -⟩ := List.cons.inj ht
      exact ⟨w₂, u₁, u₂, rfl, .intrusion hx hi h₁, h₂⟩
  | guest hx hg hguest hrest _ ih =>
    cases t₁ with
    | nil =>
      rw [List.nil_append] at ht
      exact ⟨_, [], _, rfl, .nil, ht ▸ .guest hx hg hguest hrest⟩
    | cons y t₁ =>
      obtain ⟨w₂, u₁, u₂, rfl, h₁, h₂⟩ := ih ht
      obtain ⟨rfl, -⟩ := List.cons.inj ht
      exact ⟨w₂, _, u₂, (List.append_assoc ..).symm, .guest hx hg hguest h₁, h₂⟩

namespace Takes

theorem nil : Takes R w [] w := ⟨[], .nil⟩

theorem exchange (hr : w.Replies R.clocks R.toConditions r b w₁) : Takes R w₁ t w' → Takes R w (⟨r, b⟩ :: t) w'
  | ⟨_, h⟩ => ⟨_, .exchange hr h⟩

theorem lapse {guard : MemoryGuard} {now : Instant} (hl : R.lapses w guard now) :
    Takes R { w with guard, instant := now } t w' → Takes R w t w'
  | ⟨_, h⟩ => ⟨_, .lapse hl h⟩

theorem append : Takes R w t₁ w₁ → Takes R w₁ t₂ w' → Takes R w (t₁ ++ t₂) w'
  | ⟨_, h⟩, ⟨_, h'⟩ => ⟨_, h.append h'⟩

theorem split (h : Takes R w (t₁ ++ t₂) w') : ∃ w₁, Takes R w t₁ w₁ ∧ Takes R w₁ t₂ w' := by
  obtain ⟨u, h⟩ := h
  obtain ⟨w₁, u₁, u₂, -, h₁, h₂⟩ := h.split
  exact ⟨w₁, ⟨u₁, h₁⟩, u₂, h₂⟩

end Takes

theorem Goes.mono (h : Goes R w t u w')
    (hreplies : ∀ w r b w', Replies R.clocks R.toConditions w r b w' → Replies R'.clocks R'.toConditions w r b w')
    (hlapses : ∀ w guard now, R.lapses w guard now → R'.lapses w guard now)
    (hintrudes : ∀ w store ids, R.intrudes w store ids → R'.intrudes w store ids)
    (hhosts : ∀ t, R.hosts t → R'.hosts t) : Goes R' w t u w' := by
  induction h with
  | nil => exact .nil
  | exchange hr _ ih => exact .exchange (hreplies _ _ _ _ hr) ih
  | lapse hl _ ih => exact .lapse (hlapses _ _ _ hl) ih
  | intrusion hx hi _ ih => exact .intrusion hx (hintrudes _ _ _ hi) ih
  | guest hx hg _ _ ihguest ih => exact .guest hx (hhosts _ hg) ihguest ih

end

/-! ## Deliveries that are alone -/

section

variable {clocks : Time → Prop} {o : Conditions} {lapses : World → MemoryGuard → Instant → Prop}

@[elab_as_elim, induction_eliminator]
theorem Takes.induction
    {motive : (w : World) → (t : List Exchange) → (w' : World) → Takes (.alone clocks o lapses) w t w' → Prop}
    (nil : ∀ {w : World}, motive w [] w .nil)
    (exchange : ∀ {w w₁ w' : World} {r : Request} {b : r.Reply} {t : List Exchange} (hr : w.Replies clocks o r b w₁)
      (h : Takes (.alone clocks o lapses) w₁ t w'), motive w₁ t w' h → motive w (⟨r, b⟩ :: t) w' (h.exchange hr))
    (lapse : ∀ {w w' : World} {guard : MemoryGuard} {now : Instant} {t : List Exchange} (hl : lapses w guard now)
      (h : Takes (.alone clocks o lapses) { w with guard, instant := now } t w'),
      motive { w with guard, instant := now } t w' h → motive w t w' (h.lapse hl))
    {w : World} {t : List Exchange} {w' : World} (h : Takes (.alone clocks o lapses) w t w') : motive w t w' h := by
  obtain ⟨u, h⟩ := h
  induction h with
  | nil => exact nil
  | exchange hr h ih => exact exchange hr ⟨_, h⟩ ih
  | lapse hl h ih => exact lapse hl ⟨_, h⟩ ih
  | intrusion _ hi => cases hi
  | guest _ hg => cases hg

/-- Before an exchange only time passes. -/
theorem Takes.uncons {w w' : World} {r : Request} {b : r.Reply} {t : List Exchange}
    (h : Takes (.alone clocks o lapses) w (⟨r, b⟩ :: t) w') :
    ∃ w₀ w₁, Takes (.alone clocks o lapses) w [] w₀ ∧ w₀.Replies clocks o r b w₁ ∧
      Takes (.alone clocks o lapses) w₁ t w' := by
  generalize ht : (⟨r, b⟩ : Exchange) :: t = s at h
  induction h with
  | nil => cases ht
  | exchange hr hrest =>
    cases ht
    exact ⟨_, _, .nil, hr, hrest⟩
  | lapse hl _ ih =>
    obtain ⟨w₀, w₁, h₀, hr, hrest⟩ := ih ht
    exact ⟨w₀, w₁, h₀.lapse hl, hr, hrest⟩

end

/-- Time passes, and of the claims those that are not kept expire. -/
def lapse (w : World) (now : Instant) (keep : String × Instant → Bool) : World :=
  { w with instant := now, guard := { w.guard with claims := w.guard.claims.filter keep } }

end World

/-- Claims may expire at any time. -/
def Outage.rules (o : Outage) : Rules :=
  .alone (fun _ => True) o.conditions fun w guard now =>
    w.instant ≤ now ∧ ∃ keep, guard = { w.guard with claims := w.guard.claims.filter keep }

namespace World

/-- `w` carries out the exchanges of one delivery that is alone, and is `w'` then, while an outage lasts. -/
def Passes (o : Outage) : World → List Exchange → World → Prop := Takes o.rules

namespace Passes

variable {o : Outage}

theorem lapse {w w' : World} {t : List Exchange} {now : Instant} {keep : String × Instant → Bool}
    (hle : w.instant ≤ now) (h : Passes o (w.lapse now keep) t w') : Passes o w t w' :=
  Takes.lapse (R := o.rules) ⟨hle, keep, rfl⟩ h

@[elab_as_elim, induction_eliminator]
theorem induction {motive : (w : World) → (t : List Exchange) → (w' : World) → Passes o w t w' → Prop}
    (nil : ∀ {w : World}, motive w [] w .nil)
    (exchange : ∀ {w w₁ w' : World} {r : Request} {b : r.Reply} {t : List Exchange} (ha : w.Answers o r b w₁)
      (h : Passes o w₁ t w'), motive w₁ t w' h → motive w (⟨r, b⟩ :: t) w' (Takes.exchange ha h))
    (lapse : ∀ {w w' : World} {now : Instant} {keep : String × Instant → Bool} {t : List Exchange}
      (hle : w.instant ≤ now) (h : Passes o (w.lapse now keep) t w'), motive (w.lapse now keep) t w' h →
      motive w t w' (Passes.lapse hle h))
    {w : World} {t : List Exchange} {w' : World} (h : Passes o w t w') : motive w t w' h :=
  Takes.induction nil exchange
    (fun ⟨hle, _, hguard⟩ h ih => by
      subst hguard
      exact lapse hle h ih)
    h

variable {w w' : World} {t t₁ t₂ : List Exchange}

theorem split (h : Passes o w (t₁ ++ t₂) w') : ∃ w₁, Passes o w t₁ w₁ ∧ Passes o w₁ t₂ w' := Takes.split h

theorem uncons {r : Request} {b : r.Reply} (h : Passes o w (⟨r, b⟩ :: t) w') :
    ∃ w₀ w₁, Passes o w [] w₀ ∧ w₀.Answers o r b w₁ ∧ Passes o w₁ t w' := Takes.uncons h

end Passes

end World

end Intake
