import Intake.Delivery.Program

/-!
# Exchanges

A program that runs to its end leaves a list of exchanges behind, its requests with the replies that they got. `Yields`
says which lists a program can leave, whatever the replies; it speaks of the program alone, so it holds of a delivery
however others come in between. `Reaches` is for programs on their way, which can always go on to an end.
-/

namespace Intake

/-- A request with the reply that it got. -/
structure Exchange where
  request : Request
  reply : request.Reply

namespace Request

/-- Whether the request leaves the guard and the set of stored messages alone. -/
def isQuiet : Request → Bool
  | tryClaim .. | release .. | createMessage _ => false
  | _ => true

def isGuard : Request → Bool
  | tryClaim .. | release .. => true
  | _ => false

/-- Whether the request looks something up among the tenants. -/
def isLookup : Request → Bool
  | findChannelByPhone _ | findGupshupChannel _ | accountStatus _ | findInbox _ => true
  | _ => false

def isFetch : Request → Bool
  | fetch .. => true
  | _ => false

def isRelease : Request → Bool
  | release .. => true
  | _ => false

/-- Whether the request only supplies a delivery, with an id, the time or a download. -/
def isSupply : Request → Bool
  | fetch .. | newId | now => true
  | _ => false

/-- Whether the request helps to find a message its conversation. -/
def isJoin : Request → Bool
  | findConversation .. | createConversation _ | newId | now => true
  | _ => false

def isAttach : Request → Bool
  | createAttachment _ => true
  | _ => false

theorem isGuard_of_isQuiet {r : Request} (h : r.isQuiet = true) : r.isGuard = false := by
  cases r <;> trivial

theorem isRelease_of_isGuard {r : Request} (h : r.isGuard = false) : r.isRelease = false := by
  cases r <;> trivial

theorem isQuiet_of_isLookup {r : Request} (h : r.isLookup = true) : r.isQuiet = true := by
  cases r <;> trivial

theorem isQuiet_of_isSupply {r : Request} (h : r.isSupply = true) : r.isQuiet = true := by
  cases r <;> trivial

theorem isQuiet_of_isJoin {r : Request} (h : r.isJoin = true) : r.isQuiet = true := by
  cases r <;> trivial

theorem isQuiet_of_isAttach {r : Request} (h : r.isAttach = true) : r.isQuiet = true := by
  cases r <;> trivial

theorem isFetch_of_isLookup {r : Request} (h : r.isLookup = true) : r.isFetch = false := by
  cases r <;> trivial

end Request

/-- What a store tells messages apart by: the inbox and the source id. -/
def Message.key (m : Message) : Snowflake × String := (m.inbox, m.sourceId)

namespace Exchange

/-! What an exchange says about a message, given by inbox and source id. -/

def attempted : Exchange → Option (Snowflake × String)
  | ⟨.createMessage m, _⟩ => some m.key
  | _ => none

def written : Exchange → Option (Snowflake × String)
  | ⟨.createMessage m, .ok _⟩ => some m.key
  | _ => none

/-- The message is stored: it was found, or written, or could not be written twice. -/
def shown : Exchange → Option (Snowflake × String)
  | ⟨.findMessage inbox source, .ok (some _)⟩ => some (inbox, source)
  | ⟨.createMessage m, .ok _⟩ => some m.key
  | ⟨.createMessage m, .error (.duplicateSourceId ..)⟩ => some m.key
  | _ => none

def missed : Exchange → Option (Snowflake × String)
  | ⟨.findMessage inbox source, .ok none⟩ => some (inbox, source)
  | _ => none

/-- The message could not be written, although it may not be there. -/
def refused : Exchange → Option (Snowflake × String)
  | ⟨.createMessage _, .error (.duplicateSourceId ..)⟩ => none
  | ⟨.createMessage m, .error _⟩ => some m.key
  | _ => none

/-! What an exchange says about a claim, given by channel and source id. -/

def sought : Exchange → Option (Snowflake × String)
  | ⟨.tryClaim channel source, _⟩ => some (channel, source)
  | _ => none

def granted : Exchange → Option (Snowflake × String)
  | ⟨.tryClaim channel source, .ok true⟩ => some (channel, source)
  | _ => none

/-- The claim could not be given back. -/
def stranded : Exchange → Option (Snowflake × String)
  | ⟨.release channel source, .error _⟩ => some (channel, source)
  | _ => none

variable {x : Exchange}

theorem attempted_eq_none (h : x.request.isQuiet = true) : x.attempted = none := by
  obtain ⟨r, b⟩ := x
  cases r <;> trivial

theorem sought_eq_none (h : x.request.isGuard = false) : x.sought = none := by
  obtain ⟨r, b⟩ := x
  cases r <;> trivial

theorem granted_eq_none (h : x.request.isGuard = false) : x.granted = none := by
  obtain ⟨r, b⟩ := x
  cases r <;> trivial

variable {k : Snowflake × String}

theorem attempted_of_written (h : x.written = some k) : x.attempted = some k := by
  obtain ⟨r, b⟩ := x
  cases r with
  | createMessage m =>
    cases b with
    | ok => exact h
    | error => cases h
  | _ => cases h

theorem attempted_of_refused (h : x.refused = some k) : x.attempted = some k := by
  unfold refused at h
  split at h
  · cases h
  · exact h
  · cases h

theorem written_eq_none_of_missed (h : x.missed = some k) : x.written = none := by
  unfold missed at h
  split at h
  · rfl
  · cases h

theorem written_eq_none_of_stranded (h : x.stranded = some k) : x.written = none := by
  unfold stranded at h
  split at h
  · rfl
  · cases h

theorem eq_tryClaim_of_sought (h : x.sought = some k) : ∃ b, x = ⟨.tryClaim k.1 k.2, b⟩ := by
  obtain ⟨r, b⟩ := x
  cases r with
  | tryClaim channel source =>
    cases h
    exact ⟨b, rfl⟩
  | _ => cases h

theorem sought_of_granted (h : x.granted = some k) : x.sought = some k := by
  unfold granted at h
  split at h
  · exact h
  · cases h

end Exchange

def writeCount (k : Snowflake × String) (t : List Exchange) : Nat := (t.filterMap Exchange.written).count k

theorem writeCount_append (k : Snowflake × String) (t t' : List Exchange) :
    writeCount k (t ++ t') = writeCount k t + writeCount k t' := by
  rw [writeCount, List.filterMap_append, List.count_append]
  rfl

theorem writeCount_pos {k : Snowflake × String} {t : List Exchange} {x : Exchange} (hx : x ∈ t)
    (hk : x.written = some k) :
    0 < writeCount k t :=
  List.count_pos_iff.2 (List.mem_filterMap.2 ⟨x, hx, hk⟩)

namespace Program

variable {α β : Type} {t : List Exchange} {P : Request → Prop}

/-- `p` can exchange `t` and end with a value. -/
def Yields : Program α → List Exchange → α → Prop
  | done a, t, b => t = [] ∧ b = a
  | ask r next, t, b => ∃ reply t', t = ⟨r, reply⟩ :: t' ∧ (next reply).Yields t' b

theorem yields_request {r : Request} {b : r.Reply} : (ask r done).Yields t b ↔ t = [⟨r, b⟩] := by
  constructor
  · rintro ⟨reply, t', rfl, rfl, rfl⟩
    rfl
  · rintro rfl
    exact ⟨b, [], rfl, rfl, rfl⟩

theorem yields_bind {p : Program α} {f : α → Program β} {b : β} :
    (p >>= f).Yields t b ↔ ∃ t₁ a t₂, t = t₁ ++ t₂ ∧ p.Yields t₁ a ∧ (f a).Yields t₂ b := by
  induction p generalizing t with
  | done a =>
    constructor
    · intro h
      exact ⟨[], a, t, rfl, ⟨rfl, rfl⟩, h⟩
    · rintro ⟨t₁, a', t₂, rfl, ⟨rfl, rfl⟩, h⟩
      exact h
  | ask r next ih =>
    constructor
    · rintro ⟨reply, t', rfl, h⟩
      obtain ⟨t₁, a, t₂, rfl, h₁, h₂⟩ := (ih reply).1 h
      exact ⟨⟨r, reply⟩ :: t₁, a, t₂, rfl, ⟨reply, t₁, rfl, h₁⟩, h₂⟩
    · rintro ⟨_, a, t₂, rfl, ⟨reply, t₁, rfl, h₁⟩, h₂⟩
      exact ⟨reply, t₁ ++ t₂, rfl, (ih reply).2 ⟨t₁, a, t₂, rfl, h₁, h₂⟩⟩

/-- `p` asks only for what satisfies `P`. -/
def Asks (P : Request → Prop) : Program α → Prop
  | done _ => True
  | ask r next => P r ∧ ∀ b, (next b).Asks P

namespace Asks

theorem request {r : Request} (h : P r) : (ask r done).Asks P := ⟨h, fun _ => trivial⟩

theorem mono {Q : Request → Prop} {p : Program α} (h : p.Asks P) (hPQ : ∀ r, P r → Q r) : p.Asks Q := by
  induction p with
  | done a => trivial
  | ask r next ih => exact ⟨hPQ r h.1, fun b => ih b (h.2 b)⟩

theorem mem {p : Program α} {a : α} (h : p.Asks P) (hp : p.Yields t a) : ∀ x ∈ t, P x.request := by
  induction p generalizing t with
  | done b =>
    obtain ⟨rfl, -⟩ := hp
    simp
  | ask r next ih =>
    obtain ⟨reply, t', rfl, hp⟩ := hp
    exact List.forall_mem_cons.2 ⟨h.1, ih reply (h.2 reply) hp⟩

theorem bind_of_yields {p : Program α} {f : α → Program β} (h : p.Asks P)
    (hf : ∀ t a, p.Yields t a → (f a).Asks P) : (p >>= f).Asks P := by
  induction p with
  | done a => exact hf [] a ⟨rfl, rfl⟩
  | ask r next ih => exact ⟨h.1, fun b => ih b (h.2 b) fun t a hy => hf _ a ⟨b, t, rfl, hy⟩⟩

theorem bind {p : Program α} {f : α → Program β} (h : p.Asks P) (hf : ∀ a, (f a).Asks P) : (p >>= f).Asks P :=
  h.bind_of_yields fun _ a _ => hf a

end Asks

/-- `p` can exchange `t` and go on as another program. -/
inductive Reaches (p : Program α) : List Exchange → Program α → Prop
  | refl : Reaches p [] p
  | step {t : List Exchange} {r : Request} {b : r.Reply} {next : r.Reply → Program α} :
    Reaches p t (ask r next) → Reaches p (t ++ [⟨r, b⟩]) (next b)

theorem Reaches.yields {p q : Program α} {t' : List Exchange} {a : α} (h : p.Reaches t q) (hq : q.Yields t' a) :
    p.Yields (t ++ t') a := by
  induction h generalizing t' with
  | refl => exact hq
  | step _ ih =>
    rw [List.append_assoc]
    exact ih ⟨_, _, rfl, hq⟩

theorem Reaches.cons {r : Request} {b : r.Reply} {next : r.Reply → Program α} {q : Program α}
    (h : (next b).Reaches t q) : (ask r next).Reaches (⟨r, b⟩ :: t) q := by
  induction h with
  | refl => exact .step .refl
  | step _ ih => exact .step ih

theorem Reaches.asks {p q : Program α} (h : p.Reaches t q) (hp : p.Asks P) : q.Asks P := by
  induction h with
  | refl => exact hp
  | step _ ih => exact ih.2 _

theorem reaches_of_yields {p : Program α} {a : α} (h : p.Yields t a) : p.Reaches t (.done a) := by
  induction p generalizing t with
  | done =>
    obtain ⟨rfl, rfl⟩ := h
    exact .refl
  | ask r next ih =>
    obtain ⟨b, t', rfl, h⟩ := h
    exact (ih b h).cons

/-- What a program has come to, if it is over. -/
def result? : Program α → Option α
  | done a => some a
  | ask .. => none

theorem result?_eq_some {p : Program α} {a : α} : p.result? = some a ↔ p = .done a := by
  cases p with
  | done a' => rw [result?, Option.some.injEq, Program.done.injEq]
  | ask => exact ⟨nofun, nofun⟩

theorem exists_yields {fits : Exchange → Prop} (hfits : ∀ r, ∃ b, fits ⟨r, b⟩) (p : Program α) :
    ∃ t a, p.Yields t a ∧ ∀ x ∈ t, fits x := by
  induction p with
  | done a => exact ⟨[], a, ⟨rfl, rfl⟩, by simp⟩
  | ask r next ih =>
    obtain ⟨b, hb⟩ := hfits r
    obtain ⟨t, a, hp, ht⟩ := ih b
    exact ⟨⟨r, b⟩ :: t, a, ⟨b, t, rfl, hp⟩, List.forall_mem_cons.2 ⟨hb, ht⟩⟩

theorem Asks.of_yields {fits : Exchange → Prop} (hfits : ∀ r, ∃ b, fits ⟨r, b⟩) {p : Program α}
    (h : ∀ t a, p.Yields t a → ∀ x ∈ t, P x.request) : p.Asks P := by
  induction p with
  | done a => trivial
  | ask r next ih =>
    refine ⟨?_, fun b => ih b fun t a hy x hx => h _ a ⟨b, t, rfl, hy⟩ x (List.mem_cons_of_mem _ hx)⟩
    obtain ⟨b, -⟩ := hfits r
    obtain ⟨t, a, hy, -⟩ := (next b).exists_yields hfits
    exact h _ a ⟨b, t, rfl, hy⟩ ⟨r, b⟩ List.mem_cons_self

end Program

namespace Attempt

variable {α β : Type} {t : List Exchange} {P : Request → Prop}

theorem yields_lift {p : Program α} {r : Except DomainError α} :
    (ExceptT.lift p : Attempt α).run.Yields t r ↔ ∃ a, p.Yields t a ∧ r = .ok a := by
  rw [ExceptT.run_lift, map_eq_pure_bind, Program.yields_bind]
  constructor
  · rintro ⟨t₁, a, t₂, rfl, h, rfl, rfl⟩
    exact ⟨a, by simpa using h, rfl⟩
  · rintro ⟨a, h, rfl⟩
    exact ⟨t, a, [], by simp, h, rfl, rfl⟩

theorem yields_bind {x : Attempt α} {f : α → Attempt β} {r : Except DomainError β} :
    (x >>= f).run.Yields t r ↔ (∃ e, x.run.Yields t (.error e) ∧ r = .error e) ∨
      ∃ t₁ a t₂, t = t₁ ++ t₂ ∧ x.run.Yields t₁ (.ok a) ∧ (f a).run.Yields t₂ r := by
  rw [ExceptT.run_bind, Program.yields_bind]
  constructor
  · rintro ⟨t₁, a | a, t₂, rfl, h₁, h₂⟩
    · obtain ⟨rfl, rfl⟩ := h₂
      exact .inl ⟨a, by simpa using h₁, rfl⟩
    · exact .inr ⟨t₁, a, t₂, rfl, h₁, h₂⟩
  · rintro (⟨e, h, rfl⟩ | ⟨t₁, a, t₂, rfl, h₁, h₂⟩)
    · exact ⟨t, .error e, [], by simp, h, rfl, rfl⟩
    · exact ⟨t₁, .ok a, t₂, rfl, h₁, h₂⟩

theorem yields_lift_bind {p : Program α} {f : α → Attempt β} {r : Except DomainError β} :
    ((ExceptT.lift p : Attempt α) >>= f).run.Yields t r ↔
      ∃ t₁ a t₂, t = t₁ ++ t₂ ∧ p.Yields t₁ a ∧ (f a).run.Yields t₂ r := by
  rw [yields_bind]
  constructor
  · rintro (⟨e, h, -⟩ | ⟨t₁, a, t₂, rfl, h₁, h₂⟩)
    · obtain ⟨a, -, h⟩ := yields_lift.1 h
      cases h
    · obtain ⟨a', h₁, h⟩ := yields_lift.1 h₁
      cases h
      exact ⟨t₁, a, t₂, rfl, h₁, h₂⟩
  · rintro ⟨t₁, a, t₂, rfl, h₁, h₂⟩
    exact .inr ⟨t₁, a, t₂, rfl, yields_lift.2 ⟨a, h₁, rfl⟩, h₂⟩

theorem asks_lift {p : Program α} (h : p.Asks P) : (ExceptT.lift p : Attempt α).run.Asks P := by
  rw [ExceptT.run_lift, map_eq_pure_bind]
  exact h.bind fun _ => trivial

theorem asks_lift_bind_of_yields {p : Program α} {f : α → Attempt β} (h : p.Asks P)
    (hf : ∀ t a, p.Yields t a → (f a).run.Asks P) : ((ExceptT.lift p : Attempt α) >>= f).run.Asks P := by
  rw [ExceptT.run_bind]
  refine (asks_lift h).bind_of_yields fun t r hr => ?_
  obtain ⟨a, ha, rfl⟩ := yields_lift.1 hr
  exact hf t a ha

theorem asks_bind {x : Attempt α} {f : α → Attempt β} (h : x.run.Asks P) (hf : ∀ a, (f a).run.Asks P) :
    (x >>= f).run.Asks P := by
  rw [ExceptT.run_bind]
  refine h.bind fun a => ?_
  cases a with
  | error e => trivial
  | ok a => exact hf a

end Attempt

end Intake
