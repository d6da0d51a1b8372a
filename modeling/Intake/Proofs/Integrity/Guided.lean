import Intake.Delivery.Ingest
import Intake.Proofs.Integrity.Tables

/-!
# Guided programs

What a delivery may ask for depends on what it was answered before: a row may only be made with an id that was made for
the delivery and not used since, and may only refer to rows that the delivery has been shown. `Program.Guided` is that
condition, by recursion over the program. Between two requests others may add rows, so it speaks of all tables that are
grown from those that the delivery has seen, and it is not lost when tables grow (`Guided.grow`).
-/

namespace Intake

/-- What a delivery has to go on with. -/
structure Hand where
  /-- Ids that were made for it and not used since. -/
  held : Multiset Snowflake := 0
  /-- The contact inbox that was just found to have no conversation to join. -/
  vacant : Option Snowflake := none

def Hand.after (h : Hand) : Exchange → Hand
  | ⟨.newId, id⟩ => { h with held := id ::ₘ h.held }
  | ⟨.now, _⟩ => h
  | ⟨.findConversation link _, .ok none⟩ => { h with vacant := some link }
  | ⟨.createConversation c, _⟩ => { held := h.held.erase c.id }
  | ⟨.createMessage m, _⟩ => { held := h.held.erase m.id }
  | ⟨.createAttachment a, _⟩ => { held := h.held.erase a.id }
  | _ => { h with vacant := none }

def Hand.of (log : List Exchange) : Hand := log.foldl Hand.after {}

theorem Hand.of_concat (log : List Exchange) (x : Exchange) : of (log ++ [x]) = (of log).after x :=
  List.foldl_concat ..

/-- Which conversations a new message of the inbox may join. -/
def Inbox.joinable (i : Inbox) : ConversationFilter := if i.lockToSingleConversation then .any else .unresolved

/-- What the reply says is in the tables. -/
def Exchange.Recorded (t : Tables) : Exchange → Prop
  | ⟨.findInbox _, .ok (some i)⟩ => t.HasInbox i.id i.account
  | ⟨.findMessage inbox _, .ok (some m)⟩ => t.HasMessage m.id inbox m.account
  | ⟨.upsertContact new, .ok found⟩ => t.HasLink found.contactInbox.id new.inbox found.contact.id
  | ⟨.findConversation link _, .ok (some c)⟩ =>
    t.HasConversation c.id c.inbox c.account c.contact ∧ t.HasInbox c.inbox c.account ∧ t.HasLink link c.inbox c.contact
  | ⟨.createConversation c, .ok _⟩ => t.HasConversation c.id c.inbox c.account c.contact
  | ⟨.createMessage m, .ok _⟩ => t.HasMessage m.id m.inbox m.account
  | _ => True

/-- What a delivery to the target may ask for, with that in hand. -/
def Request.Admits (target : ResolvedChannel) (h : Hand) (t : Tables) : Request → Prop
  | tryClaim channel _ | release channel _ => channel = target.channel.id
  | findMessage inbox _ => inbox = target.inbox.id
  | createMessage m => m.id ∈ h.held ∧ m.inbox = target.inbox.id ∧ m.account = target.inbox.account ∧ m.RefersIn t
  | updateStatus message _ _ => ∃ account, t.HasMessage message target.inbox.id account
  | upsertContact new =>
    new.inbox = target.inbox.id ∧ new.account = target.inbox.account ∧ IsDigits new.sourceId ∧
      new.phoneNumber = "+" ++ new.sourceId ∧ t.HasInbox new.inbox new.account
  | findConversation link filter => filter = target.inbox.joinable ∧ ∃ contact, t.HasLink link target.inbox.id contact
  | createConversation c =>
    c.id ∈ h.held ∧ h.vacant = some c.contactInbox ∧ c.status = .open ∧ c.inbox = target.inbox.id ∧
      c.account = target.inbox.account ∧ c.RefersIn t
  | createAttachment a =>
    a.id ∈ h.held ∧ a.account = target.inbox.account ∧ a.Typed ∧ t.HasMessage a.message target.inbox.id a.account
  | _ => True

theorem Request.Admits.grow {target : ResolvedChannel} {h : Hand} {t t' : Tables} {r : Request}
    (hr : r.Admits target h t) (hg : t.Grows t') : r.Admits target h t' := by
  cases r with
  | createMessage m =>
    obtain ⟨hid, hi, ha, hm⟩ := hr
    exact ⟨hid, hi, ha, hg.message hm⟩
  | updateStatus =>
    obtain ⟨account, hm⟩ := hr
    exact ⟨account, hg.hasMessage hm⟩
  | upsertContact new =>
    obtain ⟨hi, ha, hd, hp, hinbox⟩ := hr
    exact ⟨hi, ha, hd, hp, hg.hasInbox hinbox⟩
  | findConversation =>
    obtain ⟨hf, contact, hl⟩ := hr
    exact ⟨hf, contact, hg.hasLink hl⟩
  | createConversation c =>
    obtain ⟨hid, hv, hs, hi, ha, hc⟩ := hr
    exact ⟨hid, hv, hs, hi, ha, hg.conversation hc⟩
  | createAttachment a =>
    obtain ⟨hid, hacc, ht, hm⟩ := hr
    exact ⟨hid, hacc, ht, hg.hasMessage hm⟩
  | _ => exact hr

/-- What may be asked for, with what is in hand and in the tables. -/
abbrev Guide := Hand → Tables → Request → Prop

namespace Program

variable {α β : Type} {P : Guide} {Q R : Hand → Tables → α → Prop} {h : Hand} {t t' : Tables}

/-- Whatever the replies are, the program asks only for what it may, and ends with what satisfies `Q`. -/
def Guided (P : Guide) (Q : Hand → Tables → α → Prop) : Program α → Hand → Tables → Prop
  | done a, h, t => Q h t a
  | ask r next, h, t =>
    P h t r ∧ ∀ b t', t.Grows t' → t'.DistinctIds → Exchange.Recorded t' ⟨r, b⟩ →
      (next b).Guided P Q (h.after ⟨r, b⟩) t'

namespace Guided

theorem imp {p : Program α} (hp : p.Guided P Q h t) (hQ : ∀ h t a, Q h t a → R h t a) : p.Guided P R h t := by
  induction p generalizing h t with
  | done a => exact hQ _ _ _ hp
  | ask r next ih => exact ⟨hp.1, fun b t' hg hd hr => ih b (hp.2 b t' hg hd hr)⟩

theorem imp_guide {P' : Guide} {p : Program α} (hp : p.Guided P Q h t) (hP : ∀ h t r, P h t r → P' h t r) :
    p.Guided P' Q h t := by
  induction p generalizing h t with
  | done a => exact hp
  | ask r next ih => exact ⟨hP _ _ _ hp.1, fun b t' hg hd hr => ih b (hp.2 b t' hg hd hr)⟩

theorem grow {p : Program α} (hp : p.Guided P Q h t) (hg : t.Grows t')
    (hP : ∀ r, P h t r → P h t' r) (hQ : ∀ a, Q h t a → Q h t' a) : p.Guided P Q h t' := by
  cases p with
  | done a => exact hQ a hp
  | ask r next => exact ⟨hP r hp.1, fun b t'' hg' => hp.2 b t'' (hg.trans hg')⟩

theorem grown {p : Program α} (hp : p.Guided P Q h t) (hd : t.DistinctIds) :
    p.Guided P (fun h' t' a => t.Grows t' ∧ t'.DistinctIds ∧ Q h' t' a) h t := by
  induction p generalizing h t with
  | done a => exact ⟨.refl t, hd, hp⟩
  | ask r next ih =>
    refine ⟨hp.1, fun b t' hg hd' hr => ?_⟩
    exact (ih b (hp.2 b t' hg hd' hr) hd').imp fun _ _ _ ⟨hg', hQ⟩ => ⟨hg.trans hg', hQ⟩

theorem of_bind {p : Program α} {f : α → Program β} {S : Hand → Tables → β → Prop}
    (hp : p.Guided P (fun h t a => (f a).Guided P S h t) h t) : (p >>= f).Guided P S h t := by
  induction p generalizing h t with
  | done a => exact hp
  | ask r next ih => exact ⟨hp.1, fun b t' hg hd hr => ih b (hp.2 b t' hg hd hr)⟩

theorem bind {p : Program α} {f : α → Program β} {S : Hand → Tables → β → Prop} (hd : t.DistinctIds)
    (hp : p.Guided P Q h t)
    (hf : ∀ h' t' a, t.Grows t' → t'.DistinctIds → Q h' t' a → (f a).Guided P S h' t') :
    (p >>= f).Guided P S h t :=
  of_bind ((hp.grown hd).imp fun h' t' a ⟨hg, hd, hQ⟩ => hf h' t' a hg hd hQ)

end Guided

end Program

namespace Attempt

variable {α β : Type} {P : Guide} {h : Hand} {t : Tables}

/-- `Q` holds of what is returned, if anything is. -/
def Returns (Q : Hand → Tables → α → Prop) : Hand → Tables → Except DomainError α → Prop :=
  fun h t r => ∀ a, r = .ok a → Q h t a

/-- What is asked for is admitted, and what is returned satisfies `Q`. -/
def Guided (P : Guide) (Q : Hand → Tables → α → Prop) (x : Attempt α) (h : Hand) (t : Tables) : Prop :=
  x.run.Guided P (Returns Q) h t

variable {Q R : Hand → Tables → α → Prop} {S : Hand → Tables → β → Prop}

namespace Guided

theorem pure {a : α} (hQ : Q h t a) : Attempt.Guided P Q (Pure.pure a) h t := by
  rintro _ ⟨⟩
  exact hQ

theorem throw {e : DomainError} : Attempt.Guided P Q (MonadExcept.throw e) h t := nofun

theorem lift {p : Program α} (hp : p.Guided P Q h t) : Attempt.Guided P Q (ExceptT.lift p) h t := by
  rw [Attempt.Guided, ExceptT.run_lift, map_eq_pure_bind]
  refine Program.Guided.of_bind (hp.imp fun h t a hQ => ?_)
  rintro _ ⟨⟩
  exact hQ

theorem bind {x : Attempt α} {f : α → Attempt β} (hd : t.DistinctIds) (hx : Attempt.Guided P Q x h t)
    (hf : ∀ h' t' a, t.Grows t' → t'.DistinctIds → Q h' t' a → Attempt.Guided P S (f a) h' t') :
    Attempt.Guided P S (x >>= f) h t := by
  rw [Attempt.Guided, ExceptT.run_bind]
  refine Program.Guided.bind hd hx fun h' t' r hg hd hr => ?_
  cases r with
  | error e => exact nofun
  | ok a => exact hf h' t' a hg hd (hr a rfl)

end Guided

end Attempt

/-! ## References are unique -/

namespace Tables.DistinctIds

variable {t : Tables} {i i' a a' c c' m l : Snowflake}

theorem inbox_unique (hd : t.DistinctIds) (h : t.HasInbox i a) (h' : t.HasInbox i a') : a = a' := by
  obtain ⟨x, hx, hid, rfl⟩ := h
  obtain ⟨y, hy, hid', rfl⟩ := h'
  rw [List.inj_on_of_nodup_map hd.inboxIds hx hy (hid.trans hid'.symm)]

theorem link_unique (hd : t.DistinctIds) (h : t.HasLink l i c) (h' : t.HasLink l i' c') : i = i' ∧ c = c' := by
  obtain ⟨x, hx, hid, rfl, rfl⟩ := h
  obtain ⟨y, hy, hid', rfl, rfl⟩ := h'
  rw [List.inj_on_of_nodup_map hd.contactInboxIds hx hy (hid.trans hid'.symm)]
  exact ⟨rfl, rfl⟩

theorem message_unique (hd : t.DistinctIds) (h : t.HasMessage m i a) (h' : t.HasMessage m i' a') : i = i' ∧ a = a' := by
  obtain ⟨x, hx, hid, rfl, rfl⟩ := h
  obtain ⟨y, hy, hid', rfl, rfl⟩ := h'
  rw [List.inj_on_of_nodup_map hd.messageIds hx hy (hid.trans hid'.symm)]
  exact ⟨rfl, rfl⟩

end Tables.DistinctIds

end Intake
