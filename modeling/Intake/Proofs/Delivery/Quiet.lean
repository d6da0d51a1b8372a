import Intake.Delivery.Ingest
import Intake.Proofs.Program.Exchange

/-!
# Quiet parts of a delivery

Routing, contacts, conversations, drafts, attachments and delivery reports neither ask for claims nor write messages.
-/

namespace Intake

/-- The program asks for no claim, releases none and writes no message. -/
def Program.Quiet {α : Type} (p : Program α) : Prop := p.Asks (·.isQuiet = true)

namespace Program.Quiet

variable {α β : Type} {p : Program α} {f : α → Program β} {t : List Exchange} {a : α}

theorem done : (Program.done a).Quiet := trivial

theorem request {r : Request} (h : r.isQuiet = true) : (ask r .done).Quiet := Asks.request h

theorem bind (h : p.Quiet) (hf : ∀ a, (f a).Quiet) : (p >>= f).Quiet := Asks.bind h hf

theorem mem (h : p.Quiet) (hp : p.Yields t a) : ∀ x ∈ t, x.request.isQuiet = true := Asks.mem h hp

end Program.Quiet

open Program

/-- The program only asks for ids, the time and downloads. -/
def Program.Supplies {α : Type} (p : Program α) : Prop := p.Asks (·.isSupply = true)

theorem Program.Supplies.quiet {α : Type} {p : Program α} (h : p.Supplies) : p.Quiet :=
  Asks.mono h fun _ => Request.isQuiet_of_isSupply

namespace Routing

/-- The program only looks up tenants. -/
def Lookups {α : Type} (p : Program α) : Prop := p.Asks (·.isLookup = true)

theorem findChannel_lookups (job : WebhookJob) : Lookups (findChannel job).run := by
  unfold findChannel
  split
  · split
    · exact Asks.request rfl
    · trivial
  · split
    · exact Attempt.asks_bind (Asks.request rfl) fun _ => trivial
    · trivial
  · split
    · exact Asks.request rfl
    · trivial

theorem resolve_lookups (job : WebhookJob) : Lookups (resolve job).run := by
  unfold resolve
  refine Attempt.asks_bind (findChannel_lookups job) fun channel => ?_
  split
  · trivial
  · split
    · trivial
    · refine Attempt.asks_bind (Asks.request rfl) fun status => ?_
      split
      · trivial
      · refine Attempt.asks_bind (Asks.request rfl) fun inbox => ?_
        split <;> trivial

theorem resolve_quiet (job : WebhookJob) : (resolve job).run.Quiet :=
  Asks.mono (resolve_lookups job) fun _ => Request.isQuiet_of_isLookup

end Routing

namespace Ingest

theorem resolveConversation_joins (inbox : Inbox) (contact : ResolvedContact) :
    (resolveConversation inbox contact).run.Asks (·.isJoin = true) := by
  unfold resolveConversation
  refine Attempt.asks_bind (Asks.request rfl) fun found => ?_
  split
  · trivial
  · refine Attempt.asks_bind (Attempt.asks_lift (Asks.request rfl)) fun id => ?_
    refine Attempt.asks_bind (Attempt.asks_lift (Asks.request rfl)) fun now => ?_
    exact Attempt.asks_bind (Asks.request rfl) fun _ => trivial

theorem resolveConversation_quiet (inbox : Inbox) (contact : ResolvedContact) :
    (resolveConversation inbox contact).run.Quiet :=
  Asks.mono (resolveConversation_joins inbox contact) fun _ => Request.isQuiet_of_isJoin

theorem drafter_supplies (inbox : Inbox) (conversation : Conversation) (contact : Contact) (replyTo : Option String)
    (content source : String) : (drafter inbox conversation contact replyTo content source).Supplies :=
  Asks.bind (Asks.request rfl) fun _ => Asks.bind (Asks.request rfl) fun _ => trivial

theorem fallbacks_supplies (m : Message) (titles : List String) : (fallbacks m titles).Supplies := by
  induction titles with
  | nil => trivial
  | cons title titles ih => exact Asks.bind (Asks.request rfl) fun _ => Asks.bind ih fun _ => trivial

theorem attachments_supplies (channel : Channel) (record : Message) (m : InboundMessage) :
    (attachments channel record m).Supplies := by
  unfold attachments
  split
  · exact Asks.bind (Asks.request rfl) fun _ => trivial
  · split
    · trivial
    · refine Asks.bind (Asks.request rfl) fun file => ?_
      split
      · trivial
      · exact Asks.bind (Asks.request rfl) fun _ => trivial
  · trivial

theorem draftCards_supplies {draft : Drafter} (hd : ∀ content source, (draft content source).Supplies)
    (source : String) (index : Nat) (cards : List ContactCard) : (draftCards draft source index cards).Supplies := by
  induction cards generalizing index with
  | nil => trivial
  | cons card cards ih =>
    exact Asks.bind (hd ..) fun _ => Asks.bind (fallbacks_supplies ..) fun _ => Asks.bind (ih _) fun _ => trivial

theorem drafts_supplies {draft : Drafter} (hd : ∀ content source, (draft content source).Supplies) (channel : Channel)
    (source : String) (m : InboundMessage) : (drafts draft channel source m).Supplies := by
  unfold drafts
  split
  · exact draftCards_supplies hd ..
  · exact Asks.bind (hd ..) fun _ => Asks.bind (attachments_supplies ..) fun _ => trivial

theorem writeAttachments_attaches (as : List Attachment) : (writeAttachments as).Asks (·.isAttach = true) := by
  induction as with
  | nil => trivial
  | cons a as ih => exact Asks.bind (Asks.request rfl) fun _ => Asks.bind ih fun _ => trivial

theorem writeAttachments_quiet (as : List Attachment) : (writeAttachments as).Quiet :=
  Asks.mono (writeAttachments_attaches as) fun _ => Request.isQuiet_of_isAttach

theorem reconcile_quiet (inbox : Inbox) (source : String) (report : StatusReport) :
    (reconcile inbox source report).Quiet := by
  unfold reconcile
  refine .bind (.request rfl) fun found => ?_
  split
  · exact .done
  · exact .done
  · split
    · exact .done
    · refine .bind (.request rfl) fun updated => ?_
      split <;> exact .done

theorem resolveCard_quiet (inbox : Inbox) (source : String) (sender : Option Sender) :
    (resolveCard inbox source sender).Quiet := by
  unfold resolveCard
  split
  · exact .done
  · refine .bind (.request rfl) fun upserted => ?_
    split <;> exact .done

end Ingest

end Intake
