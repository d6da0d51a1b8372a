import Intake.Delivery.Ingest
import Intake.Proofs.Program.Exchange

/-!
# Reports and announced contacts

`Reconciled` lists how a delivery report can be folded into its message: the exchanges, with the outcome. The message is
looked up first, so a report on an unknown message gets no further, whatever its status says. `CardResolved` is the same
for an announced contact.
-/

namespace Intake.Ingest

inductive Reconciled (inbox : Inbox) (source : String) (report : StatusReport) : List Exchange → EventOutcome → Prop
  | unread {error : DomainError} :
    Reconciled inbox source report [⟨.findMessage inbox.id source, .error error⟩] (.dropped source .storeUnavailable)
  | unknown :
    Reconciled inbox source report [⟨.findMessage inbox.id source, .ok none⟩] (.dropped source .unknownMessage)
  | invalid {m : Message} :
    MessageStatus.ofName? report.status = none →
      Reconciled inbox source report [⟨.findMessage inbox.id source, .ok (some m)⟩]
        (.dropped source (.invalidStatus report.status))
  | updated {m : Message} {status : MessageStatus} :
    MessageStatus.ofName? report.status = some status →
      Reconciled inbox source report
        [⟨.findMessage inbox.id source, .ok (some m)⟩,
          ⟨.updateStatus m.id status (externalError? status report), .ok ()⟩]
        (.statusUpdated source status)
  /-- The message was found, and the store did not take the status. -/
  | refused {m : Message} {status : MessageStatus} {error : DomainError} :
    MessageStatus.ofName? report.status = some status →
      Reconciled inbox source report
        [⟨.findMessage inbox.id source, .ok (some m)⟩,
          ⟨.updateStatus m.id status (externalError? status report), .error error⟩]
        (.dropped source .storeUnavailable)

inductive CardResolved (inbox : Inbox) (source : String) (sender : Option Sender) :
    List Exchange → EventOutcome → Prop
  | missing :
    sender.bind (NewContact.ofSender? inbox) = none →
      CardResolved inbox source sender [] (.dropped source .missingSender)
  | resolved {new : NewContact} {found : ResolvedContact} :
    sender.bind (NewContact.ofSender? inbox) = some new →
      CardResolved inbox source sender [⟨.upsertContact new, .ok found⟩] (.contactResolved source found.contact.id)
  | refused {new : NewContact} {error : DomainError} :
    sender.bind (NewContact.ofSender? inbox) = some new →
      CardResolved inbox source sender [⟨.upsertContact new, .error error⟩] (.dropped source .storeUnavailable)

variable {inbox : Inbox} {source : String} {report : StatusReport} {sender : Option Sender} {t : List Exchange}
  {outcome : EventOutcome}

theorem reconcile_yields (h : (reconcile inbox source report).Yields t outcome) :
    Reconciled inbox source report t outcome := by
  unfold reconcile at h
  obtain ⟨t₁, found, t₂, rfl, h₁, h₂⟩ := Program.yields_bind.1 h
  obtain rfl := Program.yields_request.1 h₁
  rcases found with error | m | m
  · obtain ⟨rfl, rfl⟩ := h₂
    exact .unread
  · obtain ⟨rfl, rfl⟩ := h₂
    exact .unknown
  · dsimp only at h₂
    split at h₂
    · next hnone =>
      obtain ⟨rfl, rfl⟩ := h₂
      exact .invalid hnone
    · next status hstatus =>
      obtain ⟨t₃, updated, t₄, rfl, h₃, h₄⟩ := Program.yields_bind.1 h₂
      obtain rfl := Program.yields_request.1 h₃
      rcases updated with error | ⟨⟩
      · obtain ⟨rfl, rfl⟩ := h₄
        exact .refused hstatus
      · obtain ⟨rfl, rfl⟩ := h₄
        exact .updated hstatus

theorem resolveCard_yields (h : (resolveCard inbox source sender).Yields t outcome) :
    CardResolved inbox source sender t outcome := by
  unfold resolveCard at h
  split at h
  · next hnone =>
    obtain ⟨rfl, rfl⟩ := h
    exact .missing hnone
  · next new hnew =>
    obtain ⟨t₁, reply, t₂, rfl, h₁, h₂⟩ := Program.yields_bind.1 h
    obtain rfl := Program.yields_request.1 h₁
    cases reply with
    | error =>
      obtain ⟨rfl, rfl⟩ := h₂
      exact .refused hnew
    | ok =>
      obtain ⟨rfl, rfl⟩ := h₂
      exact .resolved hnew

theorem handleEvent_reconciled {target : ResolvedChannel} {e : IncomingEvent} {r : Except DomainError EventOutcome}
    (hb : e.body = .status report) (h : (handleEvent target e).run.Yields t r) :
    ∃ outcome, r = .ok outcome ∧ Reconciled target.inbox e.sourceId report t outcome := by
  rw [handleEvent, hb] at h
  obtain ⟨outcome, h', rfl⟩ := Attempt.yields_lift.1 h
  exact ⟨outcome, rfl, reconcile_yields h'⟩

theorem Reconciled.sourceId (h : Reconciled inbox source report t outcome) : outcome.sourceId = source := by
  cases h <;> rfl

theorem CardResolved.sourceId (h : CardResolved inbox source sender t outcome) : outcome.sourceId = source := by
  cases h <;> rfl

end Intake.Ingest
