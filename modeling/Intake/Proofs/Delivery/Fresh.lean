import Intake.Delivery.Run
import Intake.Proofs.Delivery.Handle
import Intake.Proofs.World.Store

/-!
# New messages have been sent

A delivery writes messages only as they arrive: with the status `sent` and without an error (`perform_fresh`). Only
reports change a status; every other event asks for what `Request.Ingests` admits. No event ever pauses: what a delivery
can ask for is `Request.Delivers`.
-/

namespace Intake

namespace Request

/-- A message to be written is as it arrives. -/
def Fresh : Request → Prop
  | createMessage m => m.record = m
  | _ => True

/-- Messages are written as they arrive, and no status is changed. -/
def Ingests : Request → Prop
  | createMessage m => m.record = m
  | updateStatus .. => False
  | _ => True

/-- Messages are written as they arrive, only `reports` change a status, and there are no pauses. -/
def Delivers (reports : Bool) : Request → Prop
  | createMessage m => m.record = m
  | updateStatus .. => reports = true
  | pause _ => False
  | _ => True

variable {r : Request} {reports : Bool}

namespace Delivers

theorem fresh (h : r.Delivers reports) : r.Fresh := by
  cases r <;> first | exact h | trivial

theorem ingests (h : r.Delivers false) : r.Ingests := by
  cases r with
  | updateStatus => cases h
  | createMessage => exact h
  | _ => trivial

theorem reporting (h : r.Delivers reports) : r.Delivers true := by
  cases r with
  | updateStatus => rfl
  | _ => exact h

end Delivers

theorem delivers_of_isFollowUp (h : r.isFollowUp = true) : r.Delivers true := by
  cases r <;> trivial

theorem delivers_of_isLookup (h : r.isLookup = true) : r.Delivers reports := by
  cases r <;> trivial

theorem delivers_of_isJoin (h : r.isJoin = true) : r.Delivers reports := by
  cases r <;> trivial

theorem delivers_of_isAttach (h : r.isAttach = true) : r.Delivers reports := by
  cases r <;> trivial

theorem delivers_of_isSupply (h : r.isSupply = true) : r.Delivers reports := by
  cases r <;> trivial

end Request

open Program

namespace Ingest

variable {source : String} {t : List Exchange} {target : ResolvedChannel} {e : IncomingEvent}

theorem drafter_fresh {inbox : Inbox} {conversation : Conversation} {contact : Contact} {replyTo : Option String}
    {content : String} {m : Message}
    (h : (drafter inbox conversation contact replyTo content source).Yields t m) : m.record = m := by
  obtain ⟨id, time, rfl⟩ := drafter_yields h
  rfl

theorem persist_delivers (target : ResolvedChannel) (source : String) (m : InboundMessage) (new : NewContact) :
    (persist target source m new).run.Asks (Request.Delivers false) := by
  refine asks_persist trivial trivial (fun _ => Request.delivers_of_isJoin) (fun _ _ => ?_) fun _ _ t ds hds => ?_
  · exact (drafts_supplies (drafter_supplies _ _ _ _) ..).mono fun _ => Request.delivers_of_isSupply
  · exact asks_write (fun _ => Request.delivers_of_isAttach) (drafts_forall (fun _ _ _ _ _ => drafter_fresh) hds)

theorem resolveCard_delivers (inbox : Inbox) (source : String) (sender : Option Sender) :
    (resolveCard inbox source sender).Asks (Request.Delivers false) := by
  unfold resolveCard
  split
  · trivial
  · refine Asks.bind (Asks.request trivial) fun upserted => ?_
    split <;> trivial

theorem handleEvent_delivers_message (h : ∀ report, e.body ≠ .status report) :
    (handleEvent target e).run.Asks (Request.Delivers false) := by
  unfold handleEvent
  split
  · unfold ingestMessage
    split
    · trivial
    · exact asks_claimed trivial trivial (persist_delivers ..)
  · next report hb => exact absurd hb (h report)
  · exact Attempt.asks_lift (resolveCard_delivers ..)

theorem handleEvent_ingests (h : ∀ report, e.body ≠ .status report) :
    (handleEvent target e).run.Asks Request.Ingests :=
  (handleEvent_delivers_message h).mono fun _ => Request.Delivers.ingests

theorem handleEvent_delivers (target : ResolvedChannel) (e : IncomingEvent) :
    (handleEvent target e).run.Asks (Request.Delivers true) := by
  by_cases h : ∃ report, e.body = .status report
  · obtain ⟨report, hb⟩ := h
    rw [handleEvent, hb]
    exact Attempt.asks_lift ((reconcile_asks ..).mono fun _ => Request.delivers_of_isFollowUp)
  · exact (handleEvent_delivers_message (not_exists.1 h)).mono fun _ => Request.Delivers.reporting

theorem handleEvents_delivers (target : ResolvedChannel) (es : List IncomingEvent) :
    (handleEvents target es).run.Asks (Request.Delivers true) := by
  induction es with
  | nil => trivial
  | cons e es ih =>
    exact Attempt.asks_bind (handleEvent_delivers target e) fun _ => Attempt.asks_bind ih fun _ => trivial

end Ingest

theorem perform_delivers (job : WebhookJob) : (perform job).run.Asks (Request.Delivers true) := by
  unfold perform
  refine Attempt.asks_bind ((Routing.resolve_lookups job).mono fun _ => Request.delivers_of_isLookup)
    fun resolution => ?_
  cases resolution with
  | active target => exact Attempt.asks_bind (Ingest.handleEvents_delivers ..) fun _ => trivial
  | _ => trivial

theorem perform_fresh (job : WebhookJob) : (perform job).run.Asks Request.Fresh :=
  (perform_delivers job).mono fun _ => Request.Delivers.fresh

end Intake
