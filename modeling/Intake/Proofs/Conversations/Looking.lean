import Intake.Proofs.Delivery.Attempts
import Intake.Proofs.Delivery.Perform
import Intake.Proofs.Integrity.Guided

/-!
# Looking for a conversation

A delivery opens a conversation only right after it has looked for one in vain: between the look-up and the opening it
asks for an id and the time, and for nothing else (`Looking`). So while `Hand.vacant` names a contact inbox the delivery
is going to open a conversation there, and no download can come in between.
-/

namespace Intake

/-- The conversation that a contact's message opens. -/
def Inbox.opening (inbox : Inbox) (contact : ResolvedContact) (id : Snowflake) (now : Time) : Conversation :=
  { id
    account := inbox.account
    inbox := inbox.id
    contact := contact.contact.id
    contactInbox := contact.contactInbox.id
    status := .open
    createdAt := now }

/-- The exchange is a look-up that found no conversation, or opens one. -/
def Exchange.seeks : Exchange → Bool
  | ⟨.findConversation .., .ok none⟩ | ⟨.createConversation _, _⟩ => true
  | _ => false

/-- Whether the request is about conversations. -/
def Request.isTalk : Request → Bool
  | findConversation .. | createConversation _ => true
  | _ => false

theorem Exchange.not_seeks_of_isTalk {x : Exchange} (h : x.request.isTalk = false) : x.seeks = false := by
  obtain ⟨r, b⟩ := x
  cases r <;> first | rfl | cases h

/-- The exchanges lead from one vacant contact inbox, or none, to another, or none. Look-ups are made with the filter.
-/
inductive Looking (f : ConversationFilter) : Option Snowflake → List Exchange → Option Snowflake → Prop
  | nil {v : Option Snowflake} : Looking f v [] v
  | vacant {link : Snowflake} {t : List Exchange} {v : Option Snowflake} :
    Looking f (some link) t v → Looking f none (⟨.findConversation link f, .ok none⟩ :: t) v
  | newId {link id : Snowflake} {t : List Exchange} {v : Option Snowflake} :
    Looking f (some link) t v → Looking f (some link) (⟨.newId, id⟩ :: t) v
  | now {link : Snowflake} {time : Time} {t : List Exchange} {v : Option Snowflake} :
    Looking f (some link) t v → Looking f (some link) (⟨.now, time⟩ :: t) v
  | opens {c : Conversation} {b : Except DomainError Unit} {t : List Exchange} {v : Option Snowflake} :
    c.status = .open → Looking f none t v → Looking f (some c.contactInbox) (⟨.createConversation c, b⟩ :: t) v
  | other {x : Exchange} {t : List Exchange} {v : Option Snowflake} :
    x.seeks = false → Looking f none t v → Looking f none (x :: t) v

namespace Looking

variable {f : ConversationFilter} {t t' : List Exchange} {v v' v'' : Option Snowflake}

theorem append (h : Looking f v t v') (h' : Looking f v' t' v'') : Looking f v (t ++ t') v'' := by
  induction h with
  | nil => exact h'
  | vacant _ ih => exact .vacant (ih h')
  | newId _ ih => exact .newId (ih h')
  | now _ ih => exact .now (ih h')
  | opens hc _ ih => exact .opens hc (ih h')
  | other hx _ ih => exact .other hx (ih h')

theorem split (h : Looking f v (t ++ t') v'') : ∃ v', Looking f v t v' ∧ Looking f v' t' v'' := by
  induction t generalizing v with
  | nil => exact ⟨v, .nil, h⟩
  | cons x t ih =>
    cases h with
    | vacant h =>
      obtain ⟨v', h₁, h₂⟩ := ih h
      exact ⟨v', .vacant h₁, h₂⟩
    | newId h =>
      obtain ⟨v', h₁, h₂⟩ := ih h
      exact ⟨v', .newId h₁, h₂⟩
    | now h =>
      obtain ⟨v', h₁, h₂⟩ := ih h
      exact ⟨v', .now h₁, h₂⟩
    | opens hc h =>
      obtain ⟨v', h₁, h₂⟩ := ih h
      exact ⟨v', .opens hc h₁, h₂⟩
    | other hx h =>
      obtain ⟨v', h₁, h₂⟩ := ih h
      exact ⟨v', .other hx h₁, h₂⟩

theorem of_isTalk (h : ∀ x ∈ t, x.request.isTalk = false) : Looking f none t none := by
  induction t with
  | nil => exact .nil
  | cons x t ih =>
    rw [List.forall_mem_cons] at h
    exact .other (x.not_seeks_of_isTalk h.1) (ih h.2)

/-- What is vacant after the exchanges is what a hand remembers of them. -/
theorem vacant_foldl (h : Looking f v t v') {hand : Hand} (hv : hand.vacant = v) :
    (t.foldl Hand.after hand).vacant = v' := by
  induction h generalizing hand with
  | nil => exact hv
  | vacant _ ih => exact ih rfl
  | newId _ ih | now _ ih => exact ih hv
  | opens _ _ ih => exact ih rfl
  | @other x t v hx _ ih =>
    refine ih ?_
    obtain ⟨r, b⟩ := x
    cases r with
    | findConversation link filter => rcases b with e | - | c <;> first | rfl | cases hx
    | createConversation => cases hx
    | newId | now => exact hv
    | _ => rfl

theorem vacant_of (h : Looking f none t v) : (Hand.of t).vacant = v := h.vacant_foldl rfl

theorem next {x : Exchange} {log : List Exchange} (h : Looking f none (log ++ x :: t) v) :
    Looking f (Hand.of log).vacant [x] (Hand.of (log ++ [x])).vacant := by
  rw [← List.singleton_append] at h
  obtain ⟨v₁, h₁, h'⟩ := h.split
  obtain ⟨v₂, h₂, -⟩ := h'.split
  rw [h₁.vacant_of, (h₁.append h₂).vacant_of]
  exact h₂

end Looking

/-! ## Deliveries -/

theorem Request.not_isTalk_of_isSupply {r : Request} (h : r.isSupply = true) : r.isTalk = false := by
  cases r <;> trivial

theorem Request.not_isTalk_of_isLookup {r : Request} (h : r.isLookup = true) : r.isTalk = false := by
  cases r <;> trivial

theorem Request.not_isTalk_of_isFollowUp {r : Request} (h : r.isFollowUp = true) : r.isTalk = false := by
  cases r <;> trivial

/-- The drafts' messages are written, or attachments. -/
def Request.Records (ds : List Ingest.Draft) : Request → Prop
  | createMessage m => ∃ d ∈ ds, d.message = m
  | createAttachment _ => True
  | _ => False

theorem Request.Records.not_isTalk {ds : List Ingest.Draft} {r : Request} (h : r.Records ds) : r.isTalk = false := by
  cases r <;> first | rfl | cases h

namespace Ingest

variable {inbox : Inbox} {contact : ResolvedContact} {target : ResolvedChannel} {t : List Exchange}

/-- How a message can come to its conversation. -/
inductive JoinCase (inbox : Inbox) (contact : ResolvedContact) : List Exchange → Except DomainError Conversation → Prop
  | unread {e : DomainError} :
    JoinCase inbox contact [⟨.findConversation contact.contactInbox.id inbox.joinable, .error e⟩] (.error e)
  | joined {c : Conversation} :
    JoinCase inbox contact [⟨.findConversation contact.contactInbox.id inbox.joinable, .ok (some c)⟩] (.ok c)
  | opened {id : Snowflake} {now : Time} {b : Except DomainError Unit} :
    JoinCase inbox contact
      [⟨.findConversation contact.contactInbox.id inbox.joinable, .ok none⟩, ⟨.newId, id⟩, ⟨.now, now⟩,
        ⟨.createConversation (inbox.opening contact id now), b⟩]
      (b.map fun _ => inbox.opening contact id now)

theorem resolveConversation_cases {r : Except DomainError Conversation}
    (h : (resolveConversation inbox contact).run.Yields t r) : JoinCase inbox contact t r := by
  unfold resolveConversation at h
  rcases Attempt.yields_bind.1 h with ⟨e, h₁, rfl⟩ | ⟨t₁, found, t₂, rfl, h₁, h₂⟩
  · obtain rfl := Program.yields_request.1 h₁
    exact .unread
  obtain rfl := Program.yields_request.1 h₁
  cases found with
  | some c =>
    obtain ⟨rfl, rfl⟩ := h₂
    exact .joined
  | none =>
    obtain ⟨t₃, id, t₄, rfl, h₃, h₄⟩ := Attempt.yields_lift_bind.1 h₂
    obtain rfl := Program.yields_request.1 h₃
    obtain ⟨t₅, now, t₆, rfl, h₅, h₆⟩ := Attempt.yields_lift_bind.1 h₄
    obtain rfl := Program.yields_request.1 h₅
    rcases Attempt.yields_bind.1 h₆ with ⟨e, h₇, rfl⟩ | ⟨t₇, ⟨⟩, t₈, rfl, h₇, h₈⟩
    · obtain rfl := Program.yields_request.1 h₇
      exact .opened
    · obtain rfl := Program.yields_request.1 h₇
      obtain ⟨rfl, rfl⟩ := h₈
      exact .opened

theorem JoinCase.looking {r : Except DomainError Conversation} (h : JoinCase inbox contact t r) :
    Looking inbox.joinable none t none := by
  cases h with
  | unread | joined => exact .other rfl .nil
  | @opened id now b =>
    have hopens : Looking inbox.joinable (some contact.contactInbox.id)
        [⟨.createConversation (inbox.opening contact id now), b⟩] none :=
      .opens (c := inbox.opening contact id now) rfl .nil
    exact .vacant (.newId (.now hopens))

theorem write_records (source : String) (ds : List Draft) : (write source ds).run.Asks (·.Records ds) :=
  asks_write (fun r h => by cases r <;> trivial) fun d hd => ⟨d, hd, rfl⟩

theorem persist_looking {source : String} {m : InboundMessage} {new : NewContact} {r : Except DomainError EventOutcome}
    (h : (persist target source m new).run.Yields t r) : Looking target.inbox.joinable none t none := by
  cases persist_cases h with
  | unread | found => exact .other rfl .nil
  | unlinked => exact .other rfl (.other rfl .nil)
  | unjoined hj => exact .other rfl (.other rfl (resolveConversation_cases hj).looking)
  | drafted hj hd hw =>
    have hsupply := (drafts_supplies (drafter_supplies _ _ _ _) ..).mem hd
    exact .other rfl (.other rfl (((resolveConversation_cases hj).looking.append
      (.of_isTalk fun x hx => Request.not_isTalk_of_isSupply (hsupply x hx))).append
        (.of_isTalk fun x hx => Request.Records.not_isTalk ((write_records ..).mem hw x hx))))

theorem handleEvent_looking {e : IncomingEvent} {r : Except DomainError EventOutcome}
    (h : (handleEvent target e).run.Yields t r) : Looking target.inbox.joinable none t none := by
  cases handleEvent_cases h with
  | unfit => exact .nil
  | claimed _ _ hc =>
    cases hc with
    | failed | denied => exact .other rfl .nil
    | granted hp => exact .other rfl ((persist_looking hp).append (.other rfl .nil))
  | reported _ hr =>
    exact .of_isTalk fun x hx => Request.not_isTalk_of_isFollowUp ((reconcile_asks ..).mem hr x hx)
  | announced _ hr =>
    cases resolveCard_yields hr with
    | missing => exact .nil
    | resolved | refused => exact .other rfl .nil

theorem handleEvents_looking {es : List IncomingEvent} {r : Except DomainError (List EventOutcome)}
    (h : (handleEvents target es).run.Yields t r) : Looking target.inbox.joinable none t none := by
  induction es generalizing t r with
  | nil =>
    obtain ⟨rfl, -⟩ := h
    exact .nil
  | cons e es ih =>
    rcases handleEvents_cons h with ⟨error, h₁, -⟩ | ⟨t₁, outcome, t₂, rest, rfl, h₁, h₂, -⟩
    · exact handleEvent_looking h₁
    · exact (handleEvent_looking h₁).append (ih h₂)

end Ingest

theorem performOn_looking {job : WebhookJob} {resolution : Resolution} {t : List Exchange}
    {r : Except DomainError IngestReport} (h : (performOn job resolution).run.Yields t r) {f : ConversationFilter}
    (hf : ∀ target, resolution = .active target → target.inbox.joinable = f) : Looking f none t none := by
  cases resolution with
  | active target =>
    rw [← hf target rfl]
    obtain ⟨_, hevents, -⟩ := performOn_active h
    exact Ingest.handleEvents_looking hevents
  | _ =>
    obtain ⟨rfl, -⟩ := h
    exact .nil

theorem resolve_looking {job : WebhookJob} {q : List Exchange} {res : Except DomainError Resolution}
    (h : (Routing.resolve job).run.Yields q res) (f : ConversationFilter) : Looking f none q none :=
  .of_isTalk fun x hx => Request.not_isTalk_of_isLookup ((Routing.resolve_lookups job).mem h x hx)

/-- Whatever a delivery is told about its tenants, it looks for conversations with one filter. -/
theorem exists_looking {job : WebhookJob} {t : List Exchange} {r : Except DomainError IngestReport}
    (h : (perform job).run.Yields t r) : ∃ f, Looking f none t none := by
  obtain ⟨q, t', res, rfl, hq, ⟨e, -, rfl, -⟩ | ⟨resolution, -, h'⟩⟩ := perform_resolves h
  · exact ⟨.any, (resolve_looking hq .any).append .nil⟩
  cases resolution with
  | active target =>
    have hf : ∀ target', Resolution.active target = .active target' →
        target'.inbox.joinable = target.inbox.joinable := by
      rintro _ ⟨⟩
      rfl
    exact ⟨_, (resolve_looking hq _).append (performOn_looking h' hf)⟩
  | _ => exact ⟨.any, (resolve_looking hq .any).append (performOn_looking h' nofun)⟩

/-- Which conversations a message of the job may join. -/
def Tables.joinable (tb : Tables) (job : WebhookJob) : ConversationFilter :=
  match tb.route job with
  | .active target => target.inbox.joinable
  | _ => .any

theorem perform_looking {tb : Tables} {job : WebhookJob} {t : List Exchange} {r : Except DomainError IngestReport}
    (h : (perform job).run.Yields t r) (ht : ∀ x ∈ t, x.Fits tb) : Looking (tb.joinable job) none t none := by
  obtain ⟨q, t', res, rfl, hq, ⟨e, -, rfl, -⟩ | ⟨resolution, rfl, h'⟩⟩ := perform_resolves h
  · exact (resolve_looking hq _).append .nil
  · have hroute := Routing.resolve_yields hq (List.forall_mem_append.1 ht).1
    refine (resolve_looking hq _).append (performOn_looking h' fun target htarget => ?_)
    rw [Tables.joinable, ← hroute, htarget]

namespace JobRunner

theorem Tried.looking {tb : Tables} {job : WebhookJob} {t : List Exchange} (h : Tried (perform job) t)
    (ht : ∀ x ∈ t, x.Fits tb) : Looking (tb.joinable job) none t none := by
  induction h with
  | nil => exact .nil
  | cons hy _ _ ih =>
    obtain ⟨hfirst, hrest⟩ := List.forall_mem_append.1 ht
    exact (perform_looking hy hfirst).append (.other rfl (ih (List.forall_mem_cons.1 hrest).2))

theorem run_looking {tb : Tables} {maxAttempts line : Nat} {job : WebhookJob} {t : List Exchange} {out : JobOutput}
    (h : (run maxAttempts line job).Yields t out) (ht : ∀ x ∈ t, x.Fits tb) :
    Looking (tb.joinable job) none t none := by
  obtain ⟨t₁, ⟨attempts, result⟩, t₂, rfl, h₁, rfl, -⟩ := Program.yields_bind.1 h
  rw [List.append_nil] at ht ⊢
  obtain ⟨before, last, rfl, hbefore, hlast⟩ := retry_tried h₁
  obtain ⟨hfirst, hrest⟩ := List.forall_mem_append.1 ht
  exact (hbefore.looking hfirst).append (perform_looking hlast hrest)

end JobRunner

end Intake
