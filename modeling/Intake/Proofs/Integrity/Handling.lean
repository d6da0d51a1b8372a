import Intake.Delivery.Run
import Intake.Proofs.Delivery.Quiet
import Intake.Proofs.Integrity.Guided
import Intake.Proofs.Routing.Named

/-!
# Handling events is guided

Every part of a delivery asks only for what `Request.Admits` admits: one lemma for each, from those of what it calls.
What is drafted waits with its ids in hand, so a lemma about drafts says which part of the hand they take up.
-/

namespace Intake

open Program

/-- Nothing is said about what is returned. -/
abbrev Anything {α : Type} : Hand → Tables → α → Prop := fun _ _ _ => True

/-- What a delivery to the target may ask for. -/
def Guide.of (target : ResolvedChannel) : Guide := fun h t r => r.Admits target h t

/-- The message belongs to the conversation with the contact, in the target's inbox. -/
structure Message.Joins (target : ResolvedChannel) (conversation contact : Snowflake) (m : Message) : Prop where
  inbox : m.inbox = target.inbox.id
  account : m.account = target.inbox.account
  conversation : m.conversation = conversation
  sender : m.sender = some contact

theorem Message.Joins.refersIn {target : ResolvedChannel} {conversation contact : Snowflake} {m : Message} {t : Tables}
    (h : m.Joins target conversation contact)
    (hc : t.HasConversation conversation target.inbox.id target.inbox.account contact) : m.RefersIn t := by
  refine ⟨contact, h.sender, ?_⟩
  rwa [h.conversation, h.inbox, h.account]

/-- The attachment belongs to the message. -/
structure Attachment.Of (m : Message) (a : Attachment) : Prop where
  message : a.message = m.id
  account : a.account = m.account
  typed : a.Typed

/-- The contact is one of the inbox, as it is made from a sender. -/
structure NewContact.For (i : Inbox) (new : NewContact) : Prop where
  inbox : new.inbox = i.id
  account : new.account = i.account
  digits : IsDigits new.sourceId
  phone : new.phoneNumber = "+" ++ new.sourceId

theorem NewContact.for_of_sender {i : Inbox} {sender : Option Sender} {new : NewContact}
    (hnew : sender.bind (NewContact.ofSender? i) = some new) : new.For i := by
  obtain ⟨s, -, hs⟩ := Option.bind_eq_some_iff.1 hnew
  obtain ⟨digits, hdigits, rfl⟩ := Option.map_eq_some_iff.1 hs
  obtain ⟨⟨c, hc, hdigit⟩, rfl⟩ := phoneDigits?_eq_some_iff.1 hdigits
  refine ⟨rfl, rfl, ⟨fun hempty => ?_, fun c hc => ?_⟩, rfl⟩
  · have hmem : c ∈ s.phone.toList.filter Char.isDigit := List.mem_filter.2 ⟨hc, hdigit⟩
    rw [String.ofList_eq_empty_iff.1 hempty] at hmem
    cases hmem
  · rw [String.toList_ofList] at hc
    exact (List.mem_filter.1 hc).2

theorem Multiset.le_erase_of_cons_le {α : Type} [DecidableEq α] {a : α} {s t : Multiset α} (h : a ::ₘ s ≤ t) :
    s ≤ t.erase a := by
  rw [← Multiset.erase_cons_head a s]
  exact Multiset.erase_le_erase a h

namespace Ingest

variable {target : ResolvedChannel} {h : Hand} {t : Tables} {held : Multiset Snowflake} {source : String}

/-! ## Conversations -/

theorem resolveConversation_guided {contact : ResolvedContact} (hd : t.DistinctIds)
    (hi : t.HasInbox target.inbox.id target.inbox.account)
    (hl : t.HasLink contact.contactInbox.id target.inbox.id contact.contact.id) :
    Attempt.Guided (.of target)
      (fun _ t c => t.HasConversation c.id target.inbox.id target.inbox.account contact.contact.id)
      (resolveConversation target.inbox contact) h t := by
  unfold resolveConversation
  refine .bind (Q := fun h t found =>
      (∀ c, found = some c → t.HasConversation c.id target.inbox.id target.inbox.account contact.contact.id) ∧
        (found = none → h.vacant = some contact.contactInbox.id)) hd
    ⟨⟨rfl, _, hl⟩, fun b t' hg hd' hr found hb => ?_⟩ fun h₁ t₁ found hg₁ hd₁ hfound => ?_
  · obtain rfl : b = .ok found := hb
    refine ⟨fun c hc => ?_, fun hc => ?_⟩
    · subst hc
      obtain ⟨hc, hi', hl'⟩ := hr
      obtain ⟨hinbox, hcontact⟩ := hd'.link_unique hl' (hg.hasLink hl)
      rw [hinbox, hcontact] at hc
      rw [hinbox] at hi'
      rwa [hd'.inbox_unique hi' (hg.hasInbox hi)] at hc
    · subst hc
      rfl
  · cases found with
    | some c => exact .pure (hfound.1 c rfl)
    | none =>
      refine .bind (Q := fun h _ id => id ∈ h.held ∧ h.vacant = some contact.contactInbox.id) hd₁
        (.lift ⟨trivial, fun id t' _ _ _ => ⟨Multiset.mem_cons_self _ _, hfound.2 rfl⟩⟩)
        fun h₂ t₂ id hg₂ hd₂ hid => ?_
      refine .bind (Q := fun h _ _ => id ∈ h.held ∧ h.vacant = some contact.contactInbox.id) hd₂
        (.lift ⟨trivial, fun now t' _ _ _ => hid⟩) fun h₃ t₃ now hg₃ hd₃ hid₃ => ?_
      have hg := (hg₁.trans hg₂).trans hg₃
      refine .bind (Q := fun _ t _ =>
          t.HasConversation id target.inbox.id target.inbox.account contact.contact.id) hd₃
        ⟨⟨hid₃.1, hid₃.2, rfl, rfl, rfl, hg.hasInbox hi, hg.hasLink hl⟩, fun b t' _ _ hr u hb => ?_⟩
        fun h₄ t₄ _ _ _ hc => .pure hc
      obtain rfl : b = .ok u := hb
      exact hr

/-! ## Drafts -/

namespace Draft

def ids (d : Draft) : Multiset Snowflake := d.message.id ::ₘ (d.attachments.map (·.id) : List Snowflake)

/-- The draft belongs to the conversation with the contact. -/
structure Joins (target : ResolvedChannel) (conversation contact : Snowflake) (d : Draft) : Prop where
  message : d.message.Joins target conversation contact
  attachments : ∀ a ∈ d.attachments, a.Of d.message

end Draft

theorem drafter_guided {conversation : Conversation} {contact : Contact} {replyTo : Option String} {content : String}
    (hh : held ≤ h.held) :
    (drafter target.inbox conversation contact replyTo content source).Guided (.of target)
      (fun h _ m => m.id ::ₘ held ≤ h.held ∧ m.Joins target conversation.id contact.id) h t :=
  ⟨trivial, fun id _ _ _ _ => ⟨trivial, fun _ _ _ _ _ =>
    ⟨Multiset.cons_le_cons id hh, ⟨rfl, rfl, rfl, rfl⟩⟩⟩⟩

theorem fallbacks_guided {m : Message} {titles : List String} (hh : held ≤ h.held) :
    (fallbacks m titles).Guided (.of target)
      (fun h _ as => ((as.map (·.id) : List Snowflake) :
    Multiset Snowflake) + held ≤ h.held ∧ ∀ a ∈ as, a.Of m) h t := by
  induction titles generalizing h t held with
  | nil => exact ⟨by simpa using hh, fun a ha => nomatch ha⟩
  | cons title titles ih =>
    refine ⟨trivial, fun id t' _ _ _ => .of_bind (p := fallbacks m titles) ?_⟩
    have hid : id ::ₘ held ≤ (h.after ⟨.newId, id⟩).held := Multiset.cons_le_cons id hh
    refine (ih hid).imp fun h t as ⟨hids, hof⟩ => ?_
    refine ⟨?_, List.forall_mem_cons.2 ⟨⟨rfl, rfl, rfl⟩, hof⟩⟩
    rw [Multiset.add_cons] at hids
    rwa [List.map_cons, ← Multiset.cons_coe, Multiset.cons_add]

theorem fileType_of_fetched {s : MessageSubtype} (hs : s.skipsMediaFetch = false) :
    s.fileType = .image ∨ s.fileType = .audio ∨ s.fileType = .video ∨ s.fileType = .file := by
  cases s <;> first | exact absurd hs (by decide) | simp [MessageSubtype.fileType]

theorem attachments_guided {m : Message} {message : InboundMessage} (hh : held ≤ h.held) :
    (attachments target.channel m message).Guided (.of target)
      (fun h _ as => ((as.map (·.id) : List Snowflake) :
    Multiset Snowflake) + held ≤ h.held ∧ ∀ a ∈ as, a.Of m) h t := by
  have hnone : ∀ {h : Hand} {t : Tables}, held ≤ h.held → (Program.done ([] : List Attachment)).Guided (.of target)
      (fun h _ as => ((as.map (·.id) : List Snowflake) : Multiset Snowflake) + held ≤ h.held ∧ ∀ a ∈ as, a.Of m) h t :=
    fun hh => ⟨by simpa using hh, fun a ha => nomatch ha⟩
  unfold attachments
  split
  · exact ⟨trivial, fun id _ _ _ _ =>
      ⟨Multiset.cons_le_cons id hh, List.forall_mem_singleton.2 ⟨rfl, rfl, rfl⟩⟩⟩
  · split
    · exact hnone hh
    · next hs =>
      refine ⟨trivial, fun file t' _ _ _ => ?_⟩
      cases file with
      | none => exact hnone hh
      | some f =>
        refine ⟨trivial, fun id _ _ _ _ => ⟨Multiset.cons_le_cons id hh, List.forall_mem_singleton.2 ⟨rfl, rfl, ?_⟩⟩⟩
        exact fileType_of_fetched (by simpa using hs)
  · exact hnone hh

/-- What is drafted is in hand, beside what was there. -/
def Drafted (target : ResolvedChannel) (conversation contact : Snowflake) (held : Multiset Snowflake) (h : Hand)
    (ds : List Draft) : Prop :=
  (ds.map Draft.ids).sum + held ≤ h.held ∧ ∀ d ∈ ds, d.Joins target conversation contact

theorem draftCards_guided {conversation : Conversation} {contact : Contact} {replyTo : Option String} {index : Nat}
    {cards : List ContactCard} (hd : t.DistinctIds) (hh : held ≤ h.held) :
    (draftCards (drafter target.inbox conversation contact replyTo) source index cards).Guided (.of target)
      (fun h _ ds => Drafted target conversation.id contact.id held h ds) h t := by
  induction cards generalizing h t held index with
  | nil => exact ⟨by simpa using hh, fun d hd => nomatch hd⟩
  | cons card cards ih =>
    refine .bind hd (drafter_guided hh) fun h₁ t₁ m _ hd₁ ⟨hm, hjoins⟩ => ?_
    refine .bind hd₁ (fallbacks_guided hm) fun h₂ t₂ as _ hd₂ ⟨has, hof⟩ => ?_
    refine .of_bind ((ih hd₂ has).imp fun h₃ t₃ ds ⟨hds, hall⟩ => ?_)
    refine ⟨?_, List.forall_mem_cons.2 ⟨⟨hjoins, hof⟩, hall⟩⟩
    rw [List.map_cons, List.sum_cons, Draft.ids]
    refine le_trans (le_of_eq ?_) hds
    simp only [Multiset.cons_add, Multiset.add_cons]
    ac_rfl

theorem drafts_guided {conversation : Conversation} {contact : Contact} {replyTo : Option String}
    {message : InboundMessage} (hd : t.DistinctIds) :
    (drafts (drafter target.inbox conversation contact replyTo) target.channel source message).Guided (.of target)
      (fun h _ ds => Drafted target conversation.id contact.id 0 h ds) h t := by
  unfold drafts
  split
  · exact draftCards_guided hd (Multiset.zero_le _)
  · refine .bind hd (drafter_guided (Multiset.zero_le _)) fun h₁ t₁ m _ hd₁ ⟨hm, hjoins⟩ => ?_
    refine .of_bind ((attachments_guided hm).imp fun h₂ t₂ as ⟨has, hof⟩ => ?_)
    refine ⟨?_, List.forall_mem_singleton.2 ⟨hjoins, hof⟩⟩
    rw [Multiset.add_cons, add_zero] at has
    simpa only [List.map_singleton, List.sum_singleton, add_zero, Draft.ids] using has

/-! ## Writing -/

theorem writeAttachments_guided {as : List Attachment} (hd : t.DistinctIds)
    (hids : ((as.map (·.id) : List Snowflake) : Multiset Snowflake) + held ≤ h.held)
    (hof : ∀ a ∈ as, a.account = target.inbox.account ∧ a.Typed ∧ t.HasMessage a.message target.inbox.id a.account) :
    (writeAttachments as).Guided (.of target) (fun h _ _ => held ≤ h.held) h t := by
  induction as generalizing h t with
  | nil => simpa [writeAttachments, Program.Guided] using hids
  | cons a as ih =>
    obtain ⟨⟨hacc, htyped, hm⟩, hrest⟩ := List.forall_mem_cons.1 hof
    rw [List.map_cons, ← Multiset.cons_coe, Multiset.cons_add] at hids
    refine ⟨⟨Multiset.mem_of_le hids (Multiset.mem_cons_self _ _), hacc, htyped, hm⟩, fun b t' hg hd' _ => ?_⟩
    refine .of_bind (p := writeAttachments as) ((ih hd' (Multiset.le_erase_of_cons_le hids) fun a ha => ?_).imp
      fun _ _ _ hheld => hheld)
    obtain ⟨hacc, htyped, hm⟩ := hrest a ha
    exact ⟨hacc, htyped, hg.hasMessage hm⟩

theorem createMessage_guided {conversation contact : Snowflake} {d : Draft} (hids : d.ids + held ≤ h.held)
    (hjoins : d.Joins target conversation contact)
    (hc : t.HasConversation conversation target.inbox.id target.inbox.account contact) :
    (Ask.createMessage d.message).run.Guided (.of target)
      (fun h t b => ((d.attachments.map (·.id) : List Snowflake) : Multiset Snowflake) + held ≤ h.held ∧
        (b = .ok () → ∀ a ∈ d.attachments, a.account = target.inbox.account ∧ a.Typed ∧
          t.HasMessage a.message target.inbox.id a.account)) h t := by
  rw [Draft.ids, Multiset.cons_add] at hids
  refine ⟨⟨Multiset.mem_of_le hids (Multiset.mem_cons_self _ _), hjoins.message.inbox, hjoins.message.account,
    hjoins.message.refersIn hc⟩, fun b t' _ _ hr => ⟨Multiset.le_erase_of_cons_le hids, fun hb a ha => ?_⟩⟩
  subst hb
  have hm : t'.HasMessage d.message.id d.message.inbox d.message.account := hr
  obtain ⟨hmessage, haccount, htyped⟩ := hjoins.attachments a ha
  refine ⟨haccount.trans hjoins.message.account, htyped, ?_⟩
  rwa [hmessage, haccount, ← hjoins.message.inbox]

theorem writeRest_guided {conversation contact : Snowflake} {messages : List Snowflake} {count : Nat} {ds : List Draft}
    (hd : t.DistinctIds) (hids : (ds.map Draft.ids).sum ≤ h.held)
    (hjoins : ∀ d ∈ ds, d.Joins target conversation contact)
    (hc : t.HasConversation conversation target.inbox.id target.inbox.account contact) :
    Attempt.Guided (.of target) Anything (writeRest source messages count ds) h t := by
  induction ds generalizing h t messages count with
  | nil => exact .pure trivial
  | cons d ds ih =>
    rw [List.map_cons, List.sum_cons] at hids
    obtain ⟨hd₀, hjoins⟩ := List.forall_mem_cons.1 hjoins
    unfold writeRest
    refine .bind hd (.lift (createMessage_guided hids hd₀ hc)) fun h₁ t₁ b hg₁ hd₁ ⟨hids₁, hof⟩ => ?_
    have hrest : (ds.map Draft.ids).sum ≤ h₁.held := (Multiset.le_add_left _ _).trans hids₁
    split
    · refine .bind hd₁ (.lift (writeAttachments_guided hd₁ hids₁ (hof rfl))) fun h₂ t₂ n hg₂ hd₂ hids₂ => ?_
      exact ih hd₂ hids₂ hjoins ((hg₁.trans hg₂).hasConversation hc)
    · exact ih hd₁ hrest hjoins (hg₁.hasConversation hc)
    · exact .throw

theorem write_guided {conversation contact : Snowflake} {ds : List Draft} (hd : t.DistinctIds)
    (hds : Drafted target conversation contact 0 h ds)
    (hc : t.HasConversation conversation target.inbox.id target.inbox.account contact) :
    Attempt.Guided (.of target) Anything (write source ds) h t := by
  obtain ⟨hids, hjoins⟩ := hds
  rw [add_zero] at hids
  cases ds with
  | nil => exact .pure trivial
  | cons d ds =>
    rw [List.map_cons, List.sum_cons] at hids
    obtain ⟨hd₀, hjoins⟩ := List.forall_mem_cons.1 hjoins
    unfold write
    refine .bind hd (.lift (createMessage_guided hids hd₀ hc)) fun h₁ t₁ b hg₁ hd₁ ⟨hids₁, hof⟩ => ?_
    split
    · refine .bind hd₁ (.lift (writeAttachments_guided hd₁ hids₁ (hof rfl))) fun h₂ t₂ n hg₂ hd₂ hids₂ => ?_
      exact writeRest_guided hd₂ hids₂ hjoins ((hg₁.trans hg₂).hasConversation hc)
    · exact .pure trivial
    · exact .throw

/-! ## Events -/

theorem upsertContact_guided {new : NewContact} (hi : t.HasInbox target.inbox.id target.inbox.account)
    (hnew : new.For target.inbox) :
    (Ask.upsertContact new).run.Guided (.of target)
      (fun _ t b => ∀ found, b = .ok found →
        t.HasLink found.contactInbox.id target.inbox.id found.contact.id) h t := by
  refine ⟨⟨hnew.inbox, hnew.account, hnew.digits, hnew.phone, ?_⟩, fun b t' _ _ hr found hb => ?_⟩
  · rwa [hnew.inbox, hnew.account]
  · subst hb
    exact hnew.inbox ▸ hr

theorem persist_guided {message : InboundMessage} {new : NewContact} (hd : t.DistinctIds)
    (hi : t.HasInbox target.inbox.id target.inbox.account) (hnew : new.For target.inbox) :
    Attempt.Guided (.of target) Anything (persist target source message new) h t := by
  unfold persist
  refine .bind (Q := Anything) hd ⟨rfl, fun _ _ _ _ _ _ _ => trivial⟩ fun h₁ t₁ stored hg₁ hd₁ _ => ?_
  split
  · exact .pure trivial
  · refine .bind hd₁ (upsertContact_guided (hg₁.hasInbox hi) hnew) fun h₂ t₂ contact hg₂ hd₂ hl => ?_
    have hi₂ := (hg₁.trans hg₂).hasInbox hi
    refine .bind hd₂ (resolveConversation_guided hd₂ hi₂ hl) fun h₃ t₃ conversation hg₃ hd₃ hc => ?_
    refine .bind hd₃ (.lift (drafts_guided hd₃)) fun h₄ t₄ ds hg₄ hd₄ hds => ?_
    exact write_guided hd₄ hds (hg₄.hasConversation hc)

theorem claimed_guided {body : Attempt EventOutcome} (hd : t.DistinctIds)
    (hbody : ∀ h t', t.Grows t' → t'.DistinctIds → Attempt.Guided (.of target) Anything body h t') :
    Attempt.Guided (.of target) Anything (claimed target.channel.id source body) h t := by
  unfold claimed
  refine .bind (Q := Anything) hd ⟨rfl, fun _ _ _ _ _ _ _ => trivial⟩ fun h₁ t₁ granted hg₁ hd₁ _ => ?_
  split
  · refine .bind (Q := Anything) hd₁ (.lift (Program.Guided.imp (hbody h₁ t₁ hg₁ hd₁) fun _ _ _ _ => trivial))
      fun h₂ t₂ result _ hd₂ _ => ?_
    refine .bind (Q := Anything) hd₂ (.lift ⟨rfl, fun _ _ _ _ _ => trivial⟩) fun h₃ t₃ _ _ _ _ => ?_
    exact fun _ _ => trivial
  · exact .pure trivial

theorem sender_of_accept {inbox : Inbox} {sender : Option Sender} {message : InboundMessage} {new : NewContact}
    (h : accept inbox sender message = .ok new) : sender.bind (NewContact.ofSender? inbox) = some new := by
  unfold accept at h
  split at h
  · cases h
  · split at h
    · cases h
    · split at h
      · cases h
      · next hnew =>
        cases h
        exact hnew

theorem ingestMessage_guided {sender : Option Sender} {message : InboundMessage} (hd : t.DistinctIds)
    (hi : t.HasInbox target.inbox.id target.inbox.account) :
    Attempt.Guided (.of target) Anything (ingestMessage target source sender message) h t := by
  unfold ingestMessage
  split
  · exact .pure trivial
  · next new haccept =>
    refine claimed_guided hd fun h t' hg hd' => persist_guided hd' (hg.hasInbox hi) ?_
    exact NewContact.for_of_sender (sender_of_accept haccept)

theorem reconcile_guided {report : StatusReport} :
    (reconcile target.inbox source report).Guided (.of target) Anything h t := by
  unfold reconcile
  refine ⟨rfl, fun b t' _ _ hr => ?_⟩
  rcases b with e | _ | m
  · exact trivial
  · exact trivial
  · dsimp only
    split
    · exact trivial
    · refine ⟨⟨m.account, hr⟩, fun b t' _ _ _ => ?_⟩
      cases b <;> exact trivial

theorem resolveCard_guided {sender : Option Sender} (hi : t.HasInbox target.inbox.id target.inbox.account) :
    (resolveCard target.inbox source sender).Guided (.of target) Anything h t := by
  unfold resolveCard
  split
  · exact trivial
  · next new hnew =>
    refine .of_bind ((upsertContact_guided hi (NewContact.for_of_sender hnew)).imp fun h t b _ => ?_)
    cases b <;> exact trivial

theorem handleEvent_guided {event : IncomingEvent} (hd : t.DistinctIds)
    (hi : t.HasInbox target.inbox.id target.inbox.account) :
    Attempt.Guided (.of target) Anything (handleEvent target event) h t := by
  unfold handleEvent
  split
  · exact ingestMessage_guided hd hi
  · exact .lift reconcile_guided
  · exact .lift (resolveCard_guided hi)

theorem handleEvents_guided {events : List IncomingEvent} (hd : t.DistinctIds)
    (hi : t.HasInbox target.inbox.id target.inbox.account) :
    Attempt.Guided (.of target) Anything (handleEvents target events) h t := by
  induction events generalizing h t with
  | nil => exact .pure trivial
  | cons e es ih =>
    unfold handleEvents
    refine .bind hd (handleEvent_guided hd hi) fun h₁ t₁ outcome hg₁ hd₁ _ => ?_
    exact .bind hd₁ (ih hd₁ (hg₁.hasInbox hi)) fun _ _ _ _ _ _ => .pure trivial

end Ingest

/-! ## Deliveries -/

/-- What a delivery to some target may ask for. -/
def Guide.any : Guide := fun h t r => ∃ target, r.Admits target h t

theorem Request.admits_of_isLookup {r : Request} (hr : r.isLookup = true) (target : ResolvedChannel) (h : Hand)
    (t : Tables) : r.Admits target h t := by
  cases r <;> trivial

theorem Program.Guided.of_lookups {α : Type} {p : Program α} {h : Hand} {t : Tables} (hp : Routing.Lookups p)
    (target : ResolvedChannel) : p.Guided (.of target) Anything h t := by
  induction p generalizing h t with
  | done a => trivial
  | ask r next ih => exact ⟨Request.admits_of_isLookup hp.1 _ _ _, fun b t' _ _ _ => ih b (hp.2 b)⟩

variable {job : WebhookJob} {target : ResolvedChannel} {h : Hand} {t : Tables}

theorem Routing.resolve_guided (hd : t.DistinctIds) :
    Attempt.Guided .any
      (fun _ t resolution => ∀ target, resolution = .active target →
        t.HasInbox target.inbox.id target.inbox.account) (resolve job) h t := by
  have hlookup : ∀ {r : Request} {h : Hand} {t : Tables}, r.isLookup = true → Guide.any h t r :=
    fun hr => ⟨⟨default, default⟩, Request.admits_of_isLookup hr _ _ _⟩
  unfold resolve
  have hfind : (findChannel job).run.Guided .any Anything h t :=
    (Program.Guided.of_lookups (findChannel_lookups job) ⟨default, default⟩).imp_guide fun _ _ _ hr => ⟨_, hr⟩
  refine .bind (Q := Anything) hd (hfind.imp fun _ _ _ _ _ _ => trivial) fun h₁ t₁ channel _ hd₁ _ => ?_
  split
  · exact .pure nofun
  · split
    · exact .pure nofun
    · refine .bind (Q := Anything) hd₁ ⟨hlookup rfl, fun _ _ _ _ _ _ _ => trivial⟩ fun h₂ t₂ status _ hd₂ _ => ?_
      split
      · exact .pure nofun
      · refine .bind (Q := fun _ t found => ∀ i, found = some i → t.HasInbox i.id i.account) hd₂
          ⟨hlookup rfl, fun b t' _ _ hr found hb i hi => ?_⟩ fun h₃ t₃ found _ _ hfound => ?_
        · subst hb hi
          exact hr
        · split
          · next i =>
            refine .pure fun target htarget => ?_
            cases htarget
            exact hfound i rfl
          · exact .pure nofun

theorem performOn_guided (hd : t.DistinctIds) (hi : t.HasInbox target.inbox.id target.inbox.account) :
    (performOn job (.active target)).run.Guided (.of target) Anything h t := by
  refine Program.Guided.imp (Q := Attempt.Returns Anything) ?_ fun _ _ _ _ => trivial
  exact Attempt.Guided.bind hd (Ingest.handleEvents_guided hd hi) fun _ _ _ _ _ _ => .pure trivial

theorem perform_guided (hd : t.DistinctIds) : (perform job).run.Guided .any Anything h t := by
  refine Program.Guided.imp (Q := Attempt.Returns Anything) ?_ fun _ _ _ _ => trivial
  refine Attempt.Guided.bind hd (Routing.resolve_guided hd) fun h₁ t₁ resolution _ hd₁ hi => ?_
  cases resolution with
  | active target =>
    refine Program.Guided.imp (Q := Anything) ?_ fun _ _ _ _ _ _ => trivial
    exact (performOn_guided hd₁ (hi target rfl)).imp_guide fun _ _ _ hr => ⟨target, hr⟩
  | notFound | inactive => exact .pure trivial

namespace JobRunner

theorem retry_guided {left attempt : Nat} (hd : t.DistinctIds) :
    (retry (perform job) left attempt).Guided .any Anything h t := by
  induction left generalizing attempt h t with
  | zero => exact .bind hd (perform_guided hd) fun _ _ _ _ _ _ => trivial
  | succ left ih =>
    refine .bind hd (perform_guided hd) fun h₁ t₁ r _ hd₁ _ => ?_
    cases r with
    | ok => trivial
    | error e =>
      dsimp only
      split
      · have hpause : Program.Guided .any Anything (Ask.pause (backoff attempt)) h₁ t₁ :=
          ⟨⟨⟨default, default⟩, trivial⟩, fun _ _ _ _ _ => trivial⟩
        exact .bind hd₁ hpause fun _ _ _ _ hd₂ _ => ih hd₂
      · trivial

theorem run_guided {maxAttempts line : Nat} (hd : t.DistinctIds) :
    (run maxAttempts line job).Guided .any Anything h t :=
  .bind hd (retry_guided hd) fun _ _ _ _ _ _ => trivial

end JobRunner

end Intake
