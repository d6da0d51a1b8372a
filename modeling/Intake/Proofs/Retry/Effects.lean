import Intake.Delivery.Run
import Intake.Proofs.Retry.Plan
import Intake.Proofs.Tenants.Within

/-!
# What an event does to the tables

`Tables.Takes` says how tables may change so that a plan is carried out, and `Tables.Halts` how if the message could not
be written in the end: then its contact and its conversation are there already. What has been begun is found the next
time, and what is done is not done again, so that a list of events that was broken off and is then taken from the start
has done the same as if it had not been broken off (`HaltsIn.takesAll`).
-/

namespace Intake

open Ingest

theorem Message.key_of_record (m n : Message) (h : m.record = n.record) : m.key = n.key := by
  obtain ⟨-, -, hinbox, -, -, -, -, hsource, -⟩ := record_eq_iff.1 h
  rw [key, key, hinbox, hsource]

namespace Tables

/-- The tables with every message as it was written, whatever its status. -/
def recorded (t : Tables) : Tables := { t with messages := t.records }

def addDraft (t : Tables) (d : Draft) : Tables :=
  { t with messages := t.messages ++ [d.message], attachments := t.attachments ++ d.attachments }

/-- The ids of all rows are different. -/
structure Spread (t : Tables) : Prop where
  made : t.made.Nodup
  kept : t.kept.Nodup

/-- Every link leads to a contact. -/
def Rooted (t : Tables) : Prop := ∀ l ∈ t.contactInboxes, ∃ c ∈ t.contacts, c.id = l.contact

/-! ## Steps -/

/-- The sender is linked: as before, or to the contact with its phone number, or to a new one. -/
inductive Links (new : NewContact) (t : Tables) : ResolvedContact → Tables → Prop
  | linked {c : Contact} {l : ContactInbox} :
    t.findContactInbox new.inbox new.sourceId = some l → t.findContact l.contact = some c → Links new t ⟨c, l⟩ t
  | known {c : Contact} {l : ContactInbox} :
    t.findContactInbox new.inbox new.sourceId = none → t.findContactByPhone new.account new.phoneNumber = some c →
      l = { id := l.id, contact := c.id, inbox := new.inbox, sourceId := new.sourceId } →
      Links new t ⟨c, l⟩ (t.addContactInbox l)
  | new {c : Contact} {l : ContactInbox} :
    t.findContactInbox new.inbox new.sourceId = none → t.findContactByPhone new.account new.phoneNumber = none →
      c = { id := c.id, account := new.account, name := new.name, phoneNumber := some new.phoneNumber } →
      l = { id := l.id, contact := c.id, inbox := new.inbox, sourceId := new.sourceId } →
      Links new t ⟨c, l⟩ ((t.addContact c).addContactInbox l)

/-- The conversation is the one that the inbox lets a new message join, or a new one. -/
inductive Joins (inbox : Inbox) (contact : ResolvedContact) (t : Tables) : Conversation → Tables → Prop
  | existing {v : Conversation} :
    t.findConversation contact.contactInbox.id inbox.joinable = some v → Joins inbox contact t v t
  | opened {v : Conversation} :
    t.findConversation contact.contactInbox.id inbox.joinable = none →
      v = { id := v.id, account := inbox.account, inbox := inbox.id, contact := contact.contact.id,
            contactInbox := contact.contactInbox.id, status := .open, createdAt := v.createdAt } →
      Joins inbox contact t v (t.addConversation v)

/-- Everything is ready for a message of the contact. -/
inductive Readies (inbox : Inbox) (new : NewContact) (t : Tables) : ResolvedContact → Conversation → Tables → Prop
  | mk {c : ResolvedContact} {v : Conversation} {t₁ t' : Tables} :
    t.Links new c t₁ → t₁.Joins inbox c v t' → Readies inbox new t c v t'

inductive Takes (inbox : Inbox) (source : String) : Plan → Tables → Tables → Prop
  | nothing {t : Tables} : Takes inbox source .nothing t t
  | contact {new : NewContact} {c : ResolvedContact} {t t' : Tables} :
    t.Links new c t' → Takes inbox source (.contact new) t t'
  /-- The message is there already. -/
  | stored {new : NewContact} {letter : Letter} {t : Tables} :
    (inbox.id, source) ∈ t.keys → Takes inbox source (.message new letter) t t
  | written {new : NewContact} {letter : Letter} {c : ResolvedContact} {v : Conversation} {d : Draft} {t t' : Tables} :
    (inbox.id, source) ∉ t.keys → t.Readies inbox new c v t' → letter.Conveys inbox source v c.contact d →
      Takes inbox source (.message new letter) t (t'.addDraft d)

/-- Only the message is missing. -/
inductive Halts (inbox : Inbox) (source : String) : Plan → Tables → Tables → Prop
  | mk {new : NewContact} {letter : Letter} {c : ResolvedContact} {v : Conversation} {t t' : Tables} :
    (inbox.id, source) ∉ t.keys → t.Readies inbox new c v t' → Halts inbox source (.message new letter) t t'

variable {t t' t'' : Tables} {inbox : Inbox} {source : String} {new : NewContact} {c c' : ResolvedContact}
  {v v' : Conversation} {plan : Plan}

/-! ## Rows are only added -/

theorem adds_draft (t : Tables) (d : Draft) :
    t.Adds { messages := [d.message], attachments := d.attachments } (t.addDraft d) := by
  simp [Adds, append, addDraft]

theorem Grows.spread (h : t.Grows t') (hs : t'.Spread) : t.Spread := by
  obtain ⟨new, ha⟩ := h
  refine ⟨Multiset.nodup_of_le ?_ hs.made, Multiset.nodup_of_le ?_ hs.kept⟩
  · rw [ha.made]
    exact Multiset.le_add_right _ _
  · rw [ha.kept]
    exact Multiset.le_add_right _ _

theorem Spread.distinctIds (h : t.Spread) : t.DistinctIds := distinctIds_of_nodup h.made h.kept

theorem Links.grows (h : t.Links new c t') : t.Grows t' := by
  cases h with
  | linked => exact .refl t
  | known => exact ⟨_, t.adds_link _⟩
  | new => exact ⟨_, t.adds_contact _ _⟩

theorem Joins.grows (h : t.Joins inbox c v t') : t.Grows t' := by
  cases h with
  | existing => exact .refl t
  | opened => exact ⟨_, t.adds_conversation _⟩

theorem Readies.grows (h : t.Readies inbox new c v t') : t.Grows t' := by
  obtain ⟨hl, hj⟩ := h
  exact hl.grows.trans hj.grows

theorem Takes.grows (h : Takes inbox source plan t t') : t.Grows t' := by
  cases h with
  | nothing | stored => exact .refl t
  | contact hl => exact hl.grows
  | written _ hr => exact hr.grows.trans ⟨_, adds_draft _ _⟩

theorem Halts.grows (h : Halts inbox source plan t t') : t.Grows t' := by
  obtain ⟨-, hr⟩ := h
  exact hr.grows

/-! ## Links lead to contacts -/

theorem Links.rooted (h : t.Links new c t') (hr : t.Rooted) : t'.Rooted := by
  cases h with
  | linked => exact hr
  | known _ hc hl =>
    refine List.forall_mem_append.2 ⟨hr, List.forall_mem_singleton.2 ?_⟩
    exact ⟨_, (findContactByPhone_eq_some hc).1, by rw [hl]⟩
  | @new c l _ _ _ hl =>
    refine List.forall_mem_append.2 ⟨fun k hk => ?_, List.forall_mem_singleton.2 ?_⟩
    · obtain ⟨d, hd, hid⟩ := hr k hk
      exact ⟨d, List.mem_append_left _ hd, hid⟩
    · exact ⟨c, List.mem_append_right _ List.mem_cons_self, by rw [hl]⟩

theorem Readies.rooted (h : t.Readies inbox new c v t') (hr : t.Rooted) : t'.Rooted := by
  obtain ⟨hl, hj⟩ := h
  cases hj <;> exact hl.rooted hr

theorem Takes.rooted (h : Takes inbox source plan t t') (hr : t.Rooted) : t'.Rooted := by
  cases h with
  | nothing | stored => exact hr
  | contact hl => exact hl.rooted hr
  | written _ hready => exact hready.rooted hr

theorem Halts.rooted (h : Halts inbox source plan t t') (hr : t.Rooted) : t'.Rooted := by
  obtain ⟨-, hready⟩ := h
  exact hready.rooted hr

/-! ## What was begun is found -/

theorem Links.messages (h : t.Links new c t') : t'.messages = t.messages := by
  cases h <;> rfl

theorem Readies.keys (h : t.Readies inbox new c v t') : t'.keys = t.keys := by
  obtain ⟨hl, hj⟩ := h
  cases hj <;> exact congrArg (List.map Message.key) hl.messages

theorem findContact_of_mem (h : (t.contacts.map (·.id)).Nodup) {c : Contact} (hc : c ∈ t.contacts) :
    t.findContact c.id = some c := by
  obtain ⟨d, hd⟩ : ∃ d, t.findContact c.id = some d :=
    Option.isSome_iff_exists.1 (List.find?_isSome.2 ⟨c, hc, by simp⟩)
  obtain ⟨hmem, hid⟩ := findContact_eq_some hd
  rw [hd, List.inj_on_of_nodup_map h hmem hc hid]

theorem findContactInbox_add {l : ContactInbox} (h : t.findContactInbox new.inbox new.sourceId = none)
    (hl : l = { id := l.id, contact := c.contact.id, inbox := new.inbox, sourceId := new.sourceId }) :
    (t.addContactInbox l).findContactInbox new.inbox new.sourceId = some l := by
  rw [findContactInbox, addContactInbox, List.find?_append, ← findContactInbox, h, Option.none_or, hl]
  simp

theorem Links.found (h : t.Links new c t') (hs : t'.Spread) :
    t'.findContactInbox new.inbox new.sourceId = some c.contactInbox ∧
      t'.findContact c.contactInbox.contact = some c.contact := by
  cases h with
  | linked hl hc => exact ⟨hl, hc⟩
  | @known c l hl hc hlink =>
    refine ⟨findContactInbox_add (c := ⟨c, l⟩) hl hlink, ?_⟩
    rw [hlink]
    exact findContact_of_mem hs.distinctIds.contactIds (findContactByPhone_eq_some hc).1
  | @new c l hl hc hcontact hlink =>
    refine ⟨findContactInbox_add (c := ⟨c, l⟩) hl hlink, ?_⟩
    rw [hlink]
    exact findContact_of_mem hs.distinctIds.contactIds (List.mem_append_right _ List.mem_cons_self)

theorem Links.eq_of_found (h : t.Links new c' t')
    (hl : t.findContactInbox new.inbox new.sourceId = some c.contactInbox)
    (hc : t.findContact c.contactInbox.contact = some c.contact) : t' = t ∧ c' = c := by
  cases h with
  | linked hl' hc' =>
    obtain rfl := Option.some.inj (hl.symm.trans hl')
    obtain rfl := Option.some.inj (hc.symm.trans hc')
    exact ⟨rfl, rfl⟩
  | known hl' | new hl' => cases hl.symm.trans hl'

/-- A conversation that was opened is the one to join. -/
theorem Joins.found (h : t.Joins inbox c v t') :
    t'.findConversation c.contactInbox.id inbox.joinable = some v := by
  cases h with
  | existing hv => exact hv
  | opened hnone hv =>
    have hlink : v.contactInbox = c.contactInbox.id := by rw [hv]
    have hopen : v.status = .open := by rw [hv]
    rw [findConversation_add (hlink ▸ hnone) hopen, if_pos hlink]

theorem Joins.links (h : t.Joins inbox c v t') :
    t'.findContactInbox = t.findContactInbox ∧ t'.findContact = t.findContact := by
  cases h <;> exact ⟨rfl, rfl⟩

theorem Joins.eq_of_found (h : t.Joins inbox c v' t')
    (hv : t.findConversation c.contactInbox.id inbox.joinable = some v) : t' = t ∧ v' = v := by
  cases h with
  | existing hv' => exact ⟨rfl, Option.some.inj (hv'.symm.trans hv)⟩
  | opened hnone => cases hv.symm.trans hnone

theorem Readies.again (h : t.Readies inbox new c v t') (hs : t'.Spread) (h' : t'.Readies inbox new c' v' t'') :
    t'' = t' ∧ c' = c ∧ v' = v := by
  obtain ⟨hl, hj⟩ := h
  obtain ⟨hl', hj'⟩ := h'
  obtain ⟨hlink, hcontact⟩ := hl.found (hj.grows.spread hs)
  have hconversation := hj.found
  obtain ⟨rfl, rfl⟩ := hl'.eq_of_found (hj.links.1 ▸ hlink) (hj.links.2 ▸ hcontact)
  obtain ⟨rfl, rfl⟩ := hj'.eq_of_found hconversation
  exact ⟨rfl, rfl, rfl⟩

/-- A message that could not be written the first time is written where it would have been. -/
theorem Halts.takes (h : Halts inbox source plan t t') (hs : t'.Spread) (h' : Takes inbox source plan t' t'') :
    Takes inbox source plan t t'' := by
  obtain ⟨hk, hr⟩ := h
  cases h' with
  | stored hk' => exact absurd (hr.keys ▸ hk') hk
  | written hk' hr' hd =>
    obtain ⟨rfl, rfl, rfl⟩ := hr.again hs hr'
    exact .written hk hr hd

/-! ## What is done stays done -/

/-- The plan has been carried out. -/
def Has (t : Tables) (inbox : Inbox) (source : String) : Plan → Prop
  | .nothing => True
  | .contact new => t.Linked new.inbox new.sourceId
  | .message _ _ => (inbox.id, source) ∈ t.keys

theorem Grows.has (h : t.Grows t') (hp : t.Has inbox source plan) : t'.Has inbox source plan := by
  obtain ⟨rows, ha⟩ := h
  cases plan with
  | nothing => trivial
  | contact new =>
    refine Linked.mono hp ?_
    rw [ha.contactInboxes]
    exact List.prefix_append _ _
  | message new letter =>
    have hkeys : t'.keys = t.keys ++ rows.keys := map_eq_append_of Message.key_of_record ha.records
    rw [Has, hkeys]
    exact List.mem_append_left _ hp

theorem Takes.has (h : Takes inbox source plan t t') (hs : t'.Spread) : t'.Has inbox source plan := by
  cases h with
  | nothing => trivial
  | contact hl => exact Option.isSome_iff_exists.2 ⟨_, (hl.found hs).1⟩
  | stored hk => exact hk
  | @written new letter c v d t t' hk hr hd =>
    obtain ⟨id, time, hm⟩ := hd.message
    have hkey : (inbox.id, source) = d.message.key := by rw [hm]; rfl
    change (inbox.id, source) ∈ (t'.messages ++ [d.message]).map Message.key
    rw [hkey]
    exact List.mem_map_of_mem (List.mem_append_right _ List.mem_cons_self)

theorem Takes.eq_of_has (h : Takes inbox source plan t t') (hp : t.Has inbox source plan) : t' = t := by
  cases h with
  | nothing | stored => rfl
  | written hk => exact absurd hp hk
  | contact hl =>
    obtain ⟨l, hfound⟩ := Option.isSome_iff_exists.1 hp
    cases hl with
    | linked => rfl
    | known hnone | new hnone => cases hfound.symm.trans hnone

/-! ## All events -/

variable {target : ResolvedChannel} {fetch : Channel → MediaDescriptor → Option FetchedMedia}

inductive TakesAll (target : ResolvedChannel) (fetch : Channel → MediaDescriptor → Option FetchedMedia) :
    List IncomingEvent → Tables → Tables → Prop
  | nil {t : Tables} : TakesAll target fetch [] t t
  | cons {e : IncomingEvent} {es : List IncomingEvent} {t t' t'' : Tables} :
    Takes target.inbox e.sourceId (Ingest.plan target fetch e) t t' → TakesAll target fetch es t' t'' →
      TakesAll target fetch (e :: es) t t''

/-- The events are taken in order up to one whose message cannot be written. -/
inductive HaltsIn (target : ResolvedChannel) (fetch : Channel → MediaDescriptor → Option FetchedMedia) :
    List IncomingEvent → Tables → Tables → Prop
  | here {e : IncomingEvent} {es : List IncomingEvent} {t t' : Tables} :
    Halts target.inbox e.sourceId (Ingest.plan target fetch e) t t' → HaltsIn target fetch (e :: es) t t'
  | later {e : IncomingEvent} {es : List IncomingEvent} {t t' t'' : Tables} :
    Takes target.inbox e.sourceId (Ingest.plan target fetch e) t t' → HaltsIn target fetch es t' t'' →
      HaltsIn target fetch (e :: es) t t''

theorem TakesAll.grows {es : List IncomingEvent} (h : TakesAll target fetch es t t') : t.Grows t' := by
  induction h with
  | nil => exact .refl _
  | cons h _ ih => exact h.grows.trans ih

theorem HaltsIn.grows {es : List IncomingEvent} (h : HaltsIn target fetch es t t') : t.Grows t' := by
  induction h with
  | here h => exact h.grows
  | later h _ ih => exact h.grows.trans ih

/-- What was broken off and then taken from the start might as well have been taken at once. -/
theorem HaltsIn.takesAll {es : List IncomingEvent} (h : HaltsIn target fetch es t t')
    (h' : TakesAll target fetch es t' t'') (hs : t''.Spread) : TakesAll target fetch es t t'' := by
  induction h with
  | here h =>
    cases h' with
    | cons hfirst hrest =>
      exact .cons (h.takes ((hfirst.grows.trans hrest.grows).spread hs) hfirst) hrest
  | later h hin ih =>
    cases h' with
    | cons hfirst hrest =>
      -- The event was done before the break, so that taking it again has changed nothing.
      have hgrows := hin.grows
      have hdone := h.has (hgrows.spread ((hfirst.grows.trans hrest.grows).spread hs))
      obtain rfl := hfirst.eq_of_has (hgrows.has hdone)
      exact .cons h (ih hrest)

theorem HaltsIn.rooted {es : List IncomingEvent} (h : HaltsIn target fetch es t t') (hr : t.Rooted) : t'.Rooted := by
  induction h with
  | here h => exact h.rooted hr
  | later h _ ih => exact ih (h.rooted hr)

end Tables

namespace MemoryStore

variable (s : MemoryStore) {clock : Time} {new : NewContact}

theorem upsertContact_ok (h : s.tables.Rooted) (clock : Time) (new : NewContact) :
    ∃ c, (s.upsertContact clock new).1 = .ok c := by
  rcases s.upsertContact_cases clock new with ⟨l, hl, -, ⟨c, -, hb⟩ | hnone⟩ | ⟨-, ⟨_, -, heq⟩ | ⟨-, heq⟩⟩
  · exact ⟨_, hb⟩
  · obtain ⟨c, hc, hid⟩ := h l (Tables.findContactInbox_eq_some hl).1
    exact absurd hid (by simpa using List.find?_eq_none.1 hnone c hc)
  · exact ⟨_, congrArg Prod.fst heq⟩
  · exact ⟨_, congrArg Prod.fst heq⟩

theorem links_of_upsertContact {c : ResolvedContact} (h : (s.upsertContact clock new).1 = .ok c) :
    s.tables.Links new c (s.upsertContact clock new).2.tables := by
  rcases s.upsertContact_cases clock new with
    ⟨link, hlink, hs, ⟨contact, hcontact, hok⟩ | hnone⟩ | ⟨hlink, ⟨contact, hcontact, heq⟩ | ⟨hcontact, heq⟩⟩
  · cases hok.symm.trans h
    rw [hs]
    exact .linked hlink hcontact
  · rw [upsertContact, hlink] at h
    dsimp only at h
    rw [hnone] at h
    cases h
  · rw [heq] at h ⊢
    cases h
    exact .known hlink hcontact rfl
  · rw [heq] at h ⊢
    cases h
    exact .new hlink hcontact rfl rfl

end MemoryStore

/-! ## Deliveries -/

namespace Resolution

variable {fetch : Channel → MediaDescriptor → Option FetchedMedia} {job : WebhookJob} {t t' t'' : Tables}
  {res : Resolution}

/-- The tables change as a delivery changes them that is resolved like that. -/
def Does (fetch : Channel → MediaDescriptor → Option FetchedMedia) (job : WebhookJob) (t t' : Tables) :
    Resolution → Prop
  | active target => Tables.TakesAll target fetch (target.events job) t t'
  | _ => t' = t

/-- The tables change as by a delivery that is broken off. -/
def Breaks (fetch : Channel → MediaDescriptor → Option FetchedMedia) (job : WebhookJob) (t t' : Tables) :
    Resolution → Prop
  | active target => t' = t ∨ Tables.HaltsIn target fetch (target.events job) t t'
  | _ => t' = t

theorem Breaks.refl (fetch : Channel → MediaDescriptor → Option FetchedMedia) (job : WebhookJob) (t : Tables)
    (res : Resolution) : res.Breaks fetch job t t := by
  cases res with
  | active => exact .inl rfl
  | notFound | inactive => exact rfl

theorem Breaks.rooted (h : res.Breaks fetch job t t') (hr : t.Rooted) : t'.Rooted := by
  cases res with
  | active target =>
    rcases h with rfl | h
    · exact hr
    · exact h.rooted hr
  | notFound | inactive =>
    obtain rfl : t' = t := h
    exact hr

theorem Breaks.does (h : res.Breaks fetch job t t') (h' : res.Does fetch job t' t'') (hs : t''.Spread) :
    res.Does fetch job t t'' := by
  cases res with
  | active target =>
    rcases h with rfl | h
    · exact h'
    · exact h.takesAll h' hs
  | notFound | inactive =>
    obtain rfl : t' = t := h
    exact h'

end Resolution

end Intake
