import Intake.Proofs.Conversations.Policy

/-!
# A contact is known by its digits

A sender is looked up in two ways, by inbox and digits and then by account and `+` with the digits. The two agree as
long as every link leads to the contact of its inbox's account with its digits (`Tables.Directory`), which the store
keeps up. So senders are resolved to the same contact exactly if they write to the same account from the same digits,
and the contact has the name of the first of them (`contacts_by_digits`).
-/

namespace Intake

open Ingest

namespace Sender

/-- The digits of the phone number; everything else in it is formatting. -/
def digits (s : Sender) : String := String.ofList (s.phone.toList.filter Char.isDigit)

/-- The name that is given to a contact for the sender. -/
def knownAs (s : Sender) : String := (s.name.bind Text.nonBlank).getD NewContact.unknownName

end Sender

/-- The contact of the sender, who writes to the inbox. -/
def NewContact.of (inbox : Inbox) (s : Sender) : NewContact where
  account := inbox.account
  inbox := inbox.id
  sourceId := s.digits
  name := s.knownAs
  phoneNumber := "+" ++ s.digits

theorem NewContact.ofSender?_eq_some_iff {inbox : Inbox} {s : Sender} {new : NewContact} :
    ofSender? inbox s = some new ↔ (∃ d ∈ s.phone.toList, d.isDigit = true) ∧ new = .of inbox s := by
  rw [ofSender?, Option.map_eq_some_iff]
  constructor
  · rintro ⟨digits, hdigits, rfl⟩
    obtain ⟨hdigit, rfl⟩ := phoneDigits?_eq_some_iff.1 hdigits
    exact ⟨hdigit, rfl⟩
  · rintro ⟨hdigit, rfl⟩
    exact ⟨_, phoneDigits?_eq_some_iff.2 ⟨hdigit, rfl⟩, rfl⟩

/-- The contact is that of a sender who wrote to one of the inboxes. -/
def NewContact.At (t : Tables) (new : NewContact) : Prop :=
  ∃ inbox s, t.HasInbox inbox.id inbox.account ∧ ofSender? inbox s = some new

namespace NewContact.At

variable {t t' : Tables} {new : NewContact}

theorem phone (h : new.At t) : new.phoneNumber = "+" ++ new.sourceId := by
  obtain ⟨inbox, s, -, hs⟩ := h
  rw [(ofSender?_eq_some_iff.1 hs).2]
  rfl

theorem inbox (h : new.At t) : t.HasInbox new.inbox new.account := by
  obtain ⟨inbox, s, hinbox, hs⟩ := h
  rw [(ofSender?_eq_some_iff.1 hs).2]
  exact hinbox

theorem congr (h : new.At t) (ht : t'.inboxes = t.inboxes) : new.At t' := by
  obtain ⟨inbox, s, ⟨i, hi, hid⟩, hs⟩ := h
  exact ⟨inbox, s, ⟨i, ht ▸ hi, hid⟩, hs⟩

end NewContact.At

/-- The sender, writing to the inbox, was resolved to the contact. -/
def Exchange.Resolves (inbox : Inbox) (s : Sender) (c : ResolvedContact) (x : Exchange) : Prop :=
  ∃ new, NewContact.ofSender? inbox s = some new ∧ x = ⟨.upsertContact new, .ok c⟩

theorem Exchange.at_of_resolves {tb : Tables} {visits : List (Inbox × Sender)} {t : List Exchange}
    (h : List.Forall₂ (fun v x => ∃ c, Resolves v.1 v.2 c x) visits t)
    (hin : ∀ v ∈ visits, tb.HasInbox v.1.id v.1.account) (new : NewContact) (b : Except DomainError ResolvedContact)
    (hx : ⟨.upsertContact new, b⟩ ∈ t) : new.At tb := by
  induction h with
  | nil => cases hx
  | cons hres _ ih =>
    obtain ⟨hv, hin⟩ := List.forall_mem_cons.1 hin
    rcases List.mem_cons.1 hx with rfl | hx
    · obtain ⟨_, _, hnew, heq⟩ := hres
      cases heq
      exact ⟨_, _, hv, hnew⟩
    · exact ih hin hx

/-! ## Tables -/

namespace Tables

variable {t t' : Tables} {new new' : NewContact} {c c' : ResolvedContact}

/-- Contacts and links are unique, and a link leads to the contact of its inbox's account with its digits. -/
structure Directory (t : Tables) : Prop where
  links : (t.contactInboxes.map fun l => (l.inbox, l.sourceId)).Nodup
  phones : (t.contacts.map fun c => (c.account, c.phoneNumber)).Nodup
  refers : ∀ l ∈ t.contactInboxes, l.RefersIn t
  inboxIds : (t.inboxes.map (·.id)).Nodup
  contactIds : (t.contacts.map (·.id)).Nodup
  linkIds : (t.contactInboxes.map (·.id)).Nodup

/-- The contact and its link are those that are asked for. -/
structure Lists (t : Tables) (new : NewContact) (c : ResolvedContact) : Prop where
  contact : c.contact ∈ t.contacts
  account : c.contact.account = new.account
  phone : c.contact.phoneNumber = some new.phoneNumber
  link : c.contactInbox ∈ t.contactInboxes
  inbox : c.contactInbox.inbox = new.inbox
  source : c.contactInbox.sourceId = new.sourceId
  leads : c.contactInbox.contact = c.contact.id

theorem Lists.mono (h : t.Lists new c) (hc : t.contacts ⊆ t'.contacts) (hl : t.contactInboxes ⊆ t'.contactInboxes) :
    t'.Lists new c :=
  { h with contact := hc h.contact, link := hl h.link }

namespace Directory

theorem rooted (h : t.Directory) : t.Rooted := by
  intro l hl
  obtain ⟨-, -, c, hc, -, hid, -⟩ := h.refers l hl
  exact ⟨c, hc, hid⟩

theorem contact_of_phone (h : t.Directory) {c c' : Contact} (hc : c ∈ t.contacts) (hc' : c' ∈ t.contacts)
    (ha : c.account = c'.account) (hp : c.phoneNumber = c'.phoneNumber) : c = c' :=
  List.inj_on_of_nodup_map h.phones hc hc' (Prod.ext ha hp)

theorem contact_of_id (h : t.Directory) {c c' : Contact} (hc : c ∈ t.contacts) (hc' : c' ∈ t.contacts)
    (hid : c.id = c'.id) : c = c' :=
  List.inj_on_of_nodup_map h.contactIds hc hc' hid

theorem link_of_id (h : t.Directory) {l l' : ContactInbox} (hl : l ∈ t.contactInboxes) (hl' : l' ∈ t.contactInboxes)
    (hid : l.id = l'.id) : l = l' :=
  List.inj_on_of_nodup_map h.linkIds hl hl' hid

theorem link_of_key (h : t.Directory) {l l' : ContactInbox} (hl : l ∈ t.contactInboxes) (hl' : l' ∈ t.contactInboxes)
    (hi : l.inbox = l'.inbox) (hs : l.sourceId = l'.sourceId) : l = l' :=
  List.inj_on_of_nodup_map h.links hl hl' (Prod.ext hi hs)

theorem account_of_inbox (h : t.Directory) {i i' : Inbox} (hi : i ∈ t.inboxes) (hi' : i' ∈ t.inboxes)
    (hid : i.id = i'.id) : i.account = i'.account := by
  rw [List.inj_on_of_nodup_map h.inboxIds hi hi' hid]

end Directory

namespace Lists

theorem link_id_iff (hd : t.Directory) (h : t.Lists new c) (h' : t.Lists new' c') (hi : new'.inbox = new.inbox) :
    c'.contactInbox.id = c.contactInbox.id ↔ new'.sourceId = new.sourceId := by
  constructor
  · intro hid
    rw [← h'.source, ← h.source, hd.link_of_id h'.link h.link hid]
  · intro hs
    rw [hd.link_of_key h'.link h.link (h'.inbox.trans (hi.trans h.inbox.symm))
      (h'.source.trans (hs.trans h.source.symm))]

theorem eq_of_link (hd : t.Directory) (h : t.Lists new c) (h' : t.Lists new' c')
    (hl : c'.contactInbox = c.contactInbox) : c' = c := by
  have hcontact : c'.contact = c.contact := hd.contact_of_id h'.contact h.contact (by rw [← h'.leads, hl, h.leads])
  cases c
  cases c'
  cases hl
  cases hcontact
  rfl

theorem contact_id_iff (hd : t.Directory) (h : t.Lists new c) (h' : t.Lists new' c')
    (ha : new'.account = new.account) :
    c'.contact.id = c.contact.id ↔ new'.phoneNumber = new.phoneNumber := by
  constructor
  · intro hid
    have hphone := h'.phone
    rw [hd.contact_of_id h'.contact h.contact hid, h.phone] at hphone
    exact (Option.some.inj hphone).symm
  · intro hp
    rw [hd.contact_of_phone h'.contact h.contact (h'.account.trans (ha.trans h.account.symm))
      (h'.phone.trans ((congrArg some hp).trans h.phone.symm))]

theorem account_eq (hd : t.Directory) (h : t.Lists new c) (h' : t.Lists new' c')
    (hid : c'.contact.id = c.contact.id) : new'.account = new.account := by
  rw [← h'.account, ← h.account, hd.contact_of_id h'.contact h.contact hid]

end Lists

theorem nodup_map_concat {α β : Type} {f : α → β} {as : List α} {a : α} (h : (as.map f).Nodup)
    (ha : ∀ b ∈ as, f b ≠ f a) : ((as ++ [a]).map f).Nodup := by
  rw [List.map_append, List.nodup_append]
  refine ⟨h, List.nodup_singleton _, fun k hk k' hk' => ?_⟩
  obtain ⟨b, hb, rfl⟩ := List.mem_map.1 hk
  rw [List.mem_singleton.1 hk']
  exact ha b hb

/-- The look-up by inbox and the look-up by phone number lead to the same contact. -/
theorem Links.lists (h : t.Links new c t') (hd : t.Directory) (hnew : new.At t) : t'.Lists new c := by
  cases h with
  | @linked c l hl hc =>
    obtain ⟨hmem, hinbox, hsource⟩ := findContactInbox_eq_some hl
    obtain ⟨hcontact, hid⟩ := findContact_eq_some hc
    obtain ⟨i, hi, d, hdmem, hil, hdid, haccount, hphone⟩ := hd.refers l hmem
    obtain rfl : c = d := hd.contact_of_id hcontact hdmem (hid.trans hdid.symm)
    obtain ⟨i', hi', hid', haccount'⟩ := hnew.inbox
    have hsame := hd.account_of_inbox hi hi' (hil.trans (hinbox.trans hid'.symm))
    refine ⟨hcontact, haccount.trans (hsame.trans haccount'), ?_, hmem, hinbox, hsource, hid.symm⟩
    rw [hphone, hnew.phone, hsource]
  | @known c l hl hc hlink =>
    obtain ⟨hcontact, haccount, hphone⟩ := findContactByPhone_eq_some hc
    refine ⟨hcontact, haccount, hphone, List.mem_append_right _ List.mem_cons_self, ?_, ?_, ?_⟩ <;> rw [hlink]
  | @new c l hl hc hcontact hlink =>
    refine ⟨List.mem_append_right _ List.mem_cons_self, ?_, ?_, List.mem_append_right _ List.mem_cons_self, ?_, ?_, ?_⟩
    · rw [hcontact]
    · rw [hcontact]
    all_goals rw [hlink]

theorem Links.directory (h : t.Links new c t') (hd : t.Directory) (hnew : new.At t)
    (hcontacts : (t'.contacts.map (·.id)).Nodup) (hlinks : (t'.contactInboxes.map (·.id)).Nodup) : t'.Directory := by
  have hlists := h.lists hd hnew
  have hrefers : c.contactInbox.RefersIn t' := by
    obtain ⟨i, hi, hid, haccount⟩ := h.grows.hasInbox hnew.inbox
    refine ⟨i, hi, c.contact, hlists.contact, hid.trans hlists.inbox.symm, hlists.leads.symm,
      hlists.account.trans haccount.symm, ?_⟩
    rw [hlists.phone, hnew.phone, hlists.source]
  have hold : ∀ l ∈ t.contactInboxes, l.RefersIn t' := fun l hl => h.grows.contactInbox (hd.refers l hl)
  cases h with
  | linked => exact hd
  | known hl =>
    refine ⟨nodup_map_concat hd.links fun l hmem => ?_, hd.phones,
      List.forall_mem_append.2 ⟨hold, List.forall_mem_singleton.2 hrefers⟩, hd.inboxIds, hcontacts, hlinks⟩
    rw [hlists.inbox, hlists.source]
    exact ne_of_findContactInbox hl hmem
  | new hl hc =>
    refine ⟨nodup_map_concat hd.links fun l hmem => ?_, nodup_map_concat hd.phones fun c hmem => ?_,
      List.forall_mem_append.2 ⟨hold, List.forall_mem_singleton.2 hrefers⟩, hd.inboxIds, hcontacts, hlinks⟩
    · rw [hlists.inbox, hlists.source]
      exact ne_of_findContactInbox hl hmem
    · rw [hlists.account, hlists.phone]
      exact ne_of_findContactByPhone hc hmem

/-- Only contacts of nobody else are made, with the name of who they are made for. -/
theorem Links.contacts (h : t.Links new c t') :
    t'.contacts = t.contacts ∨ t'.contacts = t.contacts ++ [c.contact] ∧ c.contact.name = new.name := by
  cases h with
  | linked | known => exact .inl rfl
  | new _ _ hc => exact .inr ⟨rfl, by rw [hc]⟩

/-- The ids of contacts and links. -/
def listed (t : Tables) : Multiset Snowflake := t.contacts.map (·.id) + t.contactInboxes.map (·.id)

theorem nodup_of_listed (h : t.listed.Nodup) :
    (t.contacts.map (·.id)).Nodup ∧ (t.contactInboxes.map (·.id)).Nodup := by
  simp only [listed, Multiset.nodup_add, Multiset.coe_nodup] at h
  exact ⟨h.1, h.2.1⟩

end Tables

namespace MemoryStore

variable {s : MemoryStore} {clock : Time} {new : NewContact}

theorem upsertContact_listed (h : s.ids.Made s.tables.listed)
    (hrange : (s.upsertContact clock new).2.ids.stamp < 2 ^ 54) :
    (s.upsertContact clock new).2.ids.Made (s.upsertContact clock new).2.tables.listed := by
  rcases s.upsertContact_cases clock new with ⟨-, -, heq, -⟩ | ⟨-, ⟨_, -, heq⟩ | ⟨-, heq⟩⟩
  · rw [heq]
    exact h
  · rw [heq] at hrange ⊢
    refine (h.generate hrange).mono (le_of_eq ?_)
    simp only [Tables.listed, Tables.addContactInbox, List.map_append, List.map_singleton, ← Multiset.coe_add,
      Multiset.coe_singleton, ← Multiset.singleton_add]
    ac_rfl
  · rw [heq] at hrange ⊢
    have hfirst := h.generate (Int.lt_trans Snowflake.Generator.stamp_lt_generate hrange)
    refine (hfirst.generate hrange).mono (le_of_eq ?_)
    simp only [Tables.listed, Tables.addContact, Tables.addContactInbox, List.map_append, List.map_singleton,
      ← Multiset.coe_add, Multiset.coe_singleton, ← Multiset.singleton_add]
    ac_rfl

end MemoryStore

/-! ## Runs -/

/-- The contact was made in the exchanges, for the first whom they resolve to it. -/
def Contact.MadeIn (c : Contact) (t : List Exchange) : Prop :=
  ∃ before new r after, t = before ++ ⟨.upsertContact new, .ok r⟩ :: after ∧ r.contact = c ∧ c.name = new.name ∧
    ∀ new' r', ⟨.upsertContact new', .ok r'⟩ ∈ before → r'.contact.id ≠ c.id

theorem Contact.MadeIn.append {c : Contact} {t : List Exchange} (h : c.MadeIn t) (t' : List Exchange) :
    c.MadeIn (t ++ t') := by
  obtain ⟨before, new, r, after, rfl, hr⟩ := h
  exact ⟨before, new, r, after ++ t', by simp, hr⟩

namespace World

variable {o : Conditions} {w w' : World} {r : Request} {b : r.Reply} {t past : List Exchange}

theorem Deals.listed_eq (h : w.Deals o r b w') (hr : ∀ new, r ≠ .upsertContact new) :
    w'.tables.contacts = w.tables.contacts ∧ w'.tables.contactInboxes = w.tables.contactInboxes ∧
      w'.store.ids = w.store.ids := by
  rcases h with ⟨clock, file, -, -, ha⟩ | ⟨e, -, -, rfl⟩
  · cases r with
    | tryClaim channel source =>
      obtain ⟨a, -, ha⟩ := Option.map_eq_some_iff.1 ha
      cases ha
      exact ⟨rfl, rfl, rfl⟩
    | upsertContact new => exact absurd rfl (hr new)
    | createMessage m =>
      cases ha
      exact ⟨w.store.createMessage_contacts m, w.store.createMessage_links m, w.store.createMessage_ids m⟩
    | updateStatus message status e =>
      cases ha
      have hadds := w.store.updateStatus_adds message status e
      exact ⟨hadds.contacts.trans (List.append_nil _), hadds.contactInboxes.trans (List.append_nil _),
        w.store.commit_ids _⟩
    | findChannelByPhone | findGupshupChannel =>
      cases ha
      exact ⟨congrArg Tables.contacts (w.store.lookUp_tables _),
        congrArg Tables.contactInboxes (w.store.lookUp_tables _), w.store.lookUp_ids _⟩
    | _ =>
      cases ha
      exact ⟨rfl, rfl, rfl⟩
  · exact ⟨rfl, rfl, rfl⟩

theorem Deals.inboxes (h : w.Deals o r b w') : w'.tables.inboxes = w.tables.inboxes := by
  have ht := h.tenants
  simp only [Tables.tenants, Prod.mk.injEq] at ht
  exact ht.2.1

/-- Whom the past exchanges have resolved is in the directory, and who is there was resolved in them. -/
structure Acquainted (w : World) (past : List Exchange) : Prop where
  directory : w.tables.Directory
  listed : w.store.ids.Made w.tables.listed
  lists : ∀ new b, ⟨.upsertContact new, b⟩ ∈ past → ∃ c, b = .ok c ∧ w.tables.Lists new c
  made : ∀ c ∈ w.tables.contacts, c.MadeIn past

namespace Acquainted

theorem other (h : w.Acquainted past) (hd : w.Deals o r b w') (hr : ∀ new, r ≠ .upsertContact new) :
    w'.Acquainted (past ++ [⟨r, b⟩]) := by
  obtain ⟨hcontacts, hlinks, hids⟩ := hd.listed_eq hr
  obtain ⟨⟨hkeys, hphones, hrefers, hinboxIds, hcontactIds, hlinkIds⟩, hlisted, hlists, hmade⟩ := h
  refine ⟨⟨hlinks ▸ hkeys, hcontacts ▸ hphones, fun l hl => ?_, hd.inboxes ▸ hinboxIds, hcontacts ▸ hcontactIds,
    hlinks ▸ hlinkIds⟩, ?_, fun new b' hmem => ?_, fun c hc => (hmade c (hcontacts ▸ hc)).append _⟩
  · obtain ⟨i, hi, c, hc, rest⟩ := hrefers l (hlinks ▸ hl)
    exact ⟨i, hd.inboxes ▸ hi, c, hcontacts ▸ hc, rest⟩
  · rw [hids, Tables.listed, hcontacts, hlinks]
    exact hlisted
  · rcases List.mem_append.1 hmem with hmem | hmem
    · obtain ⟨c, hb, hc⟩ := hlists new b' hmem
      exact ⟨c, hb, hc.mono (hcontacts ▸ List.Subset.refl _) (hlinks ▸ List.Subset.refl _)⟩
    · cases List.mem_singleton.1 hmem
      exact absurd rfl (hr new)

theorem upsert {new : NewContact} {b : Except DomainError ResolvedContact} (h : w.Acquainted past)
    (hd : w.Deals o (.upsertContact new) b w') (ho : ∀ e, ¬o.refuses (.upsertContact new) e) (hnew : new.At w.tables)
    (hrange : w'.InRange) : w'.Acquainted (past ++ [⟨.upsertContact new, b⟩]) := by
  obtain ⟨c, rfl, hlisted⟩ : ∃ c, b = .ok c ∧ w'.store.ids.Made w'.tables.listed := by
    rcases hd with ⟨clock, file, -, -, ha⟩ | ⟨e, he, -⟩
    · obtain ⟨rfl, rfl⟩ := Prod.mk.inj (Option.some.inj ha)
      obtain ⟨c, hc⟩ := w.store.upsertContact_ok h.directory.rooted clock new
      exact ⟨c, hc, MemoryStore.upsertContact_listed h.listed hrange.2⟩
    · exact absurd he (ho e)
  have hlinks : w.tables.Links new c w'.tables := hd.links
  have hold {d : Contact} (hd : d ∈ w.tables.contacts) : d ∈ w'.tables.contacts := hlinks.grows.mem_contacts hd
  obtain ⟨hcontactIds, hlinkIds⟩ := Tables.nodup_of_listed hlisted.nodup
  refine ⟨hlinks.directory h.directory hnew hcontactIds hlinkIds, hlisted, fun new' b hmem => ?_, fun d hmem => ?_⟩
  · rcases List.mem_append.1 hmem with hmem | hmem
    · obtain ⟨c', hb, hc'⟩ := h.lists new' b hmem
      exact ⟨c', hb, hc'.mono (fun _ => hold) fun _ => hlinks.grows.mem_contactInboxes⟩
    · cases List.mem_singleton.1 hmem
      exact ⟨c, rfl, hlinks.lists h.directory hnew⟩
  · rcases hlinks.contacts with heq | ⟨heq, hname⟩
    · exact (h.made d (heq ▸ hmem)).append _
    · rw [heq] at hmem
      rcases List.mem_append.1 hmem with hmem | hmem
      · exact (h.made d hmem).append _
      · obtain rfl := List.mem_singleton.1 hmem
        refine ⟨past, new, c, [], rfl, rfl, hname, fun new' c' hpast hid => ?_⟩
        -- Who was resolved before is another row, with another id.
        obtain ⟨_, heq', hc'⟩ := h.lists new' (.ok c') hpast
        cases heq'
        rw [heq, List.map_append, List.nodup_append] at hcontactIds
        exact hcontactIds.2.2 _ (List.mem_map_of_mem hc'.contact) _ List.mem_cons_self hid

theorem runs (h : w.Acquainted past) (hr : w.Runs o t w') (ho : ∀ new e, ¬o.refuses (.upsertContact new) e)
    (hnew : ∀ new b, ⟨.upsertContact new, b⟩ ∈ t → new.At w.tables) (hrange : w'.InRange) :
    w'.Acquainted (past ++ t) := by
  induction hr generalizing past with
  | nil =>
    rw [List.append_nil]
    exact h
  | @exchange w w₁ w' r b t hd hrest ih =>
    have hstep : w₁.Acquainted (past ++ [⟨r, b⟩]) := by
      by_cases hr : ∃ new, r = .upsertContact new
      · obtain ⟨new, rfl⟩ := hr
        exact h.upsert hd (ho new) (hnew new b List.mem_cons_self) (hrest.inRange hrange)
      · exact h.other hd (not_exists.1 hr)
    have hall := ih hstep (fun new b hmem => (hnew new b (List.mem_cons_of_mem _ hmem)).congr hd.inboxes) hrange
    rwa [List.append_assoc] at hall
  | waits _ _ ih => exact ih ⟨h.directory, h.listed, h.lists, h.made⟩ hnew hrange

end Acquainted

theorem exists_resolves (fetch : Channel → MediaDescriptor → Option FetchedMedia) {visits : List (Inbox × Sender)}
    (hw : w.tables.Rooted) (hvisits : ∀ v ∈ visits, ∃ d ∈ v.2.phone.toList, d.isDigit = true) :
    ∃ t w', w.Runs (.calm fetch) t w' ∧ List.Forall₂ (fun v x => ∃ c, x.Resolves v.1 v.2 c) visits t := by
  induction visits generalizing w with
  | nil => exact ⟨[], w, .nil, .nil⟩
  | cons v visits ih =>
    obtain ⟨hv, hvisits⟩ := List.forall_mem_cons.1 hvisits
    obtain ⟨new, hnew⟩ : ∃ new, NewContact.ofSender? v.1 v.2 = some new :=
      ⟨_, NewContact.ofSender?_eq_some_iff.2 ⟨hv, rfl⟩⟩
    obtain ⟨c, hc⟩ := w.store.upsertContact_ok hw 0 new
    have hd : w.Deals (.calm fetch) (.upsertContact new) (.ok c)
        { w with store := (w.store.upsertContact 0 new).2 } :=
      .inl ⟨0, none, by decide, by rintro _ _ ⟨⟩, by rw [← hc]; rfl⟩
    obtain ⟨t, w', hr, ht⟩ := ih (hd.links.rooted hw) hvisits
    exact ⟨⟨.upsertContact new, .ok c⟩ :: t, w', .exchange hd hr, .cons ⟨c, new, hnew, rfl⟩ ht⟩

end World

/-! ## Events -/

namespace Ingest

theorem persist_upserts (target : ResolvedChannel) (source : String) (m : InboundMessage) (new : NewContact) :
    (persist target source m new).run.Asks fun r => ∀ new', r = .upsertContact new' → new' = new := by
  refine asks_persist nofun (fun _ heq => (Request.upsertContact.inj heq).symm) (fun r hr new' heq => ?_)
    (fun v c => (drafts_supplies (drafter_supplies _ _ _ _) ..).mono fun r hr new' heq => ?_)
    fun v c t ds _ => (write_records source ds).mono fun r hr new' heq => ?_
  all_goals
    subst heq
    cases hr

theorem handleEvent_upserts (target : ResolvedChannel) (e : IncomingEvent) :
    (handleEvent target e).run.Asks fun r =>
      ∀ new, r = .upsertContact new → ∃ s, e.sender = some s ∧ NewContact.ofSender? target.inbox s = some new := by
  unfold handleEvent
  split
  · unfold ingestMessage
    split
    · trivial
    · next new haccept =>
      have hsender := Option.bind_eq_some_iff.1 (sender_of_accept haccept)
      refine asks_claimed nofun nofun ((persist_upserts ..).mono fun r hr new' heq => ?_)
      rw [hr new' heq]
      exact hsender
  · refine Attempt.asks_lift ((reconcile_asks ..).mono fun r hr new heq => ?_)
    subst heq
    cases hr
  · refine Attempt.asks_lift ?_
    unfold resolveCard
    split
    · trivial
    · next new hnew =>
      refine Program.Asks.bind (Program.Asks.request fun new' heq => ?_) fun upserted => ?_
      · cases heq
        exact Option.bind_eq_some_iff.1 hnew
      · split <;> trivial

end Ingest

/-! ## Identity -/

theorem World.Acquainted.nil {w : World} (hcontacts : w.tables.contacts = []) (hlinks : w.tables.contactInboxes = [])
    (hinboxes : (w.tables.inboxes.map (·.id)).Nodup) (hids : 0 ≤ w.store.ids.stamp) : w.Acquainted [] := by
  have hnone : w.tables.listed = 0 := by
    rw [Tables.listed, hcontacts, hlinks]
    rfl
  refine ⟨⟨?_, ?_, ?_, hinboxes, ?_, ?_⟩, ⟨hids, ?_, ?_⟩, nofun, ?_⟩
  · simp [hlinks]
  · simp [hcontacts]
  · simp [hlinks]
  · simp [hcontacts]
  · simp [hlinks]
  · simp [hnone]
  · simp [hnone]
  · simp [hcontacts]

theorem World.Acquainted.resolved {w : World} {t : List Exchange} {x : Exchange} {inbox : Inbox} {s : Sender}
    {c : ResolvedContact} (h : w.Acquainted t) (hx : x ∈ t) (hr : x.Resolves inbox s c) :
    w.tables.Lists (.of inbox s) c := by
  obtain ⟨new, hnew, rfl⟩ := hr
  obtain ⟨_, heq, hc⟩ := h.lists new (.ok c) hx
  cases heq
  rw [← (NewContact.ofSender?_eq_some_iff.1 hnew).2]
  exact hc

/-- Senders are resolved to the same contact exactly if they write to the same account from the same digits. This holds
of every run from a store without contacts, whatever else happens in it and as long as ids do not run out, if no sender
is refused. In the end every contact that someone was resolved to is still there as it was made: with the phone number
and the name of the first who was resolved to it. -/
theorem contacts_by_digits {w : World} (hcontacts : w.tables.contacts = []) (hlinks : w.tables.contactInboxes = [])
    (hinboxes : (w.tables.inboxes.map (·.id)).Nodup) (hids : 0 ≤ w.store.ids.stamp) :
    (∀ (target : ResolvedChannel) (e : IncomingEvent), (handleEvent target e).run.Asks fun r =>
      ∀ new, r = .upsertContact new → ∃ s, e.sender = some s ∧ NewContact.ofSender? target.inbox s = some new) ∧
    (∀ (fetch : Channel → MediaDescriptor → Option FetchedMedia) (n : Nat) (visits : List (Inbox × Sender)),
      w.Ahead n → n + 2 * visits.length < 2 ^ 53 → (∀ v ∈ visits, ∃ d ∈ v.2.phone.toList, d.isDigit = true) →
      (∀ v ∈ visits, w.tables.HasInbox v.1.id v.1.account) →
      ∃ t w', w.Runs (.calm fetch) t w' ∧ w'.InRange ∧
        (∀ new b, ⟨.upsertContact new, b⟩ ∈ t → new.At w.tables) ∧
        List.Forall₂ (fun v x => ∃ c, x.Resolves v.1 v.2 c) visits t) ∧
    ∀ o t w', w.Runs o t w' → w'.InRange → (∀ new e, ¬o.refuses (.upsertContact new) e) →
      (∀ new b, ⟨.upsertContact new, b⟩ ∈ t → new.At w.tables) →
      (∀ new b, ⟨.upsertContact new, b⟩ ∈ t → ∃ c, b = .ok c) ∧
      ∀ x ∈ t, ∀ inbox s c, x.Resolves inbox s c →
        (c.contact.account = inbox.account ∧ c.contact.phoneNumber = some ("+" ++ s.digits) ∧
          w'.tables.findContact c.contact.id = some c.contact) ∧
        (∃ before x₀ after inbox₀ s₀ c₀, t = before ++ x₀ :: after ∧ x₀.Resolves inbox₀ s₀ c₀ ∧
          c₀.contact = c.contact ∧ c.contact.name = s₀.knownAs ∧
          ∀ y ∈ before, ∀ inbox' s' c', y.Resolves inbox' s' c' → c'.contact.id ≠ c.contact.id) ∧
        ∀ x' ∈ t, ∀ inbox' s' c', x'.Resolves inbox' s' c' →
          (inbox'.id = inbox.id → (c'.contactInbox.id = c.contactInbox.id ↔ s'.digits = s.digits) ∧
            (c' = c ↔ s'.digits = s.digits)) ∧
          (inbox'.account = inbox.account → (c'.contact.id = c.contact.id ↔ s'.digits = s.digits)) ∧
          (inbox'.account ≠ inbox.account → c'.contact.id ≠ c.contact.id) := by
  have hstart : w.Acquainted [] := .nil hcontacts hlinks hinboxes hids
  refine ⟨handleEvent_upserts, fun fetch n visits hn hlen hvisits hin => ?_, fun o t w' hr hrange ho hat => ?_⟩
  · obtain ⟨t, w', hr, hall⟩ := World.exists_resolves fetch hstart.directory.rooted hvisits
    exact ⟨t, w', hr, (hr.ahead hn).inRange (by rw [← hall.length_eq]; exact hlen), Exchange.at_of_resolves hall hin,
      hall⟩
  have h : w'.Acquainted t := hstart.runs hr ho hat hrange
  have hd := h.directory
  refine ⟨fun new b hmem => (h.lists new b hmem).imp fun c hc => hc.1, fun x hx inbox s c hres => ?_⟩
  have hc : w'.tables.Lists (.of inbox s) c := h.resolved hx hres
  refine ⟨⟨hc.account, hc.phone, Tables.findContact_of_mem hd.contactIds hc.contact⟩, ?_,
    fun x' hx' inbox' s' c' hres' => ?_⟩
  · obtain ⟨before, new₀, c₀, after, rfl, hsame, hname, hfirst⟩ := h.made c.contact hc.contact
    obtain ⟨inbox₀, s₀, -, hnew₀⟩ := hat new₀ (.ok c₀) (List.mem_append_right _ List.mem_cons_self)
    refine ⟨before, _, after, inbox₀, s₀, c₀, rfl, ⟨new₀, hnew₀, rfl⟩, hsame, ?_, ?_⟩
    · rw [hname, (NewContact.ofSender?_eq_some_iff.1 hnew₀).2]
      rfl
    · rintro _ hy _ _ c' ⟨new', -, rfl⟩
      exact hfirst new' c' hy
  · have hc' : w'.tables.Lists (.of inbox' s') c' := h.resolved hx' hres'
    refine ⟨fun hinbox => ?_, fun haccount => ?_, fun haccount hid => haccount (hc.account_eq hd hc' hid)⟩
    · have hlink := hc.link_id_iff hd hc' hinbox
      refine ⟨hlink, fun heq => hlink.1 (by rw [heq]), fun hdigits => ?_⟩
      exact hc.eq_of_link hd hc' (hd.link_of_id hc'.link hc.link (hlink.2 hdigits))
    · refine (hc.contact_id_iff hd hc' haccount).trans ?_
      exact String.append_right_inj "+"

namespace Sample

def branch (id account : Int) : Inbox where
  id := .ofInt id
  account := .ofInt account
  channel := .ofInt 0
  name := "branch"
  lockToSingleConversation := false

/-- Two inboxes of one account and one of another, and nobody has written yet. -/
def branches : World :=
  { world with store := { tables := { inboxes := [branch 1 7, branch 2 7, branch 3 8] } } }

/-- The same digits thrice, in different formats. -/
def visits : List (Inbox × Sender) :=
  [(branch 1 7, ⟨"+1 (555) 0002", some " Ada "⟩), (branch 2 7, ⟨"1-555-0002", none⟩), (branch 3 8, ⟨"15550002", none⟩)]

theorem branches_visited {v : Inbox × Sender} (hv : v ∈ visits) :
    (∃ d ∈ v.2.phone.toList, d.isDigit = true) ∧ branches.tables.HasInbox v.1.id v.1.account := by
  have hall : ∀ v ∈ visits, (phoneDigits? v.2.phone).isSome = true ∧ v.1 ∈ branches.tables.inboxes := by
    decide +kernel
  obtain ⟨hdigits, hinbox⟩ := hall v hv
  exact ⟨phoneDigits?_isSome.1 hdigits, v.1, hinbox, rfl, rfl⟩

end Sample

/-- A sender who writes to two inboxes of an account is one contact there, and another one in another account. -/
theorem branches_share_contact : ∃ x₁ x₂ x₃ w' c₁ c₂ c₃,
    Sample.branches.Runs (.calm fun _ _ => none) [x₁, x₂, x₃] w' ∧
    x₁.Resolves (Sample.branch 1 7) ⟨"+1 (555) 0002", some " Ada "⟩ c₁ ∧
    x₂.Resolves (Sample.branch 2 7) ⟨"1-555-0002", none⟩ c₂ ∧ x₃.Resolves (Sample.branch 3 8) ⟨"15550002", none⟩ c₃ ∧
    c₁.contact.phoneNumber = some "+15550002" ∧ c₂.contact.id = c₁.contact.id ∧ c₃.contact.id ≠ c₁.contact.id := by
  obtain ⟨-, hexists, hall⟩ := contacts_by_digits (w := Sample.branches) rfl rfl (by decide) (by decide)
  obtain ⟨t, w', hr, hrange, hat, hvisits⟩ :=
    hexists (fun _ _ => none) 0 Sample.visits ⟨by decide, by decide⟩ (by decide)
      (fun _ hv => (Sample.branches_visited hv).1) fun _ hv => (Sample.branches_visited hv).2
  obtain ⟨-, hresolved⟩ := hall _ _ w' hr hrange (fun _ _ => nofun) hat
  unfold Sample.visits at hvisits
  obtain - | ⟨⟨c₁, h₁⟩, - | ⟨⟨c₂, h₂⟩, - | ⟨⟨c₃, h₃⟩, ⟨⟩⟩⟩⟩ := hvisits
  obtain ⟨⟨-, hphone, -⟩, -, hothers⟩ := hresolved _ (by simp) _ _ c₁ h₁
  obtain ⟨-, hsame, -⟩ := hothers _ (by simp) _ _ c₂ h₂
  obtain ⟨-, -, hother⟩ := hothers _ (by simp) _ _ c₃ h₃
  have hdigits : Sender.digits ⟨"+1 (555) 0002", some " Ada "⟩ = "15550002" ∧
      Sender.digits ⟨"1-555-0002", none⟩ = "15550002" := by
    decide +kernel
  rw [hdigits.1] at hphone
  exact ⟨_, _, _, w', c₁, c₂, c₃, hr, h₁, h₂, h₃, hphone, (hsame rfl).2 (hdigits.2.trans hdigits.1.symm),
    hother (by decide)⟩

end Intake
