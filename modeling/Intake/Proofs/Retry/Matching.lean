import Intake.Proofs.Retry.Effects

/-!
# What an event does is determined up to ids

`Tables.Matches`: tables are alike, and a delivery finds the same conversations in them. A plan that is carried out
twice, in tables that match, leaves tables that match (`Takes.matches`): wherever the two have a choice, it is an id or
a moment. The renaming grows by the ids of the rows that are added, which are new on both sides because ids are not used
twice.
-/

namespace Intake

open Ingest

theorem List.Forall₂.forall_mem {α β : Type} {R : α → β → Prop} {p : α → Prop} {q : β → Prop} {l : List α} {l' : List β}
    (h : List.Forall₂ R l l') (hpq : ∀ a b, R a b → p a ∧ q b) : (∀ a ∈ l, p a) ∧ ∀ b ∈ l', q b := by
  induction h with
  | nil => exact ⟨by simp, by simp⟩
  | cons hab _ ih =>
    obtain ⟨hp, hq⟩ := hpq _ _ hab
    exact ⟨List.forall_mem_cons.2 ⟨hp, ih.1⟩, List.forall_mem_cons.2 ⟨hq, ih.2⟩⟩

namespace Tables

structure Matches (filter : ConversationFilter) (ρ : Renaming) (t t' : Tables) : Prop where
  rows : t.Like ρ t'
  found : ∀ link link', ρ.store link link' →
    Option.Rel (Conversation.Like ρ) (t.findConversation link filter) (t'.findConversation link' filter)
  oneToOne : ρ.OneToOne
  store : ∀ i j, ρ.store i j → i ∈ t.kept ∧ j ∈ t'.kept
  made : ∀ i j, ρ.made i j → i ∈ t.made ∧ j ∈ t'.made

variable {filter : ConversationFilter} {ρ : Renaming} {t t' u u' new new' : Tables} {i j : Snowflake}

/-! ## One more row -/

theorem Adds.not_mem_kept (ha : t.Adds new u) (hs : u.Spread) (hi : i ∈ new.kept) : i ∉ t.kept := by
  have hkept := hs.kept
  rw [ha.kept, Multiset.nodup_add] at hkept
  exact fun hmem => Multiset.disjoint_left.1 hkept.2.2 hmem hi

theorem Adds.not_mem_made (ha : t.Adds new u) (hs : u.Spread) (hi : i ∈ new.made) : i ∉ t.made := by
  have hmade := hs.made
  rw [ha.made, Multiset.nodup_add] at hmade
  exact fun hmem => Multiset.disjoint_left.1 hmade.2.2 hmem hi

namespace Matches

theorem findConversation_eq_none (h : t.Matches filter ρ t') (hi : i ∉ t.kept) (hj : j ∉ t'.kept) :
    t.findConversation i filter = none ∧ t'.findConversation j filter = none := by
  obtain ⟨hlinks, hlinks'⟩ := List.Forall₂.forall_mem (p := fun c => c.contactInbox ∈ t.kept)
    (q := fun c => c.contactInbox ∈ t'.kept) h.rows.conversations fun c c' hc => h.store _ _ hc.contactInbox
  exact ⟨findConversation_eq_none_iff.2 fun c hc hboth => hi (hboth.1 ▸ hlinks c hc),
    findConversation_eq_none_iff.2 fun c hc hboth => hj (hboth.1 ▸ hlinks' c hc)⟩

theorem found_of_eq {ρ' : Renaming} (h : t.Matches filter ρ t') (hv : u.conversations = t.conversations)
    (hv' : u'.conversations = t'.conversations) (hle : ρ ≤ ρ') {link link' : Snowflake} (hl : ρ.store link link') :
    Option.Rel (Conversation.Like ρ') (u.findConversation link filter) (u'.findConversation link' filter) := by
  rw [findConversation, findConversation, hv, hv']
  exact Option.Rel.mono (fun _ _ hc => hc.mono hle) (h.found link link' hl)

theorem withStore (h : t.Matches filter ρ t') (ha : t.Adds new u) (ha' : t'.Adds new' u') (hs : u.Spread)
    (hs' : u'.Spread) (hi : new.kept = {i}) (hj : new'.kept = {j}) (hv : u.conversations = t.conversations)
    (hv' : u'.conversations = t'.conversations) (rows : u.Like (ρ.withStore i j) u') :
    u.Matches filter (ρ.withStore i j) u' := by
  have hnew : i ∉ t.kept := ha.not_mem_kept hs (by simp [hi])
  have hnew' : j ∉ t'.kept := ha'.not_mem_kept hs' (by simp [hj])
  refine ⟨rows, ?_, ⟨?_, h.oneToOne.made⟩, ?_, fun a b hab => ?_⟩
  · rintro link link' (hl | ⟨rfl, rfl⟩)
    · exact h.found_of_eq hv hv' (ρ.le_withStore i j) hl
    · obtain ⟨hnone, hnone'⟩ := h.findConversation_eq_none hnew hnew'
      rw [findConversation] at hnone hnone' ⊢
      rw [findConversation, hv, hv', hnone, hnone']
      exact .none
  · exact Renaming.biUnique_insert h.oneToOne.store (fun b hb => hnew (h.store i b hb).1)
      fun a ha => hnew' (h.store a j ha).2
  · rw [ha.kept, ha'.kept, hi, hj]
    rintro a b (hab | ⟨rfl, rfl⟩)
    · exact ⟨Multiset.mem_add.2 (.inl (h.store a b hab).1), Multiset.mem_add.2 (.inl (h.store a b hab).2)⟩
    · simp
  · rw [ha.made, ha'.made]
    exact ⟨Multiset.mem_add.2 (.inl (h.made a b hab).1), Multiset.mem_add.2 (.inl (h.made a b hab).2)⟩

theorem withMade (h : t.Matches filter ρ t') (ha : t.Adds new u) (ha' : t'.Adds new' u') (hs : u.Spread)
    (hs' : u'.Spread) (hi : new.made = {i}) (hj : new'.made = {j}) (rows : u.Like (ρ.withMade i j) u')
    (found : ∀ link link', ρ.store link link' → Option.Rel (Conversation.Like (ρ.withMade i j))
      (u.findConversation link filter) (u'.findConversation link' filter)) :
    u.Matches filter (ρ.withMade i j) u' := by
  have hnew : i ∉ t.made := ha.not_mem_made hs (by simp [hi])
  have hnew' : j ∉ t'.made := ha'.not_mem_made hs' (by simp [hj])
  refine ⟨rows, found, ⟨h.oneToOne.store, ?_⟩, fun a b hab => ?_, ?_⟩
  · exact Renaming.biUnique_insert h.oneToOne.made (fun b hb => hnew (h.made i b hb).1)
      fun a ha => hnew' (h.made a j ha).2
  · rw [ha.kept, ha'.kept]
    exact ⟨Multiset.mem_add.2 (.inl (h.store a b hab).1), Multiset.mem_add.2 (.inl (h.store a b hab).2)⟩
  · rw [ha.made, ha'.made, hi, hj]
    rintro a b (hab | ⟨rfl, rfl⟩)
    · exact ⟨Multiset.mem_add.2 (.inl (h.made a b hab).1), Multiset.mem_add.2 (.inl (h.made a b hab).2)⟩
    · simp

/-! ## Steps -/

variable {inbox : Inbox} {source : String} {contact : NewContact} {c c' : ResolvedContact} {v v' : Conversation}

theorem addContactInbox (h : t.Matches filter ρ t') {l l' : ContactInbox} (hs : (t.addContactInbox l).Spread)
    (hs' : (t'.addContactInbox l').Spread) (hcontact : ρ.store l.contact l'.contact) (hinbox : l.inbox = l'.inbox)
    (hsource : l.sourceId = l'.sourceId) :
    (t.addContactInbox l).Matches filter (ρ.withStore l.id l'.id) (t'.addContactInbox l') ∧
      l.Like (ρ.withStore l.id l'.id) l' := by
  have hl : l.Like (ρ.withStore l.id l'.id) l' := ⟨.inr ⟨rfl, rfl⟩, .inl hcontact, hinbox, hsource⟩
  refine ⟨h.withStore (t.adds_link l) (t'.adds_link l') hs hs' rfl rfl rfl rfl ?_, hl⟩
  exact (h.rows.mono (ρ.le_withStore ..)).addContactInbox hl

theorem addContact (h : t.Matches filter ρ t') {c c' : Contact} (hs : (t.addContact c).Spread)
    (hs' : (t'.addContact c').Spread) (haccount : c.account = c'.account) (hname : c.name = c'.name)
    (hphone : c.phoneNumber = c'.phoneNumber) :
    (t.addContact c).Matches filter (ρ.withStore c.id c'.id) (t'.addContact c') ∧
      c.Like (ρ.withStore c.id c'.id) c' := by
  have hadds : ∀ (t : Tables) (c : Contact), t.Adds { contacts := [c] } (t.addContact c) := by
    simp [Adds, append, Tables.addContact]
  have hc : c.Like (ρ.withStore c.id c'.id) c' := ⟨.inr ⟨rfl, rfl⟩, haccount, hname, hphone⟩
  refine ⟨h.withStore (hadds t c) (hadds t' c') hs hs' rfl rfl rfl rfl ?_, hc⟩
  exact (h.rows.mono (ρ.le_withStore ..)).addContact hc

theorem addConversation (h : t.Matches filter ρ t') {v v' : Conversation} (hs : (t.addConversation v).Spread)
    (hs' : (t'.addConversation v').Spread) (hnone : t.findConversation v.contactInbox filter = none)
    (hnone' : t'.findConversation v'.contactInbox filter = none) (hopen : v.status = .open)
    (hv : v.Like (ρ.withMade v.id v'.id) v') :
    (t.addConversation v).Matches filter (ρ.withMade v.id v'.id) (t'.addConversation v') := by
  refine h.withMade (t.adds_conversation v) (t'.adds_conversation v') hs hs' rfl rfl
    ((h.rows.mono (ρ.le_withMade ..)).addConversation hv) fun link link' hl => ?_
  rw [findConversation_add hnone hopen, findConversation_add hnone' (hv.status ▸ hopen)]
  by_cases heq : v.contactInbox = link
  · have heq' : v'.contactInbox = link' := h.oneToOne.store.2 (heq ▸ hv.contactInbox) hl
    rw [if_pos heq, if_pos heq']
    exact .some hv
  · have heq' : v'.contactInbox ≠ link' := fun heq' => heq (h.oneToOne.store.1 (heq' ▸ hv.contactInbox) hl)
    rw [if_neg heq, if_neg heq']
    exact Option.Rel.mono (fun _ _ hc => hc.mono (ρ.le_withMade ..)) (h.found link link' hl)

theorem addAttachments (h : t.Matches filter ρ t') {m m' : Message} {as as' : List Attachment}
    {files : List (FileType × AttachmentPayload)} (hid : ρ.made m.id m'.id) (haccount : m.account = m'.account)
    (has : List.Forall₂ (Attachment.Holds m) as files) (has' : List.Forall₂ (Attachment.Holds m') as' files)
    (hs : Spread { t with attachments := t.attachments ++ as })
    (hs' : Spread { t' with attachments := t'.attachments ++ as' }) :
    ∃ ρ', ρ ≤ ρ' ∧ Matches filter ρ' { t with attachments := t.attachments ++ as }
      { t' with attachments := t'.attachments ++ as' } := by
  induction has generalizing t t' ρ as' with
  | nil =>
    cases has'
    exact ⟨ρ, ρ.le_refl, by simpa using h⟩
  | @cons a file as files ha _ ih =>
    obtain ⟨a', as', ha', hrest', rfl⟩ := List.forall₂_cons_right_iff.1 has'
    have hmore : ∀ (t : Tables) (a : Attachment) (as : List Attachment),
        { t with attachments := t.attachments ++ a :: as } =
          { t.addAttachment a with attachments := (t.addAttachment a).attachments ++ as } := by
      simp [addAttachment]
    rw [hmore] at hs hs' ⊢
    rw [hmore]
    have hgrows : ∀ (t : Tables) (as : List Attachment), t.Grows { t with attachments := t.attachments ++ as } :=
      fun t as => ⟨{ attachments := as }, by simp [Adds, append]⟩
    have hlike : a.Like (ρ.withMade a.id a'.id) a' := by
      rw [ha, ha']
      exact ⟨.inr ⟨rfl, rfl⟩, .inl hid, haccount, rfl, rfl⟩
    have hm : (t.addAttachment a).Matches filter (ρ.withMade a.id a'.id) (t'.addAttachment a') :=
      h.withMade (t.adds_attachment a) (t'.adds_attachment a') ((hgrows _ _).spread hs) ((hgrows _ _).spread hs')
        rfl rfl
        ((h.rows.mono (ρ.le_withMade ..)).addAttachment hlike) fun _ _ hl => h.found_of_eq rfl rfl (ρ.le_withMade ..) hl
    obtain ⟨ρ', hle, hm'⟩ := ih hm (.inl hid) hrest' hs hs'
    exact ⟨ρ', Renaming.le_trans (ρ.le_withMade ..) hle, hm'⟩

end Matches

variable {inbox : Inbox} {source : String} {new : NewContact} {c c' : ResolvedContact} {v v' : Conversation}
  {plan : Plan}

theorem Links.matches (h : t.Links new c u) (h' : t'.Links new c' u') (hm : t.Matches filter ρ t') (hs : u.Spread)
    (hs' : u'.Spread) : ∃ ρ', ρ ≤ ρ' ∧ u.Matches filter ρ' u' ∧ c.Like ρ' c' := by
  have hlink := hm.rows.findContactInbox new.inbox new.sourceId
  have hphone := hm.rows.findContactByPhone new.account new.phoneNumber
  cases h with
  | linked hl hc =>
    obtain ⟨l', hl', hll⟩ := Option.Rel.exists_of_some hlink hl
    obtain ⟨d, hd, hcc⟩ := Option.Rel.exists_of_some (hm.rows.findContact hm.oneToOne.store hll.contact) hc
    -- What is found decides what is done, so the other side has found it as well.
    obtain ⟨rfl, rfl⟩ := h'.eq_of_found (c := ⟨d, l'⟩) hl' hd
    exact ⟨ρ, ρ.le_refl, hm, hcc, hll⟩
  | known hl hc heq =>
    have hnone := Option.Rel.eq_none hlink hl
    obtain ⟨d, hd, hcc⟩ := Option.Rel.exists_of_some hphone hc
    cases h' with
    | linked hl' => cases hnone.symm.trans hl'
    | known _ hc' heq' =>
      obtain rfl := Option.some.inj (hd.symm.trans hc')
      obtain ⟨hm', hll⟩ := hm.addContactInbox hs hs' (by rw [heq, heq']; exact hcc.id) (by rw [heq, heq'])
        (by rw [heq, heq'])
      exact ⟨_, ρ.le_withStore .., hm', hcc.mono (ρ.le_withStore ..), hll⟩
    | new _ hc' => cases hd.symm.trans hc'
  | new hl hc hceq heq =>
    have hnone := Option.Rel.eq_none hlink hl
    have hunknown := Option.Rel.eq_none hphone hc
    cases h' with
    | linked hl' => cases hnone.symm.trans hl'
    | known _ hc' => cases hunknown.symm.trans hc'
    | new _ _ hceq' heq' =>
      obtain ⟨hm₁, hcc⟩ := hm.addContact (Grows.spread ⟨_, adds_link _ _⟩ hs) (Grows.spread ⟨_, adds_link _ _⟩ hs')
        (by rw [hceq, hceq']) (by rw [hceq, hceq']) (by rw [hceq, hceq'])
      obtain ⟨hm₂, hll⟩ := hm₁.addContactInbox hs hs' (by rw [heq, heq']; exact hcc.id) (by rw [heq, heq'])
        (by rw [heq, heq'])
      exact ⟨_, Renaming.le_trans (ρ.le_withStore ..) (Renaming.le_withStore ..), hm₂,
        hcc.mono (Renaming.le_withStore ..), hll⟩

theorem Joins.matches {contact contact' : ResolvedContact} (h : t.Joins inbox contact v u)
    (h' : t'.Joins inbox contact' v' u') (hm : t.Matches inbox.joinable ρ t') (hc : contact.Like ρ contact')
    (hs : u.Spread) (hs' : u'.Spread) : ∃ ρ', ρ ≤ ρ' ∧ u.Matches inbox.joinable ρ' u' ∧ v.Like ρ' v' := by
  have hfound := hm.found _ _ hc.contactInbox.id
  cases h with
  | existing hv =>
    obtain ⟨_, hv', hvv⟩ := Option.Rel.exists_of_some hfound hv
    obtain ⟨rfl, rfl⟩ := h'.eq_of_found hv'
    exact ⟨ρ, ρ.le_refl, hm, hvv⟩
  | opened hnone hv =>
    have hnone' := Option.Rel.eq_none hfound hnone
    cases h' with
    | existing hv' => cases hnone'.symm.trans hv'
    | opened _ hv' =>
      have hvv : v.Like (ρ.withMade v.id v'.id) v' := by
        rw [hv, hv']
        exact ⟨.inr ⟨rfl, rfl⟩, rfl, rfl, hc.contact.id, hc.contactInbox.id, rfl⟩
      have hlink : v.contactInbox = contact.contactInbox.id := by rw [hv]
      have hlink' : v'.contactInbox = contact'.contactInbox.id := by rw [hv']
      refine ⟨_, ρ.le_withMade .., hm.addConversation hs hs' (hlink ▸ hnone) (hlink' ▸ hnone') ?_ hvv, hvv⟩
      rw [hv]

theorem Like.keys (h : t.Like ρ t') : t.keys = t'.keys := by
  rw [Tables.keys, Tables.keys, ← List.forall₂_eq_eq_eq, List.forall₂_map_left_iff, List.forall₂_map_right_iff]
  exact h.messages.imp fun m m' hm => Prod.ext hm.inbox hm.sourceId

theorem Matches.addDraft {letter : Letter} {contact contact' : Contact} {d d' : Draft} (h : t.Matches filter ρ t')
    (hd : letter.Conveys inbox source v contact d) (hd' : letter.Conveys inbox source v' contact' d') (hv : v.Like ρ v')
    (hc : contact.Like ρ contact') (hs : (t.addDraft d).Spread) (hs' : (t'.addDraft d').Spread) :
    ∃ ρ', ρ ≤ ρ' ∧ (t.addDraft d).Matches filter ρ' (t'.addDraft d') := by
  obtain ⟨⟨id, time, hmessage⟩, hfiles⟩ := hd
  obtain ⟨⟨id', time', hmessage'⟩, hfiles'⟩ := hd'
  have hgrows : ∀ (t : Tables) (d : Draft), Grows { t with messages := t.messages ++ [d.message] } (t.addDraft d) :=
    fun t d => ⟨{ attachments := d.attachments }, by simp [Adds, append, Tables.addDraft]⟩
  have hlike : d.message.Like (ρ.withMade d.message.id d'.message.id) d'.message := by
    rw [hmessage, hmessage']
    exact ⟨.inr ⟨rfl, rfl⟩, rfl, rfl, .inl hv.id, .some hc.id, rfl, rfl, rfl, rfl, rfl, rfl⟩
  have hm : Matches filter (ρ.withMade d.message.id d'.message.id) { t with messages := t.messages ++ [d.message] }
      { t' with messages := t'.messages ++ [d'.message] } :=
    h.withMade (t.adds_message d.message) (t'.adds_message d'.message) ((hgrows t d).spread hs)
      ((hgrows t' d').spread hs') rfl rfl ((h.rows.mono (ρ.le_withMade ..)).addMessage hlike)
      fun _ _ hl => h.found_of_eq rfl rfl (ρ.le_withMade ..) hl
  obtain ⟨ρ', hle, hm'⟩ := hm.addAttachments hlike.id hlike.account hfiles hfiles' hs hs'
  exact ⟨ρ', Renaming.le_trans (ρ.le_withMade ..) hle, hm'⟩

theorem Takes.matches (h : t.Takes inbox source plan u) (h' : t'.Takes inbox source plan u')
    (hm : t.Matches inbox.joinable ρ t') (hs : u.Spread) (hs' : u'.Spread) :
    ∃ ρ', ρ ≤ ρ' ∧ u.Matches inbox.joinable ρ' u' := by
  cases h with
  | nothing =>
    cases h'
    exact ⟨ρ, ρ.le_refl, hm⟩
  | contact hl =>
    cases h' with
    | contact hl' =>
      obtain ⟨ρ', hle, hm', -⟩ := hl.matches hl' hm hs hs'
      exact ⟨ρ', hle, hm'⟩
  | stored hk =>
    cases h' with
    | stored => exact ⟨ρ, ρ.le_refl, hm⟩
    | written hk' => exact absurd (hm.rows.keys ▸ hk) hk'
  | written hk hready hd =>
    cases h' with
    | stored hk' => exact absurd (hm.rows.keys.symm ▸ hk') hk
    | written hk' hready' hd' =>
      have hspread := Grows.spread ⟨_, adds_draft _ _⟩ hs
      have hspread' := Grows.spread ⟨_, adds_draft _ _⟩ hs'
      obtain ⟨hl, hj⟩ := hready
      obtain ⟨hl', hj'⟩ := hready'
      obtain ⟨ρ₁, hle₁, hm₁, hc⟩ := hl.matches hl' hm (hj.grows.spread hspread) (hj'.grows.spread hspread')
      obtain ⟨ρ₂, hle₂, hm₂, hv⟩ := hj.matches hj' hm₁ hc hspread hspread'
      obtain ⟨ρ₃, hle₃, hm₃⟩ := hm₂.addDraft hd hd' hv (hc.mono hle₂).contact hs hs'
      exact ⟨ρ₃, Renaming.le_trans hle₁ (Renaming.le_trans hle₂ hle₃), hm₃⟩

theorem TakesAll.matches {target : ResolvedChannel} {fetch : Channel → MediaDescriptor → Option FetchedMedia}
    {es : List IncomingEvent} (h : TakesAll target fetch es t u) (h' : TakesAll target fetch es t' u')
    (hm : t.Matches target.inbox.joinable ρ t') (hs : u.Spread) (hs' : u'.Spread) :
    ∃ ρ', ρ ≤ ρ' ∧ u.Matches target.inbox.joinable ρ' u' := by
  induction h generalizing t' ρ with
  | nil =>
    cases h'
    exact ⟨ρ, ρ.le_refl, hm⟩
  | cons hfirst hrest ih =>
    cases h' with
    | cons hfirst' hrest' =>
      obtain ⟨ρ₁, hle₁, hm₁⟩ := hfirst.matches hfirst' hm (hrest.grows.spread hs) (hrest'.grows.spread hs')
      obtain ⟨ρ₂, hle₂, hm₂⟩ := ih hrest' hm₁ hs
      exact ⟨ρ₂, Renaming.le_trans hle₁ hle₂, hm₂⟩

theorem Coherent.matches_rows (h : t.Coherent) (filter : ConversationFilter) : t.Matches filter (.rows t) t := by
  refine ⟨h.like_rows, ?_, ⟨⟨?_, ?_⟩, ⟨?_, ?_⟩⟩, ?_, ?_⟩
  · rintro link _ ⟨rfl, -⟩
    cases hfound : t.findConversation link filter with
    | none => exact .none
    | some c =>
      have hmem : c ∈ t.conversations := (List.mem_filter.1 (Conversation.mem_of_latest? hfound)).1
      exact .some (List.forall₂_same.1 h.like_rows.conversations c hmem)
  · exact fun i k j hij hkj => hij.1.trans hkj.1.symm
  · exact fun i j k hij hik => hij.1.symm.trans hik.1
  · exact fun i k j hij hkj => hij.1.trans hkj.1.symm
  · exact fun i j k hij hik => hij.1.symm.trans hik.1
  · rintro i _ ⟨rfl, hi⟩
    exact ⟨hi, hi⟩
  · rintro i _ ⟨rfl, hi⟩
    exact ⟨hi, hi⟩

end Tables

/-- What a delivery does to tables that are in order is determined up to the ids that are made. -/
theorem Resolution.Does.like {res : Resolution} {fetch : Channel → MediaDescriptor → Option FetchedMedia}
    {job : WebhookJob} {t u u' : Tables} (h : res.Does fetch job t u) (h' : res.Does fetch job t u') (ht : t.Coherent)
    (hs : u.Spread) (hs' : u'.Spread) : ∃ ρ : Renaming, ρ.OneToOne ∧ .rows t ≤ ρ ∧ u.Like ρ u' := by
  cases res with
  | active target =>
    obtain ⟨ρ, hle, hm⟩ := Tables.TakesAll.matches h h' (ht.matches_rows _) hs hs'
    exact ⟨ρ, hm.oneToOne, hle, hm.rows⟩
  | notFound | inactive =>
    obtain rfl : u = t := h
    obtain rfl : u' = u := h'
    have hm := ht.matches_rows .any
    exact ⟨.rows u', hm.oneToOne, Renaming.le_refl _, hm.rows⟩

end Intake
