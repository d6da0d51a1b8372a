import Intake.Proofs.Webhook.Keys

/-!
# Quoted numbers

Providers do not agree on whether ids and codes are quoted, so they are read leniently. `Quoting` relates payloads of
which one has some integers in quotes where the other has them bare, at the places that are read so. The events are the
same but for the raw entries, as long as the integers are read by their digits (`Legible`). An integer that does not fit
a signed word is read through a double, and the digits that this leaves need not be its own.
-/

namespace Intake

/-- The event without the entry that it was read from. -/
def IncomingEvent.withoutRaw (e : IncomingEvent) : IncomingEvent := { e with raw := .null }

namespace Webhook

open Json Record

/-- The integer is read by its digits. -/
def Legible (i : Int) : Prop := i < 2 ^ 63 ∨ (Double.ofInt i).text = toString i

instance (i : Int) : Decidable (Legible i) := inferInstanceAs (Decidable (_ ∨ _))

theorem scalar?_eq_iff (i : Int) : scalar? (.number (.integer i)) = some (toString i) ↔ Legible i := by
  rw [scalar?, Legible, Option.some.injEq]
  split
  · next h => exact iff_of_true rfl (.inl h)
  · next h => exact ⟨.inr, fun hl => hl.resolve_left h⟩

/-! ## Where numbers may be quoted -/

namespace Quoting

variable (K : Int → Prop)

/-- The same, or bare and quoted, which `K` must allow. -/
inductive Scalar : Json → Json → Prop
  | same {j : Json} : Scalar j j
  | quoted {i : Int} : K i → Scalar (.number (.integer i)) (.string (toString i))

def error : Layout := [("code", Scalar K), ("title", Eq), ("message", Eq)]

def phone : Layout := [("phone", Scalar K)]

def card : Layout := [("name", Eq), ("phones", Items (Fields (phone K)))]

def message : Layout :=
  [("id", Scalar K), ("from", Scalar K), ("type", Eq), ("text", Eq), ("image", Eq), ("video", Eq), ("audio", Eq),
    ("voice", Eq), ("document", Eq), ("location", Eq), ("contacts", Items (Fields (card K))), ("button", Eq),
    ("interactive", Eq), ("context", Eq), ("errors", Items (Fields (error K)))]

def status : Layout := [("id", Scalar K), ("status", Eq), ("errors", Items (Fields (error K)))]

def person : Layout := [("wa_id", Scalar K), ("profile", Eq)]

def metadata : Layout := [("display_phone_number", Scalar K), ("phone_number_id", Scalar K)]

/-- Of a business value. -/
def value : Json → Json → Prop :=
  Fields (BusinessValue.layout (Fields (metadata K)) (Items (Fields (person K))) (Items (Fields (message K)))
    (Items (Fields (status K))))

def cloud : Json → Json → Prop := Fields (CloudEnvelope.layout (value K))

/-- Of what a Gupshup message of that type contains. -/
def content (type : Option Json) : Json → Json → Prop :=
  match type with
  | some (.string "contact") => Fields [("contacts", Items (Fields (card K)))]
  | _ => Eq

def inbound (type : Option Json) : Layout :=
  [("id", Scalar K), ("source", Scalar K), ("type", Eq), ("payload", content K type),
    ("sender", Fields [("phone", Scalar K), ("name", Eq)]), ("context", Eq)]

def report : Layout :=
  [("id", Scalar K), ("gsId", Eq), ("type", Eq), ("payload", Fields [("code", Scalar K), ("reason", Eq)])]

/-- Of what a Gupshup envelope of that type contains. -/
def enclosed (type : Option Json) (j j' : Json) : Prop :=
  match type with
  | some (.string "message") => Fields (inbound K (j.part? 2 "type")) j j'
  | some (.string "message-event") => Fields (report K) j j'
  | _ => j = j'

def gupshup (j j' : Json) : Prop :=
  Fields [("app", Eq), ("type", Eq), ("payload", enclosed K (j.part? 1 "type"))] j j'

/-- Of a provider's payload. -/
def payload : Provider → Json → Json → Prop
  | .cloud => cloud K
  | .gupshup => gupshup K
  | .default => value K

end Quoting

/-! ## Quotes do not matter -/

namespace Quoting

variable {K : Int → Prop} {j j' : Json} {v v' : BusinessValue}

theorem Scalar.eq_null_iff (h : Scalar K j j') : j = .null ↔ j' = .null := by
  cases h <;> simp

theorem filterMap_withoutRaw {α : Type} {R : Json → Json → Prop} {decode : Json → Option α}
    {make : Json → α → IncomingEvent} {xs xs' : List Json} (h : List.Forall₂ R xs xs')
    (hread : ∀ x x', R x x' → decode x = decode x')
    (hmake : ∀ x x' a, (make x a).withoutRaw = (make x' a).withoutRaw) :
    (xs.filterMap fun x => (decode x).map (make x)).map IncomingEvent.withoutRaw =
      (xs'.filterMap fun x => (decode x).map (make x)).map IncomingEvent.withoutRaw := by
  induction h with
  | nil => rfl
  | @cons x x' xs xs' hx _ ih =>
    rw [List.filterMap_cons, List.filterMap_cons, hread x x' hx]
    cases decode x' with
    | none => exact ih
    | some a => exact congrArg₂ List.cons (hmake x x' a) ih

theorem map_toList_eq {o o' : Option IncomingEvent}
    (h : Option.Rel (fun e e' => e.withoutRaw = e'.withoutRaw) o o') :
    o.toList.map IncomingEvent.withoutRaw = o'.toList.map IncomingEvent.withoutRaw := by
  cases h with
  | some h => exact congrArg (fun e => [e]) h
  | none => rfl

theorem isEmpty_eq {R : Json → Json → Prop} {xs xs' : List Json} (h : List.Forall₂ R xs xs') :
    xs.isEmpty = xs'.isEmpty := by
  cases h <;> rfl

theorem content_null (type : Option Json) : content K type .null .null := by
  unfold content
  split
  · exact .other rfl
  · rfl

theorem enclosed_null (type : Option Json) : enclosed K type .null .null := by
  unfold enclosed
  split
  · exact .other rfl
  · exact .other rfl
  · rfl

/-- The type that a reader has read, as it stands in the record. -/
theorem content_cases {type : Option Json} {kind : String} (hkind : type.elim (some "") string? = some kind)
    (h : content K type j j') :
    kind = "contact" ∧ Fields [("contacts", Items (Fields (card K)))] j j' ∨ j = j' := by
  unfold content at h
  split at h
  · exact .inl ⟨(Option.some.inj hkind).symm, h⟩
  · exact .inr h

/-- Two messages that agree but for what they contain, which is related. -/
structure InboundLike (R : Json → Json → Prop) (m m' : GupshupEnvelope.Inbound) : Prop where
  id : m.id = m'.id
  source : m.source = m'.source
  kind : m.kind = m'.kind
  payload : R m.payload m'.payload
  sender : m.sender = m'.sender
  context : m.context = m'.context

theorem envelope_like (h : gupshup K j j') :
    Option.Rel (fun g g' => g.kind = g'.kind ∧ enclosed K (j.part? 1 "type") g.payload g'.payload)
      (GupshupEnvelope.record.decode j) (GupshupEnvelope.record.decode j') := by
  refine Respects.decodes ?_ h
  refine .same rfl fun app => .same rfl fun kind => ?_
  refine .field rfl (fun _ _ hx => .some hx) (.some (enclosed_null _)) (.some (enclosed_null _)) fun p p' hp => ?_
  exact .pure ⟨rfl, hp⟩

variable (hK : ∀ i, K i → Legible i)

include hK

theorem Scalar.scalar?_eq (h : Scalar K j j') : scalar? j = scalar? j' := by
  cases h with
  | same => rfl
  | quoted hi => exact (scalar?_eq_iff _).2 (hK _ hi)

theorem Scalar.nullable_eq (h : Scalar K j j') : nullable scalar? j = nullable scalar? j' :=
  Record.nullable_eq h.eq_null_iff (h.scalar?_eq hK)

theorem error_eq (h : Fields (error K) j j') : providerError.decode j = providerError.decode j' := by
  refine Respects.decode_eq ?_ h
  refine .read rfl (fun _ _ hs => hs.nullable_eq hK) fun code => ?_
  exact .same rfl fun title => .same rfl fun message => .pure rfl

theorem card_eq (h : Fields (card K) j j') : Webhook.card.decode j = Webhook.card.decode j' := by
  have hphone : ∀ i i', Fields (phone K) i i' →
      (optionalScalar "phone").decode i = (optionalScalar "phone").decode i' := by
    intro i i' hi
    refine Respects.decode_eq ?_ hi
    rw [← bind_pure (optionalScalar "phone")]
    exact .read rfl (fun _ _ hs => hs.nullable_eq hK) fun phone => .pure rfl
  refine Respects.decode_eq ?_ h
  refine .same rfl fun name => ?_
  exact .read rfl (fun _ _ hs => hs.list?_eq hphone) fun phones => .pure rfl

theorem message_eq (h : Fields (message K) j j') : MessageEntry.record.decode j = MessageEntry.record.decode j' := by
  refine Respects.decode_eq ?_ h
  refine .read rfl (fun _ _ hs => hs.scalar?_eq hK) fun id => ?_
  refine .read rfl (fun _ _ hs => hs.nullable_eq hK) fun sender => ?_
  refine .same rfl fun kind => .same rfl fun text => ?_
  refine .same rfl fun image => .same rfl fun video => .same rfl fun audio => .same rfl fun voice => ?_
  refine .same rfl fun document => .same rfl fun location => ?_
  refine .read rfl (fun _ _ hs => Record.nullable_eq hs.eq_null_iff (hs.list?_eq fun _ _ => card_eq hK))
    fun contacts => ?_
  refine .same rfl fun button => .same rfl fun interactive => .same rfl fun context => ?_
  exact .read rfl (fun _ _ hs => hs.list?_eq fun _ _ => error_eq hK) fun errors => .pure rfl

theorem status_eq (h : Fields (status K) j j') : StatusEntry.record.decode j = StatusEntry.record.decode j' := by
  refine Respects.decode_eq ?_ h
  refine .read rfl (fun _ _ hs => hs.scalar?_eq hK) fun id => .same rfl fun status => ?_
  exact .read rfl (fun _ _ hs => hs.list?_eq fun _ _ => error_eq hK) fun errors => .pure rfl

theorem person_eq (h : Fields (person K) j j') : Person.record.decode j = Person.record.decode j' := by
  refine Respects.decode_eq ?_ h
  exact .read rfl (fun _ _ hs => hs.nullable_eq hK) fun waId => .same rfl fun profile => .pure rfl

theorem metadata_eq (h : Fields (metadata K) j j') : Metadata.record.decode j = Metadata.record.decode j' := by
  refine Respects.decode_eq ?_ h
  refine .read rfl (fun _ _ hs => hs.nullable_eq hK) fun display => ?_
  exact .read rfl (fun _ _ hs => hs.nullable_eq hK) fun id => .pure rfl

/-! ### Business values -/

theorem events_eq
    (h : BusinessValue.Like (List.Forall₂ (Fields (message K))) (List.Forall₂ (Fields (status K))) v v')
    (provider : Provider) :
    (v.events provider).map IncomingEvent.withoutRaw = (v'.events provider).map IncomingEvent.withoutRaw := by
  have hmessages : (v.messageEvents provider).map IncomingEvent.withoutRaw =
      (v'.messageEvents provider).map IncomingEvent.withoutRaw := by
    rw [BusinessValue.messageEvents, BusinessValue.messageEvents, h.messageEvent_eq provider]
    exact filterMap_withoutRaw h.messages (fun _ _ => message_eq hK) fun _ _ _ => rfl
  have hstatuses : (v.statusEvents provider).map IncomingEvent.withoutRaw =
      (v'.statusEvents provider).map IncomingEvent.withoutRaw :=
    filterMap_withoutRaw h.statuses (fun _ _ => status_eq hK) fun _ _ _ => rfl
  exact h.map_events_eq hmessages hstatuses (fun _ _ => isEmpty_eq) fun _ _ => isEmpty_eq

theorem value_like (h : value K j j') :
    Option.Rel (BusinessValue.Like (List.Forall₂ (Fields (message K))) (List.Forall₂ (Fields (status K))))
      (BusinessValue.record.decode j) (BusinessValue.record.decode j') := by
  refine BusinessValue.decode_like ?_ ?_ ?_ ?_ .nil .nil h
  · exact fun _ _ hm => Record.nullable_eq hm.eq_null_iff (metadata_eq hK hm)
  · exact fun _ _ hp => hp.list?_eq fun _ _ => person_eq hK
  · exact fun _ _ hm => hm.list? fun _ _ hx => .some hx
  · exact fun _ _ hs => hs.list? fun _ _ hx => .some hx

theorem normalize_value (h : value K j j') (ctx : Context) :
    (normalize .default j ctx).map IncomingEvent.withoutRaw =
      (normalize .default j' ctx).map IncomingEvent.withoutRaw := by
  rw [normalize_default_eq, normalize_default_eq]
  exact Option.Rel.map_elim_eq (value_like hK h) fun v v' hv => events_eq hK hv .default

theorem normalize_cloud (h : cloud K j j') (ctx : Context) :
    (normalize .cloud j ctx).map IncomingEvent.withoutRaw = (normalize .cloud j' ctx).map IncomingEvent.withoutRaw := by
  rw [normalize_cloud_eq, normalize_cloud_eq]
  refine Option.Rel.map_elim_eq (CloudEnvelope.decode_like (fun _ _ => value_like hK) h) ?_
  intro e e' hvalues
  exact CloudEnvelope.map_events_eq hvalues (fun v v' hv => hv.phoneNumberId?_eq)
    (fun v v' hv => events_eq hK hv .cloud) ctx.phoneNumberId

/-! ### Gupshup -/

theorem failure_eq (h : Fields [("code", Scalar K), ("reason", Eq)] j j') :
    GupshupEnvelope.failure.decode j = GupshupEnvelope.failure.decode j' := by
  refine Respects.decode_eq ?_ h
  exact .read rfl (fun _ _ hs => hs.nullable_eq hK) fun code => .same rfl fun reason => .pure rfl

theorem cards_eq (h : Fields [("contacts", Items (Fields (card K)))] j j') :
    GupshupEnvelope.Inbound.cards.decode j = GupshupEnvelope.Inbound.cards.decode j' := by
  refine Respects.decode_eq ?_ h
  rw [← bind_pure GupshupEnvelope.Inbound.cards]
  exact .read rfl (fun _ _ hs => hs.list?_eq fun _ _ => card_eq hK) fun cards => .pure rfl

theorem sender_eq (h : Fields [("phone", Scalar K), ("name", Eq)] j j') :
    GupshupEnvelope.Inbound.senderRecord.decode j = GupshupEnvelope.Inbound.senderRecord.decode j' := by
  refine Respects.decode_eq ?_ h
  exact .read rfl (fun _ _ hs => hs.nullable_eq hK) fun phone => .same rfl fun name => .pure rfl

theorem inbound_like {type : Option Json} (h : Fields (inbound K type) j j') :
    Option.Rel (InboundLike (content K type)) (GupshupEnvelope.Inbound.record.decode j)
      (GupshupEnvelope.Inbound.record.decode j') := by
  refine Respects.decodes ?_ h
  refine .read rfl (fun _ _ hs => hs.nullable_eq hK) fun id => ?_
  refine .read rfl (fun _ _ hs => hs.nullable_eq hK) fun source => .same rfl fun kind => ?_
  refine .field rfl (fun _ _ hx => .some hx) (.some (content_null type)) (.some (content_null type))
    fun payload payload' hp => ?_
  refine .read rfl (fun _ _ hs => Record.nullable_eq hs.eq_null_iff (sender_eq hK hs)) fun sender => ?_
  exact .same rfl fun context => .pure ⟨rfl, rfl, rfl, hp, rfl, rfl⟩

theorem content?_eq {m m' : GupshupEnvelope.Inbound} {type : Option Json}
    (hkind : type.elim (some "") string? = some m.kind) (h : InboundLike (content K type) m m') :
    GupshupEnvelope.Inbound.content? m.subtype m.payload = GupshupEnvelope.Inbound.content? m'.subtype m'.payload := by
  have hsubtype : m'.subtype = m.subtype := by
    rw [GupshupEnvelope.Inbound.subtype, GupshupEnvelope.Inbound.subtype, h.kind]
  rw [hsubtype]
  rcases content_cases hkind h.payload with ⟨hcontact, hcards⟩ | heq
  · have hcontacts : m.subtype = .contacts := by
      rw [GupshupEnvelope.Inbound.subtype, hcontact]
      rfl
    rw [hcontacts, GupshupEnvelope.Inbound.content?, GupshupEnvelope.Inbound.content?, cards_eq hK hcards]
  · rw [heq]

theorem messageEvent?_like (h : Fields (inbound K (j.part? 2 "type")) j j') (urlPhoneNumber : Option String) :
    Option.Rel (fun e e' => e.withoutRaw = e'.withoutRaw) (GupshupEnvelope.messageEvent? j urlPhoneNumber)
      (GupshupEnvelope.messageEvent? j' urlPhoneNumber) := by
  refine Option.Rel.bind (Option.Rel.mem (inbound_like hK h)) ?_
  rintro m m' ⟨hread, hm⟩
  have hcontent := content?_eq hK (GupshupEnvelope.Inbound.parts_of_decode hread).2 hm
  obtain ⟨id, source, kind, payload, sender, context⟩ := m
  obtain ⟨_, _, _, payload', _, _⟩ := m'
  obtain ⟨rfl, rfl, rfl, -, rfl, rfl⟩ := hm
  refine Option.Rel.bind (Option.rel_eq_iff.2 rfl) ?_
  rintro sourceId _ rfl
  refine Option.Rel.bind (Option.rel_eq_iff.2 hcontent) ?_
  rintro content _ rfl
  exact .some rfl

theorem report_like (h : Fields (report K) j j') :
    Option.Rel (fun r r' => r.id = r'.id ∧ r.gsId = r'.gsId ∧ r.kind = r'.kind ∧
        GupshupEnvelope.failure.decode r.payload = GupshupEnvelope.failure.decode r'.payload)
      (GupshupEnvelope.Report.record.decode j) (GupshupEnvelope.Report.record.decode j') := by
  refine Respects.decodes ?_ h
  refine .read rfl (fun _ _ hs => hs.nullable_eq hK) fun id => .same rfl fun gsId => .same rfl fun kind => ?_
  refine .field rfl (fun _ _ hx => .some (failure_eq hK hx)) (.some rfl) (.some rfl) fun payload payload' hp => ?_
  exact .pure ⟨rfl, rfl, rfl, hp⟩

theorem statusEvent?_like (h : Fields (report K) j j') :
    Option.Rel (fun e e' => e.withoutRaw = e'.withoutRaw) (GupshupEnvelope.statusEvent? j)
      (GupshupEnvelope.statusEvent? j') := by
  refine Option.Rel.bind (report_like hK h) ?_
  rintro ⟨id, gsId, kind, payload⟩ ⟨_, _, _, payload'⟩ ⟨rfl, rfl, rfl, hfailure⟩
  refine Option.Rel.bind (Option.rel_eq_iff.2 rfl) ?_
  rintro ⟨⟩ ⟨⟩ -
  refine Option.Rel.bind (Option.rel_eq_iff.2 rfl) ?_
  rintro sourceId _ rfl
  dsimp only at hfailure
  rw [hfailure]
  exact .some rfl

theorem enclosed_eq {type : Option Json} {kind : String} (hkind : type.elim (some "") string? = some kind)
    (h : enclosed K type j j') (urlPhoneNumber : Option String) :
    (GupshupEnvelope.events ⟨kind, j⟩ urlPhoneNumber).map IncomingEvent.withoutRaw =
      (GupshupEnvelope.events ⟨kind, j'⟩ urlPhoneNumber).map IncomingEvent.withoutRaw := by
  unfold enclosed at h
  split at h
  · obtain rfl := Option.some.inj hkind
    exact map_toList_eq (messageEvent?_like hK h urlPhoneNumber)
  · obtain rfl := Option.some.inj hkind
    exact map_toList_eq (statusEvent?_like hK h)
  · rw [h]

theorem normalize_gupshup (h : gupshup K j j') (ctx : Context) :
    (normalize .gupshup j ctx).map IncomingEvent.withoutRaw =
      (normalize .gupshup j' ctx).map IncomingEvent.withoutRaw := by
  rw [normalize_gupshup_eq, normalize_gupshup_eq]
  refine Option.Rel.map_elim_eq (Option.Rel.mem (envelope_like h)) ?_
  rintro ⟨kind, payload⟩ ⟨_, payload'⟩ ⟨hread, rfl, hpayload⟩
  exact enclosed_eq hK (GupshupEnvelope.parts_of_decode hread).1 hpayload ctx.urlPhoneNumber

/-- If all integers that may be quoted are read by their digits, quotes change no more than the raw entries. -/
theorem normalize_eq {provider : Provider} (h : Quoting.payload K provider j j') (ctx : Context) :
    (normalize provider j ctx).map IncomingEvent.withoutRaw =
      (normalize provider j' ctx).map IncomingEvent.withoutRaw := by
  cases provider with
  | cloud => exact normalize_cloud hK h ctx
  | gupshup => exact normalize_gupshup hK h ctx
  | default => exact normalize_value hK h ctx

end Quoting

/-! ## Integers as ids -/

variable {provider : Provider} {payload : Json} {ctx : Context} {e : IncomingEvent} {i : Int}

theorem toString_inj {i j : Int} (h : toString i = toString j) : i = j := by
  have hread := congrArg (fun s : String => Digits.int? s.toList) h
  simpa only [Digits.int?_toString, Option.some.injEq] using hread

theorem sourceId_of_integer (h : e ∈ normalize provider payload ctx)
    (hid : e.raw.part? 0 "id" = some (.number (.integer i))) (hi : Legible i) : e.sourceId = toString i := by
  have hscalar : (e.raw.part? 0 "id").bind scalar? = some (toString i) := by
    rw [hid, Option.bind_some, (scalar?_eq_iff i).2 hi]
  rcases normalize_cases h with ⟨-, g, hg⟩ | ⟨-, v, hv⟩
  · obtain ⟨other, hsource⟩ := GupshupEnvelope.events_id hg
    rw [idOf?, hscalar, Option.bind_some, (Text.tidy_toString i).nonBlank_eq] at hsource
    exact (Option.some.inj hsource).symm
  · rcases BusinessValue.events_id hv with hsource | ⟨-, p, hraw⟩
    · exact Option.some.inj (hsource.symm.trans hscalar)
    · rw [hraw] at hid
      cases hid

/-- A business value with one message, of which nothing is known but its id. -/
def bareId (id : Json) : Json := .object [("messages", .array [.object [("id", id)]])]

theorem normalize_bareId (id : Json) :
    (normalize .default (bareId id) {}).map (·.sourceId) = (scalar? id).toList := by
  have hdecode : (MessageEntry.record.decode (.object [("id", id)])).map (·.id) = scalar? id := by
    change (Option.map _ (((scalar? id).map _).bind _)).map _ = scalar? id
    cases scalar? id <;> rfl
  have hevents : normalize .default (bareId id) {} =
      (⟨none, [], [.object [("id", id)]], []⟩ : BusinessValue).events .default := normalize_default_eq _ _
  rw [hevents, ← hdecode]
  simp only [BusinessValue.events, BusinessValue.messageEvents, List.filterMap_cons]
  cases MessageEntry.record.decode (.object [("id", id)]) <;> rfl

theorem bareId_quoted {K : Int → Prop} (hi : K i) :
    Quoting.value K (bareId (.number (.integer i))) (bareId (.string (toString i))) := by
  have hentry : Fields (Quoting.message K) (.object [("id", .number (.integer i))])
      (.object [("id", .string (toString i))]) :=
    .object (.cons ⟨rfl, .quoted hi⟩ .nil)
  exact .object (.cons ⟨rfl, .array (.cons hentry .nil)⟩ .nil)

theorem legible_of_bareId (h : (normalize .default (bareId (.number (.integer i))) {}).map IncomingEvent.withoutRaw =
    (normalize .default (bareId (.string (toString i))) {}).map IncomingEvent.withoutRaw) : Legible i := by
  have hids := congrArg (List.map (·.sourceId)) h
  rw [List.map_map, List.map_map] at hids
  have hdigits : (scalar? (.number (.integer i))).toList = [toString i] := by
    calc (scalar? (.number (.integer i))).toList
        = (normalize .default (bareId (.number (.integer i))) {}).map (·.sourceId) := (normalize_bareId _).symm
      _ = (normalize .default (bareId (.string (toString i))) {}).map (·.sourceId) := hids
      _ = [toString i] := normalize_bareId _
  refine (scalar?_eq_iff i).1 (Option.mem_toList.1 ?_)
  rw [hdigits]
  exact List.mem_singleton_self _

/-- Quotes do no harm exactly if all integers that are quoted are read by their digits; and among such integers,
messages with different ids are different events. -/
theorem quoting_harmless_iff (K : Int → Prop) :
    ((∀ provider payload payload' ctx, Quoting.payload K provider payload payload' →
        (normalize provider payload ctx).map IncomingEvent.withoutRaw =
          (normalize provider payload' ctx).map IncomingEvent.withoutRaw) ↔ ∀ i, K i → Legible i) ∧
      ∀ provider provider' payload payload' ctx ctx', ∀ e ∈ normalize provider payload ctx,
        ∀ e' ∈ normalize provider' payload' ctx', ∀ i i', e.raw.part? 0 "id" = some (.number (.integer i)) →
          e'.raw.part? 0 "id" = some (.number (.integer i')) → Legible i → Legible i' → i ≠ i' →
            e.sourceId ≠ e'.sourceId := by
  refine ⟨⟨?_, ?_⟩, ?_⟩
  · intro h i hi
    exact legible_of_bareId (h .default _ _ {} (bareId_quoted hi))
  · intro hK provider payload payload' ctx h
    exact Quoting.normalize_eq hK h ctx
  · intro provider provider' payload payload' ctx ctx' e he e' he' i i' hid hid' hi hi' hne heq
    rw [sourceId_of_integer he hid hi, sourceId_of_integer he' hid' hi'] at heq
    exact hne (toString_inj heq)

end Webhook

namespace Sample

/-- A Gupshup report of a message that could not be delivered, with that code. -/
def failedReport (id : String) (code : Json) : Json :=
  .object
    [("type", .string "message-event"),
      ("payload", .object
        [("id", .string id), ("type", .string "failed"), ("payload", .object [("code", code)])])]

end Sample

namespace Webhook

open Json

/-- A code without quotes and one with them, and two messages whose ids are neighbours. -/
theorem signed_numbers_read :
    (normalize .gupshup (Sample.failedReport "gs-1" (.number (.integer 470))) {}).map IncomingEvent.withoutRaw =
        (normalize .gupshup (Sample.failedReport "gs-1" (.string "470")) {}).map IncomingEvent.withoutRaw ∧
      ∃ e ∈ normalize .default (bareId (.number (.integer 9223372036854775806))) {},
        ∃ e' ∈ normalize .default (bareId (.number (.integer 9223372036854775807))) {}, e.sourceId ≠ e'.sourceId := by
  obtain ⟨hquoted, hids⟩ := quoting_harmless_iff (· < 2 ^ 63)
  constructor
  · refine hquoted.2 (fun i hi => .inl hi) .gupshup _ _ {} ?_
    have hcode : Quoting.Scalar (· < 2 ^ 63) (.number (.integer 470)) (.string "470") :=
      .quoted (i := 470) (by decide)
    have hfailure : Fields [("code", Quoting.Scalar (· < 2 ^ 63)), ("reason", Eq)]
        (.object [("code", .number (.integer 470))]) (.object [("code", .string "470")]) :=
      .object (.cons ⟨rfl, hcode⟩ .nil)
    have hreport : Fields (Quoting.report (· < 2 ^ 63))
        (.object [("id", .string "gs-1"), ("type", .string "failed"),
          ("payload", .object [("code", .number (.integer 470))])])
        (.object [("id", .string "gs-1"), ("type", .string "failed"),
          ("payload", .object [("code", .string "470")])]) :=
      .object (.cons ⟨rfl, .same⟩ (.cons ⟨rfl, rfl⟩ (.cons ⟨rfl, hfailure⟩ .nil)))
    exact .object (.cons ⟨rfl, rfl⟩ (.cons ⟨rfl, hreport⟩ .nil))
  · have hevent : ∀ i : Int, ∃ e ∈ normalize .default (bareId (.number (.integer i))) {},
        e.raw.part? 0 "id" = some (.number (.integer i)) := fun i => ⟨_, List.mem_cons_self, rfl⟩
    obtain ⟨e, he, hid⟩ := hevent 9223372036854775806
    obtain ⟨e', he', hid'⟩ := hevent 9223372036854775807
    exact ⟨e, he, e', he', hids _ _ _ _ _ _ e he e' he' _ _ hid hid' (by decide) (by decide) (by decide)⟩

/-- The greatest integer that a payload can have loses its last digits unless it is quoted, and so do two neighbours,
which are then the same id. -/
theorem large_ids_misread :
    Quoting.payload (· < 2 ^ 64) .default (bareId (.number (.integer 18446744073709551615)))
        (bareId (.string "18446744073709551615")) ∧
      (normalize .default (bareId (.number (.integer 18446744073709551615))) {}).map (·.sourceId) =
        ["18446744073709552000"] ∧
      (normalize .default (bareId (.string "18446744073709551615")) {}).map (·.sourceId) = ["18446744073709551615"] ∧
      (normalize .default (bareId (.number (.integer 9223372036854775809))) {}).map (·.sourceId) =
        (normalize .default (bareId (.number (.integer 9223372036854775810))) {}).map (·.sourceId) :=
  ⟨bareId_quoted (i := 18446744073709551615) (by decide), by decide +kernel, by decide +kernel, by decide +kernel⟩

end Webhook

end Intake
