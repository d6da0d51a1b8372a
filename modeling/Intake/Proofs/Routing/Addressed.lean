import Intake.Proofs.Routing.Safe
import Intake.Proofs.Webhook.Business

/-!
# The business value that a channel was found by

A job for a business account goes to the channel whose number id stands in the metadata of the payload's first business
value; when its events are read, every value with another number id is left out. Both sides read the same place of the
payload, but the one trims text and writes numbers as JSON does, the other takes text as it is and writes numbers in
full. `Json.ReadsAlike` is when that makes no difference, and the first value is kept exactly then
(`resolved_value_kept_iff`).
-/

namespace Intake

open Json Json.Record Webhook

namespace Routing

/-- The first business value of a payload. -/
def firstValue? (payload : Json) : Option Json := descendant? ["entry", "0", "changes", "0", "value"] payload

variable {payload j : Json} {name : String}

theorem descendant?_append (path path' : List String) :
    descendant? (path ++ path') payload = (descendant? path payload).bind (descendant? path') := by
  induction path generalizing payload with
  | nil => rfl
  | cons token path ih =>
    simp only [List.cons_append, descendant?]
    cases child? token payload with
    | none => rfl
    | some j => exact ih

/-- A name that is no index leads into an object. -/
theorem child?_name (hname : index? name = none) (h : child? name payload = some j) :
    ∃ ms, payload = .object ms ∧ ms.lookup name = some j := by
  cases payload with
  | object ms => exact ⟨ms, rfl, h⟩
  | array xs => rw [child?, hname] at h; cases h
  | _ => cases h

theorem child?_zero {xs : List Json} (h : child? "0" (.array xs) = some j) : ∃ rest, xs = j :: rest := by
  have h' : xs[0]? = some j := h
  cases xs with
  | nil => cases h'
  | cons x xs =>
    cases h'
    exact ⟨xs, rfl⟩

end Routing

namespace Webhook

variable {payload raw : Json}

theorem list?_head {α : Type} {decode : Json → Option α} {j x : Json} {as : List α} (h : list? decode j = some as)
    (hx : Routing.child? "0" j = some x) : ∃ a rest, decode x = some a ∧ as = a :: rest := by
  obtain ⟨xs, rfl, hxs⟩ := forall₂_of_list? h
  obtain ⟨ys, rfl⟩ := Routing.child?_zero hx
  cases hxs with
  | @cons _ a _ rest ha => exact ⟨a, rest, ha, rfl⟩

theorem CloudEnvelope.values_eq_cons {envelope : CloudEnvelope}
    (he : CloudEnvelope.record.decode payload = some envelope) (hv : Routing.firstValue? payload = some raw) :
    ∃ v rest, BusinessValue.record.decode raw = some v ∧ envelope.values = v :: rest := by
  obtain ⟨entries, hentries, hv⟩ := Option.bind_eq_some_iff.1 hv
  obtain ⟨entry, hentry, hv⟩ := Option.bind_eq_some_iff.1 hv
  obtain ⟨changes, hchanges, hv⟩ := Option.bind_eq_some_iff.1 hv
  obtain ⟨change, hchange, hv⟩ := Option.bind_eq_some_iff.1 hv
  obtain ⟨value, hvalue, hv⟩ := Option.bind_eq_some_iff.1 hv
  cases hv
  obtain ⟨ms, rfl, hms⟩ := Routing.child?_name (by decide) hentries
  obtain ⟨es, rfl, hes⟩ := Routing.child?_name (by decide) hchanges
  obtain ⟨cs, rfl, hcs⟩ := Routing.child?_name (by decide) hvalue
  -- Each record is read down to the field that the path goes through.
  obtain ⟨-, -, he⟩ := ReadsFrom.of_defaulted (readsFrom_of_decode he)
  obtain ⟨lists, hlists, he⟩ := ReadsFrom.of_defaulted he
  obtain rfl := ReadsFrom.of_pure he
  rw [part?, hms] at hlists
  obtain ⟨values, lists, hvalues, rfl⟩ := list?_head hlists hentry
  rw [← bind_pure CloudEnvelope.entry] at hvalues
  obtain ⟨values', hchanges, hvalues⟩ := ReadsFrom.of_defaulted (readsFrom_of_decode hvalues)
  obtain rfl := ReadsFrom.of_pure hvalues
  rw [part?, hes] at hchanges
  obtain ⟨v, rest, hv, rfl⟩ := list?_head hchanges hchange
  obtain ⟨value', hvalue', hv⟩ := value_of_change hv
  cases hcs.symm.trans hvalue'
  exact ⟨v, rest ++ lists.flatten, hv, rfl⟩

theorem BusinessValue.phoneNumberId?_of_decode {v : BusinessValue} {metadata id : Json}
    (hv : BusinessValue.record.decode raw = some v) (hm : Routing.child? "metadata" raw = some metadata)
    (hid : metadata.get? "phone_number_id" = some id) (hnull : id ≠ .null) :
    ∃ text, scalar? id = some text ∧ v.phoneNumberId? = some text := by
  obtain ⟨ms, rfl, hms⟩ := Routing.child?_name (by decide) hm
  cases metadata with
  | object fields =>
    obtain ⟨metadata', hmetadata, hv⟩ := ReadsFrom.of_defaulted (readsFrom_of_decode hv)
    iterate 3 obtain ⟨_, -, hv⟩ := ReadsFrom.of_defaulted hv
    obtain rfl := ReadsFrom.of_pure hv
    rw [part?, hms, Option.elim_some, nullable_of_ne_null (by simp)] at hmetadata
    obtain ⟨metadata, hdecode, rfl⟩ := Option.map_eq_some_iff.1 hmetadata
    obtain ⟨display, -, hdecode⟩ := ReadsFrom.of_defaulted (readsFrom_of_decode hdecode)
    obtain ⟨text, htext, hdecode⟩ := ReadsFrom.of_defaulted hdecode
    obtain rfl := ReadsFrom.of_pure hdecode
    have hlookup : fields.lookup "phone_number_id" = some id := hid
    rw [part?, hlookup, Option.elim_some, nullable_of_ne_null hnull] at htext
    obtain ⟨text, hscalar, rfl⟩ := Option.map_eq_some_iff.1 htext
    exact ⟨text, hscalar, rfl⟩
  | _ => cases hid

end Webhook

/-- Both sides take the number id for the same text: text without blanks at its ends, and numbers that JSON writes the
way they are written in full. -/
def Json.ReadsAlike : Json → Prop
  | .string s => Text.trim s = s
  | .number (.integer i) => i < 0x8000000000000000 ∨ (Double.ofInt i).text = toString i
  | .number (.decimal d) => d.text = d.render .json
  | _ => False

theorem Json.readsAlike_iff {id : Json} {text : String} (h : Routing.metadataText? id = some text) :
    id.ReadsAlike ↔ scalar? id = some text := by
  cases id with
  | string s =>
    rw [Routing.metadataText?, Text.nonBlank] at h
    split at h
    · cases h
    · cases h
      simp [ReadsAlike, scalar?, eq_comm]
  | number n =>
    cases n with
    | integer i =>
      cases h
      by_cases hi : i < 0x8000000000000000 <;> simp [ReadsAlike, scalar?, hi, Number.text]
    | decimal d =>
      cases h
      simp [ReadsAlike, scalar?, Number.text]
  | _ => cases h

instance (id : Json) : Decidable id.ReadsAlike :=
  match id with
  | .string s => inferInstanceAs (Decidable (Text.trim s = s))
  | .number (.integer i) =>
    inferInstanceAs (Decidable (i < 0x8000000000000000 ∨ (Double.ofInt i).text = toString i))
  | .number (.decimal d) => inferInstanceAs (Decidable (d.text = d.render .json))
  | .null | .bool _ | .array _ | .object _ => isFalse fun h => h

namespace Routing

variable {job : WebhookJob} {target : ResolvedChannel} {q : List Exchange}

theorem findChannel_businessAccount {channel : Channel} (hs : job.effectiveShape = .businessAccount)
    (h : (findChannel job).run.Yields q (.ok (some channel))) :
    ∃ display id, job.ShowsNumber display id ∧ channel.credentials.phoneNumberId? = some id := by
  simp only [findChannel, hs] at h
  split at h
  · next display id hb =>
    rcases Attempt.yields_bind.1 h with ⟨e, -, h'⟩ | ⟨t₁, found, t₂, rfl, -, h₂⟩
    · cases h'
    · obtain ⟨hfound, hid⟩ := Option.filter_eq_some_iff.1 (Except.ok.inj h₂.2).symm
      exact ⟨display, id, businessNumber?_eq_some_iff.1 hb, of_decide_eq_true hid⟩
  · cases h.2

theorem findChannel_of_resolve (h : (resolve job).run.Yields q (.ok (.active target))) :
    ∃ t, (findChannel job).run.Yields t (.ok (some target.channel)) := by
  rcases Attempt.yields_bind.1 h with ⟨e, -, h'⟩ | ⟨t₁, channel, t₂, rfl, h₁, h₂⟩
  · cases h'
  refine ⟨t₁, ?_⟩
  split at h₂
  · cases h₂.2
  · split at h₂
    · cases h₂.2
    · rcases Attempt.yields_bind.1 h₂ with ⟨e, -, h'⟩ | ⟨t₃, status, t₄, rfl, -, h₄⟩
      · cases h'
      · split at h₄
        · cases h₄.2
        · rcases Attempt.yields_bind.1 h₄ with ⟨e, -, h'⟩ | ⟨t₅, inbox, t₆, rfl, -, h₆⟩
          · cases h'
          · split at h₆
            · cases h₆.2
              exact h₁
            · cases h₆.2

end Routing

theorem ResolvedChannel.events_of_cloud {target : ResolvedChannel} {job : WebhookJob} {envelope : CloudEnvelope}
    (hp : target.channel.provider = .cloud) (he : CloudEnvelope.record.decode job.payload = some envelope) :
    target.events job = envelope.events target.channel.credentials.phoneNumberId? := by
  simp only [events, Webhook.normalize, hp, Payload.parse?, he, Option.map_some, Payload.events]

/-- The value by whose number id the channel was found is the first of the envelope, and its events come first, exactly
if that number id is read alike by both sides; otherwise all of them are left out. -/
theorem resolved_value_kept_iff {job : WebhookJob} {target : ResolvedChannel} {q : List Exchange}
    {envelope : CloudEnvelope} (h : (Routing.resolve job).run.Yields q (.ok (.active target)))
    (hs : job.effectiveShape = .businessAccount) (hp : target.channel.provider = .cloud)
    (he : CloudEnvelope.record.decode job.payload = some envelope) :
    ∃ raw v rest id, Routing.firstValue? job.payload = some raw ∧ BusinessValue.record.decode raw = some v ∧
      envelope.values = v :: rest ∧ Routing.descendant? ["metadata", "phone_number_id"] raw = some id ∧
      Routing.metadataText? id = target.channel.credentials.phoneNumberId? ∧
      (CloudEnvelope.isFor target.channel.credentials.phoneNumberId? v = true ↔ id.ReadsAlike) ∧
      target.events job = (if id.ReadsAlike then v.events .cloud else []) ++
        (CloudEnvelope.mk rest).events target.channel.credentials.phoneNumberId? := by
  obtain ⟨t, ht⟩ := Routing.findChannel_of_resolve h
  obtain ⟨display, text, ⟨metadata, hm, -, hid⟩, hc⟩ := Routing.findChannel_businessAccount hs ht
  obtain ⟨id, hget, htext⟩ := Option.bind_eq_some_iff.1 hid
  -- The metadata lie in the first value, and the number id in the metadata.
  obtain ⟨raw, hraw, hm⟩ := Option.bind_eq_some_iff.1
    (Routing.descendant?_append ["entry", "0", "changes", "0", "value"] ["metadata"] ▸ hm)
  have hmetadata : Routing.child? "metadata" raw = some metadata := by
    simpa [Routing.descendant?] using hm
  have hpath : Routing.descendant? ["metadata", "phone_number_id"] raw = some id := by
    cases metadata with
    | object fields =>
      rw [Routing.descendant?, hmetadata, Option.bind_some, Routing.descendant?]
      exact Option.bind_eq_some_iff.2 ⟨id, hget, rfl⟩
    | _ => cases hget
  have hnull : id ≠ .null := by
    rintro rfl
    cases htext
  obtain ⟨v, rest, hv, hvalues⟩ := CloudEnvelope.values_eq_cons he hraw
  obtain ⟨read, hread, hvid⟩ := BusinessValue.phoneNumberId?_of_decode hv hmetadata hget hnull
  have hkept : CloudEnvelope.isFor target.channel.credentials.phoneNumberId? v = true ↔ id.ReadsAlike := by
    simp [Json.readsAlike_iff htext, CloudEnvelope.isFor, hread, hc, hvid, eq_comm]
  refine ⟨raw, v, rest, id, hraw, hv, hvalues, hpath, htext.trans hc.symm, hkept, ?_⟩
  rw [ResolvedChannel.events_of_cloud hp he, CloudEnvelope.events, hvalues, List.filter_cons]
  by_cases hr : id.ReadsAlike
  · rw [if_pos (hkept.2 hr), if_pos hr]
    rfl
  · rw [if_neg (fun hf => hr (hkept.1 hf)), if_neg hr]
    rfl

/-! ## Two payloads -/

namespace Sample

/-- A channel with a number id. -/
def numberedWorld : World :=
  { world with store := .seeded [(0, .cloud, "+15550001", ⟨[("phone_number_id", "pn-1")]⟩)] }

/-- A business value with one message, for that number id. -/
def valueFor (id : String) : Json :=
  .object
    [("metadata", .object [("display_phone_number", .string "15550001"), ("phone_number_id", .string id)]),
      ("messages", .array [.object
        [("id", .string "wamid.1"), ("from", .string "15550002"), ("type", .string "text"),
          ("text", .object [("body", .string "hello")])]])]

def numberedJob (id : String) : WebhookJob :=
  .ofPayload (.object
    [("object", .string "whatsapp_business_account"),
      ("entry", .array [.object [("changes", .array [.object [("value", valueFor id)]])]])])

/-- The channel that is found for a job. -/
def found? (job : WebhookJob) : Option ResolvedChannel :=
  ((Outage.replay {}).run? [] (Routing.resolve job).run numberedWorld).bind fun played =>
    match played.2.1 with
    | .ok (.active target) => some target
    | _ => none

theorem exists_resolve {job : WebhookJob} {target : ResolvedChannel} (h : found? job = some target) :
    ∃ q, (Routing.resolve job).run.Yields q (.ok (.active target)) := by
  obtain ⟨⟨q, resolution, w⟩, hplay, h⟩ := Option.bind_eq_some_iff.1 h
  refine ⟨q, ?_⟩
  dsimp only at h
  split at h
  · cases h
    exact ((Outage.replay_within {}).run hplay).1
  · cases h

end Sample

/-- A value for the channel's own number id is kept. -/
theorem plain_number_id_kept :
    ∃ q target envelope v rest, (Routing.resolve (Sample.numberedJob "pn-1")).run.Yields q (.ok (.active target)) ∧
      (Sample.numberedJob "pn-1").effectiveShape = .businessAccount ∧ target.channel.provider = .cloud ∧
      CloudEnvelope.record.decode (Sample.numberedJob "pn-1").payload = some envelope ∧
      envelope.values = v :: rest ∧ CloudEnvelope.isFor target.channel.credentials.phoneNumberId? v = true := by
  have hfound : (Sample.found? (Sample.numberedJob "pn-1")).any (·.channel.provider = .cloud) = true := by
    decide +kernel
  have hdecode : (CloudEnvelope.record.decode (Sample.numberedJob "pn-1").payload).isSome = true := by decide +kernel
  obtain ⟨target, htarget, hp⟩ := (Option.any_eq_true ..).1 hfound
  obtain ⟨envelope, he⟩ := Option.isSome_iff_exists.1 hdecode
  obtain ⟨q, hq⟩ := Sample.exists_resolve htarget
  have hs : (Sample.numberedJob "pn-1").effectiveShape = .businessAccount := by decide +kernel
  obtain ⟨raw, v, rest, id, hraw, -, hvalues, hid, -, hkept, -⟩ :=
    resolved_value_kept_iff hq hs (of_decide_eq_true hp) he
  have hvalue : Routing.firstValue? (Sample.numberedJob "pn-1").payload = some (Sample.valueFor "pn-1") := rfl
  obtain rfl := Option.some.inj (hvalue.symm.trans hraw)
  have hstring : Routing.descendant? ["metadata", "phone_number_id"] (Sample.valueFor "pn-1") = some (.string "pn-1") :=
    rfl
  obtain rfl := Option.some.inj (hstring.symm.trans hid)
  have halike : (Json.string "pn-1").ReadsAlike := by decide +kernel
  exact ⟨q, target, envelope, v, rest, hq, hs, of_decide_eq_true hp, he, hvalues, hkept.2 halike⟩

/-- With blanks around the number id the channel is found, but the one message of the value is left out. -/
theorem padded_number_id_left_out :
    ∃ q target envelope v rest, (Routing.resolve (Sample.numberedJob " pn-1 ")).run.Yields q (.ok (.active target)) ∧
      (Sample.numberedJob " pn-1 ").effectiveShape = .businessAccount ∧ target.channel.provider = .cloud ∧
      CloudEnvelope.record.decode (Sample.numberedJob " pn-1 ").payload = some envelope ∧
      envelope.values = v :: rest ∧ (v.events .cloud).length = 1 ∧
      target.events (Sample.numberedJob " pn-1 ") = [] := by
  have hfound : (Sample.found? (Sample.numberedJob " pn-1 ")).any (fun target =>
      target.channel.provider = .cloud ∧ (target.events (Sample.numberedJob " pn-1 ")).length = 0) = true := by
    decide +kernel
  have hdecode : (CloudEnvelope.record.decode (Sample.numberedJob " pn-1 ").payload).any (fun envelope =>
      envelope.values.head?.any fun v => (v.events .cloud).length = 1) = true := by
    decide +kernel
  obtain ⟨target, htarget, htests⟩ := (Option.any_eq_true ..).1 hfound
  obtain ⟨hp, hevents⟩ := of_decide_eq_true htests
  obtain ⟨envelope, he, hhead⟩ := (Option.any_eq_true ..).1 hdecode
  obtain ⟨v, hv, hlength⟩ := (Option.any_eq_true ..).1 hhead
  obtain ⟨rest, hvalues⟩ := List.head?_eq_some_iff.1 hv
  obtain ⟨q, hq⟩ := Sample.exists_resolve htarget
  exact ⟨q, target, envelope, v, rest, hq, by decide +kernel, hp, he, hvalues, of_decide_eq_true hlength,
    List.length_eq_zero_iff.1 hevents⟩

end Intake
