import Intake.Proofs.Routing.Addressed
import Intake.Proofs.Webhook.Gupshup

/-!
# The shape of what is understood

A job without a shape goes the way of the shape that its payload shows: a Gupshup delivery is known by an id inside the
payload that it carries. Its adapter asks for more and for less. It wants an id that is not blank, but is content with
Gupshup's own id of a delivery report, and it also reads a payload that is written by position. So a delivery that it
understands shows another shape exactly if it is `Unmarked` (`detect_understood_iff`).
-/

namespace Intake

open Json Webhook

theorem PayloadShape.detect_eq_gupshup_iff {payload : Json} :
    PayloadShape.detect payload = .gupshup ↔
      ∃ inner id, payload.get? "payload" = some (.object inner) ∧ inner.lookup "id" = some id := by
  have hother : PayloadShape.detect.ofObject payload ≠ .gupshup := by
    unfold PayloadShape.detect.ofObject
    split <;> simp
  constructor
  · intro h
    unfold PayloadShape.detect at h
    split at h
    · next inner hinner =>
      split at h
      · next hid => exact ⟨inner, _, hinner, (Option.some_get hid).symm⟩
      · exact absurd h hother
    · exact absurd h hother
  · rintro ⟨inner, id, hinner, hid⟩
    simp [PayloadShape.detect, hinner, hid]

namespace Webhook.GupshupEnvelope

/-- How an event can be understood from a delivery whose payload does not have the member `id`. -/
inductive Unmarked (members : List (String × Json)) (e : IncomingEvent) : Prop where
  /-- A delivery report that is known by Gupshup's own id only. -/
  | ownId (inner : List (String × Json)) (gsId : String) (report : StatusReport)
      (hpayload : members.lookup "payload" = some (.object inner)) (hid : inner.lookup "id" = none)
      (hgsId : inner.lookup "gsId" = some (.string gsId)) (hsource : Text.nonBlank gsId = some e.sourceId)
      (hbody : e.body = .status report)
  /-- A payload that is written by position. -/
  | positional (items : List Json) (hpayload : members.lookup "payload" = some (.array items))

variable {members : List (String × Json)} {payload : Json} {urlPhoneNumber : Option String} {e : IncomingEvent}

theorem messageEvent?_id (h : messageEvent? (.object members) urlPhoneNumber = some e) :
    ∃ id, members.lookup "id" = some id := by
  obtain ⟨-, hid⟩ := messageEvent?_sourceId h
  obtain ⟨text, htext, -⟩ := Option.bind_eq_some_iff.1 hid
  obtain ⟨id, hlookup, -⟩ := Option.bind_eq_some_iff.1 htext
  exact ⟨id, hlookup⟩

theorem statusEvent?_gsId (h : statusEvent? (.object members) = some e) (hid : members.lookup "id" = none) :
    ∃ gsId report, members.lookup "gsId" = some (.string gsId) ∧ Text.nonBlank gsId = some e.sourceId ∧
      e.body = .status report := by
  obtain ⟨-, ⟨report, hbody⟩, hsource⟩ := statusEvent?_sourceId h
  have hnone : idOf? (.object members) = none := by
    rw [idOf?, Json.part?, hid]
    rfl
  rw [hnone] at hsource
  obtain ⟨text, htext, hblank⟩ := Option.bind_eq_some_iff.1 hsource
  obtain ⟨j, hlookup, hstring⟩ := Option.bind_eq_some_iff.1 htext
  cases j with
  | string s =>
    obtain rfl := Option.some.inj hstring
    exact ⟨s, report, hlookup, hblank, hbody⟩
  | _ => cases hstring

/-- What is understood was read from the member `payload`, as a message or as a report. -/
theorem events_cases {envelope : GupshupEnvelope} (h : record.decode (.object members) = some envelope)
    (he : e ∈ envelope.events urlPhoneNumber) :
    ∃ payload, members.lookup "payload" = some payload ∧
      (messageEvent? payload urlPhoneNumber = some e ∨ statusEvent? payload = some e) := by
  have hread := mem_events he
  rw [(parts_of_decode h).2, Json.part?] at hread
  cases hl : members.lookup "payload" with
  | none =>
    rw [hl] at hread
    rcases hread with h | h <;> cases h
  | some payload =>
    rw [hl] at hread
    exact ⟨payload, rfl, hread⟩

end Webhook.GupshupEnvelope

open GupshupEnvelope in
/-- A Gupshup delivery that is understood shows its shape, unless it is unmarked. -/
theorem detect_understood_iff {members : List (String × Json)} {p : Payload} {ctx : Context} {e : IncomingEvent}
    (hp : Payload.parse? .gupshup (.object members) = some p) (he : e ∈ p.events ctx) :
    PayloadShape.detect (.object members) = .gupshup ↔ ¬ Unmarked members e := by
  rw [PayloadShape.detect_eq_gupshup_iff]
  obtain ⟨envelope, henvelope, rfl⟩ := Option.map_eq_some_iff.1 hp
  constructor
  · rintro ⟨inner, id, hinner, hid⟩ (⟨inner', gsId, report, hpayload, hnone, -⟩ | ⟨items, hpayload⟩)
    · cases hinner.symm.trans hpayload
      cases hid.symm.trans hnone
    · cases hinner.symm.trans hpayload
  · intro hmarked
    obtain ⟨payload, hpayload, hread⟩ := events_cases henvelope he
    cases payload with
    | object inner =>
      refine ⟨inner, ?_⟩
      cases hid : inner.lookup "id" with
      | some id => exact ⟨id, hpayload, rfl⟩
      | none =>
        rcases hread with h | h
        · obtain ⟨id, hid'⟩ := messageEvent?_id h
          cases hid.symm.trans hid'
        · obtain ⟨gsId, report, hgsId, hsource, hbody⟩ := statusEvent?_gsId h hid
          exact absurd (.ownId inner gsId report hpayload hid hgsId hsource hbody) hmarked
    | array items => exact absurd (.positional items hpayload) hmarked
    | _ => rcases hread with h | h <;> cases h

/-! ## Two delivery reports -/

namespace Sample

/-- A report that a message was read; `ids` are the members by which it says which one. -/
def readReport (ids : List (String × Json)) : List (String × Json) :=
  [("app", .string "DemoApp"), ("type", .string "message-event"),
    ("payload", .object (ids ++ [("type", .string "read")]))]

def nullIdReport : List (String × Json) := readReport [("id", .null), ("gsId", .string "gs-1")]

def ownIdReport : List (String × Json) := readReport [("gsId", .string "gs-1")]

theorem exists_event (payload : Json) (id : String)
    (h : ((Payload.parse? .gupshup payload).any fun p => (p.events {}).any (·.sourceId = id)) = true) :
    ∃ p e, Payload.parse? .gupshup payload = some p ∧ e ∈ p.events {} ∧ e.sourceId = id := by
  obtain ⟨p, hp, hevents⟩ := (Option.any_eq_true ..).1 h
  obtain ⟨e, he, hid⟩ := List.any_eq_true.1 hevents
  exact ⟨p, e, hp, he, of_decide_eq_true hid⟩

end Sample

/-- An id that is null marks the delivery as well. -/
theorem null_id_is_a_mark :
    ∃ p e, Payload.parse? .gupshup (.object Sample.nullIdReport) = some p ∧ e ∈ p.events {} ∧
      PayloadShape.detect (.object Sample.nullIdReport) = .gupshup := by
  obtain ⟨p, e, hp, he, -⟩ := Sample.exists_event (.object Sample.nullIdReport) "gs-1" (by decide +kernel)
  refine ⟨p, e, hp, he, (detect_understood_iff hp he).2 ?_⟩
  rintro (⟨inner, gsId, report, hpayload, hid, -⟩ | ⟨items, hpayload⟩)
  · cases hpayload
    cases hid
  · cases hpayload

/-- A report that is known by Gupshup's own id only is understood but shows no shape; without a phone number in the
address its job ends before anything is asked. -/
theorem own_id_is_no_mark :
    ∃ p e, Payload.parse? .gupshup (.object Sample.ownIdReport) = some p ∧ e ∈ p.events {} ∧ e.sourceId = "gs-1" ∧
      PayloadShape.detect (.object Sample.ownIdReport) = .direct ∧
      (perform (.ofPayload (.object Sample.ownIdReport))).run.Yields [] (.ok (.skip .channelNotFound)) := by
  obtain ⟨p, e, hp, he, hid⟩ := Sample.exists_event (.object Sample.ownIdReport) "gs-1" (by decide +kernel)
  exact ⟨p, e, hp, he, hid, by decide +kernel, rfl, rfl⟩

end Intake
