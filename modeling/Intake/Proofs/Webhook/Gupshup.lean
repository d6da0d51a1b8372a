import Intake.Proofs.Webhook.Fields

/-!
# Gupshup deliveries

An event is read from the payload that the envelope carries, as a message or as a report, and each knows its event by
the id that stands there. These are the places where the readers of a delivery take their parts from.
-/

namespace Intake.Webhook

open Json Record

/-- The id of an entry, unless it is blank. -/
def idOf? (entry : Json) : Option String := ((entry.part? 0 "id").bind scalar?).bind Text.nonBlank

namespace GupshupEnvelope

variable {j payload : Json} {urlPhoneNumber : Option String} {g : GupshupEnvelope} {e : IncomingEvent}

theorem parts_of_decode (h : record.decode j = some g) :
    (j.part? 1 "type").elim (some "") string? = some g.kind ∧ g.payload = (j.part? 2 "payload").getD .null := by
  obtain ⟨app, -, h⟩ := ReadsFrom.of_defaulted (readsFrom_of_decode h)
  obtain ⟨kind, hkind, h⟩ := ReadsFrom.of_defaulted h
  obtain ⟨payload, hpayload, h⟩ := ReadsFrom.of_defaulted h
  obtain rfl := ReadsFrom.of_pure h
  refine ⟨hkind, ?_⟩
  cases hp : j.part? 2 "payload" <;> rw [hp] at hpayload <;> exact (Option.some.inj hpayload).symm

theorem Inbound.parts_of_decode {m : Inbound} (h : Inbound.record.decode j = some m) :
    m.id = (j.part? 0 "id").bind scalar? ∧ (j.part? 2 "type").elim (some "") string? = some m.kind := by
  obtain ⟨id, hid, h⟩ := ReadsFrom.of_defaulted (readsFrom_of_decode h)
  obtain ⟨source, -, h⟩ := ReadsFrom.of_defaulted h
  obtain ⟨kind, hkind, h⟩ := ReadsFrom.of_defaulted h
  obtain ⟨payload, -, h⟩ := ReadsFrom.of_defaulted h
  obtain ⟨sender, -, h⟩ := ReadsFrom.of_optional h
  obtain ⟨context, -, h⟩ := ReadsFrom.of_optional h
  obtain rfl := ReadsFrom.of_pure h
  exact ⟨eq_bind_of_nullable rfl hid, hkind⟩

theorem Report.ids_of_decode {r : Report} (h : Report.record.decode j = some r) :
    r.id = (j.part? 0 "id").bind scalar? ∧ r.gsId = (j.part? 1 "gsId").bind string? := by
  obtain ⟨id, hid, h⟩ := ReadsFrom.of_defaulted (readsFrom_of_decode h)
  obtain ⟨gsId, hgsId, h⟩ := ReadsFrom.of_defaulted h
  obtain ⟨kind, -, h⟩ := ReadsFrom.of_defaulted h
  obtain ⟨payload, -, h⟩ := ReadsFrom.of_defaulted h
  obtain rfl := ReadsFrom.of_pure h
  exact ⟨eq_bind_of_nullable rfl hid, eq_bind_of_nullable rfl hgsId⟩

theorem mem_events (h : e ∈ g.events urlPhoneNumber) :
    messageEvent? g.payload urlPhoneNumber = some e ∨ statusEvent? g.payload = some e := by
  rw [events] at h
  split at h
  · exact .inl (Option.mem_toList.1 h)
  · exact .inr (Option.mem_toList.1 h)
  · cases h

theorem messageEvent?_sourceId (h : messageEvent? payload urlPhoneNumber = some e) :
    e.raw = payload ∧ idOf? payload = some e.sourceId := by
  obtain ⟨m, hm, h⟩ := Option.bind_eq_some_iff.1 h
  obtain ⟨sourceId, hid, h⟩ := Option.bind_eq_some_iff.1 h
  obtain ⟨content, -, h⟩ := Option.bind_eq_some_iff.1 h
  cases h
  rw [(Inbound.parts_of_decode hm).1] at hid
  exact ⟨rfl, hid⟩

theorem statusEvent?_sourceId (h : statusEvent? payload = some e) :
    e.raw = payload ∧ (∃ report, e.body = .status report) ∧
      (idOf? payload <|> ((payload.part? 1 "gsId").bind string?).bind Text.nonBlank) = some e.sourceId := by
  obtain ⟨r, hr, h⟩ := Option.bind_eq_some_iff.1 h
  obtain ⟨-, -, h⟩ := Option.bind_eq_some_iff.1 h
  obtain ⟨sourceId, hid, h⟩ := Option.bind_eq_some_iff.1 h
  cases h
  obtain ⟨hrid, hgsId⟩ := Report.ids_of_decode hr
  rw [hrid, hgsId] at hid
  exact ⟨rfl, ⟨_, rfl⟩, hid⟩

/-- Where a source id comes from: the id that the entry has, unless it is blank, and else a text. -/
theorem events_id (h : e ∈ g.events urlPhoneNumber) :
    ∃ other : Option String, (idOf? e.raw <|> other.bind Text.nonBlank) = some e.sourceId := by
  rcases mem_events h with h | h
  · obtain ⟨hraw, hid⟩ := messageEvent?_sourceId h
    refine ⟨none, ?_⟩
    rw [hraw, hid]
    rfl
  · obtain ⟨hraw, -, hid⟩ := statusEvent?_sourceId h
    exact ⟨_, hraw ▸ hid⟩

end GupshupEnvelope

end Intake.Webhook
