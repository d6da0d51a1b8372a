import Intake.Proofs.Webhook.Worded

/-!
# The source ids of events

An event is known by its source id. Where the id is tidied up when it is read, as Gupshup's ids and those of contact
cards are, it is always tidy. The ids of business messages and reports are taken as they are written: they are tidy
exactly if they are written so (`sourceId_tidy_iff`), and messages with blank ids are taken for one another
(`blank_ids_collide`).
-/

namespace Intake

open Text

/-- A number, or a text that is tidy as it is written. -/
def Json.IsTidy : Json → Prop
  | number _ => True
  | string s => Tidy s
  | _ => False

namespace Webhook

open Json

/-- As numbers are written tidily, only a text can be read as an id that is not tidy. -/
theorem tidy_iff_of_scalar? {j : Json} {s : String} (h : scalar? j = some s) : Tidy s ↔ j.IsTidy := by
  cases j with
  | string t =>
    obtain rfl := Option.some.inj h
    exact Iff.rfl
  | number n =>
    have hs : Tidy s := by
      cases n with
      | integer i =>
        obtain rfl := Option.some.inj h
        split
        · exact tidy_toString i
        · exact Double.tidy_text _
      | decimal d =>
        obtain rfl := Option.some.inj h
        exact Double.tidy_text d
    exact iff_of_true hs trivial
  | _ => cases h

variable {provider : Provider} {payload : Json} {ctx : Context} {e : IncomingEvent}

theorem GupshupEnvelope.events_sourceId {g : GupshupEnvelope} {urlPhoneNumber : Option String}
    (h : e ∈ g.events urlPhoneNumber) : Tidy e.sourceId := by
  obtain ⟨other, hid⟩ := events_id h
  exact (mem_orElse hid).elim tidy_of_bind tidy_of_bind

/-- The source ids that are tidy: all of Gupshup and all of contact cards, and of business messages and reports those
that are written as numbers, or as texts that are tidy. -/
theorem sourceId_tidy_iff (h : e ∈ normalize provider payload ctx) :
    Tidy e.sourceId ↔
      provider = .gupshup ∨ e.body = .contactCard ∨ ∃ id, e.raw.part? 0 "id" = some id ∧ id.IsTidy := by
  have hcard : e.body = .contactCard → Tidy e.sourceId := (normalize_wellFormed h).card_sourceId
  rcases normalize_cases h with ⟨rfl, g, hg⟩ | ⟨hp, v, hv⟩
  · exact iff_of_true (GupshupEnvelope.events_sourceId hg) (.inl rfl)
  rcases BusinessValue.events_id hv with hid | ⟨hb, -⟩
  · obtain ⟨id, hpart, hscalar⟩ := Option.bind_eq_some_iff.1 hid
    rw [tidy_iff_of_scalar? hscalar]
    constructor
    · exact fun htidy => .inr (.inr ⟨id, hpart, htidy⟩)
    · rintro (hgupshup | hb | ⟨id', hpart', htidy⟩)
      · exact absurd hgupshup hp
      · exact (tidy_iff_of_scalar? hscalar).1 (hcard hb)
      · cases hpart.symm.trans hpart'
        exact htidy
  · exact iff_of_true (hcard hb) (.inr (.inl hb))

end Webhook

namespace Sample

/-- A payload with one text message, whose id is a number. -/
def numberedText : Json :=
  .object [("messages", .array [.object
    [("id", .number (.integer 17)), ("from", .string "15550002"), ("type", .string "text"),
      ("text", .object [("body", .string "hello")])]])]

/-- Two text messages without a real id. -/
def blankPair : WebhookJob :=
  let entry (text : String) : Json :=
    .object
      [("id", .string ""), ("from", .string "15550002"), ("type", .string "text"),
        ("text", .object [("body", .string text)])]
  (WebhookJob.ofPayload (.object [("messages", .array [entry "hello", entry "are you there?"])])).withPhoneNumber
    "15550001"

/-- The messages are delivered. -/
def blankMoves : List Pool.Move :=
  [.seed .default "+15550001" ⟨[]⟩, .arrive blankPair] ++ List.replicate 17 (.turn 0 none none)

/-- What became of the events of all deliveries that are done. -/
def outcomes (P : Pool WebhookJob (Except DomainError IngestReport)) : List EventOutcome :=
  P.results.flatMap fun r => r.toOption.elim [] (·.outcomes)

end Sample

/-- A number is as good as a text. -/
theorem numbered_sourceId_tidy :
    ∃ e ∈ Webhook.normalize .default Sample.numberedText {}, e.sourceId = "17" ∧ Tidy e.sourceId := by
  obtain ⟨e, he, hid, hpart⟩ : ∃ e, Webhook.normalize .default Sample.numberedText {} = [e] ∧ e.sourceId = "17" ∧
      e.raw.part? 0 "id" = some (.number (.integer 17)) := ⟨_, rfl, by decide +kernel, rfl⟩
  have hmem : e ∈ Webhook.normalize .default Sample.numberedText {} := he ▸ List.mem_cons_self
  exact ⟨e, hmem, hid, (Webhook.sourceId_tidy_iff hmem).2 (.inr (.inr ⟨_, hpart, trivial⟩))⟩

/-- Two different messages have the source id that is nothing, and the second is taken for a redelivery of the first. -/
theorem blank_ids_collide :
    (∃ e e', Webhook.normalize .default Sample.blankPair.payload {} = [e, e'] ∧ e.body ≠ e'.body ∧
      e.sourceId = "" ∧ e'.sourceId = "" ∧ ¬Tidy e.sourceId) ∧
    ∃ n P, Pool.Reached n P ∧ P.world.tables.messages.map (·.content) = ["hello"] ∧
      (Sample.outcomes P).length = 2 ∧ (Sample.outcomes P).getLast? = some (.dropped "" .duplicate) := by
  constructor
  · exact ⟨_, _, rfl, by decide +kernel, by decide +kernel, by decide +kernel, by decide +kernel⟩
  · have hplay : (Pool.play? Sample.blankMoves Sample.pool).any (fun P => decide
        (P.world.tables.messages.map (·.content) = ["hello"] ∧ (Sample.outcomes P).length = 2 ∧
          (Sample.outcomes P).getLast? = some (.dropped "" .duplicate))) = true := by
      decide +kernel
    obtain ⟨P, hp, hc⟩ := (Option.any_eq_true ..).1 hplay
    obtain ⟨n, -, h⟩ := Sample.pool_reached.play hp
    exact ⟨n, P, h, of_decide_eq_true hc⟩

end Intake
