import Intake.Proofs.Json.Plain
import Intake.Proofs.Text.Numerals
import Intake.Snowflake.Basic

/-!
# Ids as text

The text of an id is read back as that id, by itself, as a JSON string and as a JSON integer. What is accepted are the
integers that a signed word holds, written with or without a sign and with any number of zeros in front
(`parse?_eq_some_iff`).
-/

namespace Intake.Snowflake

open Digits (Integer)

variable {text : String} {i : Int} {id : Snowflake}

theorem ofInt?_eq_some_iff : ofInt? i = some id ↔ i = id.toInt := by
  rw [ofInt?]
  split
  · next hrange =>
    have hword : (ofInt i).toInt = i := Int64.toInt_ofInt_of_le hrange.1 hrange.2
    constructor
    · intro h
      obtain rfl := Option.some.inj h
      exact hword.symm
    · intro h
      exact congrArg some (congrArg Snowflake.mk (Int64.toInt_inj.1 (hword.trans h)))
  · next hrange =>
    constructor
    · intro h
      cases h
    · rintro rfl
      exact absurd ⟨id.word.le_toInt, id.word.toInt_lt⟩ hrange

theorem ofInt?_toInt (id : Snowflake) : ofInt? id.toInt = some id := ofInt?_eq_some_iff.2 rfl

theorem ofInt?_eq_none_iff : ofInt? i = none ↔ i < -0x8000000000000000 ∨ 0x8000000000000000 ≤ i := by
  rw [ofInt?]
  split
  · exact iff_of_false nofun (by omega)
  · exact iff_of_true rfl (by omega)

theorem parse?_eq_some_iff : parse? text = some id ↔ Integer text.toList id.toInt := by
  rw [parse?, Option.bind_eq_some_iff]
  constructor
  · rintro ⟨i, hi, hid⟩
    rw [← ofInt?_eq_some_iff.1 hid]
    exact Digits.int?_eq_some_iff.1 hi
  · intro h
    exact ⟨id.toInt, Digits.int?_eq_some_iff.2 h, ofInt?_toInt id⟩

theorem parse?_eq_none_iff :
    parse? text = none ↔ ∀ i, Integer text.toList i → i < -0x8000000000000000 ∨ 0x8000000000000000 ≤ i := by
  rw [parse?, Option.bind_eq_none_iff]
  constructor
  · intro h i hi
    exact ofInt?_eq_none_iff.1 (h i (Digits.int?_eq_some_iff.2 hi))
  · intro h i hi
    exact ofInt?_eq_none_iff.2 (h i (Digits.int?_eq_some_iff.1 hi))

theorem parse?_text (id : Snowflake) : parse? id.text = some id := by
  rw [parse?, text, Digits.int?_toString, Option.bind_some, ofInt?_toInt]

theorem plain_of_mem_text {c : Char} (h : c ∈ id.text.toList) : Json.Reader.Plain c := by
  rcases Digits.of_mem_toString h with hdigit | rfl
  · exact Json.Reader.plain_of_isDigit hdigit
  · exact ⟨by decide, by decide, by decide, by decide⟩

theorem parse_render_toJson (id : Snowflake) : Json.parse (Json.render id.toJson) = some id.toJson := by
  rw [toJson, Json.render]
  exact Json.parse_quoted fun c hc => plain_of_mem_text hc

theorem parse_render_integer (id : Snowflake) :
    Json.parse (Json.render (.number (.integer id.toInt))) = some (.number (.integer id.toInt)) := by
  have hlo : -0x8000000000000000 ≤ id.toInt := id.word.le_toInt
  have hhi : id.toInt < 0x8000000000000000 := id.word.toInt_lt
  rw [Json.render]
  exact Json.parse_integer hlo (by omega)

/-- Nothing is lost on the way through text, and no text outside the grammar or the range of a word is an id. -/
theorem text_lossless :
    (∀ id : Snowflake, parse? id.text = some id ∧
      (Json.parse (Json.render id.toJson)).bind ofJson? = some id ∧
      (Json.parse (Json.render (.number (.integer id.toInt)))).bind ofJson? = some id) ∧
    (∀ (text : String) (id : Snowflake), parse? text = some id ↔ Integer text.toList id.toInt) ∧
    ∀ text : String, parse? text = none ↔
      ∀ i, Integer text.toList i → i < -0x8000000000000000 ∨ 0x8000000000000000 ≤ i := by
  refine ⟨fun id => ⟨parse?_text id, ?_, ?_⟩, fun _ _ => parse?_eq_some_iff, fun _ => parse?_eq_none_iff⟩
  · rw [parse_render_toJson, Option.bind_some, toJson, ofJson?, parse?_text]
  · rw [parse_render_integer, Option.bind_some, ofJson?, ofInt?_toInt]

example : parse? "-0009223372036854775808" = some ⟨-0x8000000000000000⟩ := by decide

example : parse? "+9223372036854775808" = none := by decide

end Intake.Snowflake
