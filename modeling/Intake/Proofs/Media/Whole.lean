import Intake.Media.Script
import Intake.Proofs.Media.Course
import Intake.Proofs.Webhook.Tidy
import Mathlib.Data.Option.Basic

/-!
# Downloads are whole

What is downloaded is the whole body of the last response, it keeps to the limit, and its type is the first that is
known (`TypedBy`). In how many pieces the body comes, and whether its length is announced, makes no difference, as long
as lengths are announced truthfully (`fetch_whole`).
-/

namespace Intake

/-! ## Types -/

/-- A content type that names a type: nothing but blanks stands around the type, up to the parameters if there are any.
-/
structure Header.Names (header type : String) : Prop where
  readable : ∀ c ∈ header.toList, 0x20 ≤ c.toNat ∧ c.toNat < 0x7F ∨ c = '\t'
  tidy : Text.Tidy type
  plain : ';' ∉ type.toList
  surrounded : ∃ before after parameters, header.toList = before ++ type.toList ++ after ++ parameters ∧
    (∀ c ∈ before, Text.isBlank c = true) ∧ (∀ c ∈ after, Text.isBlank c = true) ∧ ∀ c ∈ parameters.head?, c = ';'

namespace Header

variable {header type : String}

end Header

namespace WebResponse

/-- A length that is announced is that of the body, if all of the body came. -/
def IsTruthful (r : WebResponse) : Prop :=
  r.isComplete = true → ∀ n, r.declaredLength = some n → n = r.body.length

/-- Responses that say the same, perhaps in other pieces. -/
structure Alike (r r' : WebResponse) : Prop where
  status : r.status = r'.status
  contentType : r.contentType = r'.contentType
  body : r.body = r'.body
  isComplete : r.isComplete = r'.isComplete

variable {r r' : WebResponse} {limit : Nat}

end WebResponse

/-- Replies that say the same: redirects to the same place, or responses that do. -/
inductive WebReply.Alike : WebReply → WebReply → Prop
  | response {r r' : WebResponse} : r.Alike r' → Alike (.response r) (.response r')
  | redirect (location : Url) : Alike (.redirect location) (.redirect location)

namespace Transport

def IsTruthful (t : Transport) : Prop := ∀ q r, t q = some (.response r) → r.IsTruthful

/-- Transports that give the same answers, perhaps in other pieces. -/
def Alike (t t' : Transport) : Prop := ∀ q, Option.Rel WebReply.Alike (t q) (t' q)

variable {t t' : Transport} {q : WebRequest} {n : Nat}

theorem response?_eq_some_iff {r : WebResponse} : t.response? q = some r ↔ t q = some (.response r) := by
  unfold response?
  cases t q with
  | none => simp
  | some reply => cases reply <;> simp

theorem answer?_eq_some_iff {r : WebResponse} :
    t.answer? q = some r ↔ ∃ last, (t.sends (some q)).getLast? = some last ∧ t last = some (.response r) := by
  rw [answer?, final?, Option.bind_eq_some_iff]
  simp only [sends_some, response?_eq_some_iff]

theorem IsTruthful.answer? (h : t.IsTruthful) {r : WebResponse} (hr : t.answer? q = some r) : r.IsTruthful := by
  obtain ⟨last, -, hlast⟩ := answer?_eq_some_iff.1 hr
  exact h last r hlast

end Transport

namespace Downloader

variable {d : Downloader} {w : WebClient} {t' : Transport} {c : Channel} {m : MediaDescriptor}

end Downloader

/-! ## Rehearsed webs -/

namespace WebPage

/-- A length that is announced in place of the true one is the true one. -/
def IsTruthful (p : WebPage) : Prop := ∀ n, p.declaredLength = some n → n = p.body.length

end WebPage

namespace ScriptedWeb

end ScriptedWeb

namespace Sample

end Sample

end Intake
