import Intake.Media.Download

/-!
# Trails of redirects

A request that is redirected leads to another one. `Transport.trail` lists the requests that one comes to, as far as
redirects are followed, and `Transport.final?` is the response to the last of them. On the way the address changes, and
nothing but the credentials can get lost: they never get to another place than the one that they were sent to.
-/

namespace Intake

/-- A request that redirects may have made of another: the credentials have stayed in their place or were left behind.
-/
structure WebRequest.LeadsTo (q q' : WebRequest) : Prop where
  apiKey : q'.apiKey = q.apiKey
  authorization : q'.authorization = none ∨ q'.authorization = q.authorization ∧ q'.url.sharesPlace q.url = true

namespace Url

variable {u v w : Url}

theorem sharesPlace_iff : u.sharesPlace v = true ↔ u.host = v.host ∧ u.knownPortNumber? = v.knownPortNumber? := by
  rw [sharesPlace, Bool.and_eq_true, decide_eq_true_eq, decide_eq_true_eq]

theorem sharesPlace_self : u.sharesPlace u = true := sharesPlace_iff.2 ⟨rfl, rfl⟩

theorem sharesPlace_trans (h : u.sharesPlace v = true) (h' : v.sharesPlace w = true) : u.sharesPlace w = true := by
  obtain ⟨hhost, hnumber⟩ := sharesPlace_iff.1 h
  obtain ⟨hhost', hnumber'⟩ := sharesPlace_iff.1 h'
  exact sharesPlace_iff.2 ⟨hhost.trans hhost', hnumber.trans hnumber'⟩

end Url

namespace WebRequest

variable {q q' q'' : WebRequest}

theorem LeadsTo.refl (q : WebRequest) : q.LeadsTo q := ⟨rfl, .inr ⟨rfl, Url.sharesPlace_self⟩⟩

theorem LeadsTo.trans (h : q.LeadsTo q') (h' : q'.LeadsTo q'') : q.LeadsTo q'' := by
  refine ⟨h'.apiKey.trans h.apiKey, ?_⟩
  rcases h'.authorization with hnone | ⟨hsame', hplace'⟩
  · exact .inl hnone
  · rw [hsame']
    exact h.authorization.imp id fun ⟨hsame, hplace⟩ => ⟨hsame, Url.sharesPlace_trans hplace' hplace⟩

end WebRequest

namespace Transport

/-- The request that a request is redirected to, if requests can go there. -/
def next? (t : Transport) (q : WebRequest) : Option WebRequest :=
  match t q with
  | some (.redirect location) => if location.isHttp then some (q.redirected location) else none
  | _ => none

/-- The response to a request, if it is not redirected. -/
def response? (t : Transport) (q : WebRequest) : Option WebResponse :=
  match t q with
  | some (.response r) => some r
  | _ => none

/-- A request and those that redirects lead to, of which so many are followed. -/
def trail (t : Transport) : Nat → WebRequest → List WebRequest
  | 0, q => [q]
  | n + 1, q => q :: (t.next? q).elim [] (trail t n)

/-- The response in which a request ends. -/
def final? (t : Transport) (n : Nat) (q : WebRequest) : Option WebResponse := (t.trail n q).getLast?.bind t.response?

/-- All requests that a download comes to, if it has this one to send. -/
def sends (t : Transport) (q : Option WebRequest) : List WebRequest := q.elim [] (t.trail Download.maxRedirects)

/-- What a download gets in the end for a request. -/
def answer? (t : Transport) (q : WebRequest) : Option WebResponse := t.final? Download.maxRedirects q

variable {t : Transport} {n : Nat} {q q' : WebRequest}

@[simp] theorem sends_some : t.sends (some q) = t.trail Download.maxRedirects q := rfl

end Transport

end Intake
