import Intake.Proofs.Delivery.Drafts
import Intake.Proofs.Delivery.Quiet

/-!
# Writing drafts

`Writing` lists how the writing of drafts after the first one can go: the exchanges, with the error if there is one.
`WriteCase` lists how the writing of all of them can begin.
-/

namespace Intake

/-- No claim is asked for or released, and no message written. -/
def QuietTrace (t : List Exchange) : Prop := ∀ x ∈ t, x.request.isQuiet = true

namespace QuietTrace

variable {t : List Exchange} {x : Exchange} {k : Snowflake × String}

theorem append {t' : List Exchange} (h : QuietTrace t) (h' : QuietTrace t') : QuietTrace (t ++ t') :=
  List.forall_mem_append.2 ⟨h, h'⟩

theorem isGuard (h : QuietTrace t) (hx : x ∈ t) : x.request.isGuard = false := Request.isGuard_of_isQuiet (h x hx)

theorem not_attempted (h : QuietTrace t) (hx : x ∈ t) : x.attempted ≠ some k := by
  rw [Exchange.attempted_eq_none (h x hx)]
  exact nofun

theorem cons (hx : x.request.isQuiet = true) (h : QuietTrace t) : QuietTrace (x :: t) :=
  List.forall_mem_cons.2 ⟨hx, h⟩

/-- Where a write can stand among quiet exchanges. -/
theorem attempted_cases {q q' : List Exchange} {y : Exchange} (hq : QuietTrace q) (hq' : QuietTrace q')
    (hy : y ∈ q ++ x :: (q' ++ t)) (hk : y.attempted = some k) : y = x ∨ y ∈ t := by
  rcases List.mem_append.1 hy with hy | hy
  · exact absurd hk (hq.not_attempted hy)
  · rcases List.mem_cons.1 hy with hy | hy
    · exact .inl hy
    · rcases List.mem_append.1 hy with hy | hy
      · exact absurd hk (hq'.not_attempted hy)
      · exact .inr hy

end QuietTrace

namespace Ingest

/-- Writing drafts after the first one, until one is refused. -/
inductive Writing : List Draft → List Exchange → Option DomainError → Prop
  | nil : Writing [] [] none
  | written {d : Draft} {ds : List Draft} {q t : List Exchange} {e : Option DomainError} :
    QuietTrace q → Writing ds t e → Writing (d :: ds) (⟨.createMessage d.message, .ok ()⟩ :: (q ++ t)) e
  | present {d : Draft} {ds : List Draft} {inbox : Snowflake} {source : String} {t : List Exchange}
    {e : Option DomainError} :
    Writing ds t e → Writing (d :: ds) (⟨.createMessage d.message, .error (.duplicateSourceId inbox source)⟩ :: t) e
  | refused {d : Draft} {ds : List Draft} {e : DomainError} :
    Exchange.refused ⟨.createMessage d.message, .error e⟩ = some d.key →
      Writing (d :: ds) [⟨.createMessage d.message, .error e⟩] (some e)

variable {source : String} {d : Draft} {ds : List Draft} {t : List Exchange} {k : Snowflake × String}

section Asks

variable {P : Request → Prop} (ha : ∀ r, r.isAttach = true → P r)

include ha

theorem asks_writeRest {messages : List Snowflake} {count : Nat} (h : ∀ d ∈ ds, P (.createMessage d.message)) :
    (writeRest source messages count ds).run.Asks P := by
  induction ds generalizing messages count with
  | nil => trivial
  | cons d ds ih =>
    obtain ⟨hd, hds⟩ := List.forall_mem_cons.1 h
    refine Attempt.asks_bind (Attempt.asks_lift (Program.Asks.request hd)) fun written => ?_
    split
    · exact Attempt.asks_bind (Attempt.asks_lift ((writeAttachments_attaches _).mono ha)) fun _ => ih hds
    · exact ih hds
    · trivial

theorem asks_write (h : ∀ d ∈ ds, P (.createMessage d.message)) : (write source ds).run.Asks P := by
  cases ds with
  | nil => trivial
  | cons d ds =>
    obtain ⟨hd, hds⟩ := List.forall_mem_cons.1 h
    refine Attempt.asks_bind (Attempt.asks_lift (Program.Asks.request hd)) fun written => ?_
    split
    · exact Attempt.asks_bind (Attempt.asks_lift ((writeAttachments_attaches _).mono ha)) fun _ =>
        asks_writeRest ha hds
    · trivial
    · trivial

end Asks

theorem writeRest_yields {messages : List Snowflake} {count : Nat} {r : Except DomainError EventOutcome}
    (h : (writeRest source messages count ds).run.Yields t r) :
    (Writing ds t none ∧ ∃ messages count, r = .ok (.messageCreated source messages count)) ∨
      ∃ e, Writing ds t (some e) ∧ r = .error e := by
  induction ds generalizing messages count t with
  | nil =>
    obtain ⟨rfl, rfl⟩ := h
    exact .inl ⟨.nil, _, _, rfl⟩
  | cons d ds ih =>
    rw [writeRest] at h
    obtain ⟨t₁, reply, t₂, rfl, h₁, h₂⟩ := Attempt.yields_lift_bind.1 h
    obtain rfl := Program.yields_request.1 h₁
    rcases reply with e | ⟨⟩
    · cases e with
      | duplicateSourceId inbox source =>
        rcases ih h₂ with ⟨hw, hr⟩ | ⟨e, hw, hr⟩
        · exact .inl ⟨.present hw, hr⟩
        · exact .inr ⟨e, .present hw, hr⟩
      | _ =>
        obtain ⟨rfl, rfl⟩ := h₂
        exact .inr ⟨_, .refused rfl, rfl⟩
    · obtain ⟨q, n, t₃, rfl, h₃, h₄⟩ := Attempt.yields_lift_bind.1 h₂
      have hq : QuietTrace q := (writeAttachments_quiet _).mem h₃
      rw [List.singleton_append]
      rcases ih h₄ with ⟨hw, hr⟩ | ⟨e, hw, hr⟩
      · exact .inl ⟨.written hq hw, hr⟩
      · exact .inr ⟨e, .written hq hw, hr⟩

namespace Writing

variable {e : Option DomainError} {x : Exchange}

theorem shown (h : Writing ds t none) : ∀ d ∈ ds, ∃ x ∈ t, x.shown = some d.key := by
  generalize he : (none : Option DomainError) = e at h
  induction h with
  | nil => simp
  | written hq _ ih =>
    refine List.forall_mem_cons.2 ⟨⟨_, List.mem_cons_self, rfl⟩, fun d hd => ?_⟩
    obtain ⟨x, hx, hs⟩ := ih he d hd
    exact ⟨x, List.mem_cons_of_mem _ (List.mem_append_right _ hx), hs⟩
  | present _ ih =>
    refine List.forall_mem_cons.2 ⟨⟨_, List.mem_cons_self, rfl⟩, fun d hd => ?_⟩
    obtain ⟨x, hx, hs⟩ := ih he d hd
    exact ⟨x, List.mem_cons_of_mem _ hx, hs⟩
  | refused => cases he

theorem isGuard (h : Writing ds t e) : ∀ x ∈ t, x.request.isGuard = false := by
  induction h with
  | nil => simp
  | written hq _ ih => exact List.forall_mem_cons.2 ⟨rfl, List.forall_mem_append.2 ⟨fun x hx => hq.isGuard hx, ih⟩⟩
  | present _ ih => exact List.forall_mem_cons.2 ⟨rfl, ih⟩
  | refused => exact List.forall_mem_cons.2 ⟨rfl, by simp⟩

theorem attempted_mem (h : Writing ds t e) (hx : x ∈ t) (hk : x.attempted = some k) : k ∈ ds.map Draft.key := by
  induction h with
  | nil => cases hx
  | written hq _ ih =>
    rcases List.mem_cons.1 hx with rfl | hx
    · exact Option.some.inj hk ▸ List.mem_cons_self
    · rcases List.mem_append.1 hx with hx | hx
      · exact absurd hk (hq.not_attempted hx)
      · exact List.mem_cons_of_mem _ (ih hx)
  | present _ ih =>
    rcases List.mem_cons.1 hx with rfl | hx
    · exact Option.some.inj hk ▸ List.mem_cons_self
    · exact List.mem_cons_of_mem _ (ih hx)
  | refused =>
    cases List.mem_singleton.1 hx
    exact Option.some.inj hk ▸ List.mem_cons_self

theorem not_refused (h : Writing ds t none) (hx : x ∈ t) : x.refused ≠ some k := by
  generalize he : (none : Option DomainError) = e at h
  induction h with
  | nil => cases hx
  | written hq _ ih =>
    rcases List.mem_cons.1 hx with rfl | hx
    · exact nofun
    · rcases List.mem_append.1 hx with hx | hx
      · exact fun hk => hq.not_attempted hx (Exchange.attempted_of_refused hk)
      · exact ih hx he
  | present _ ih =>
    rcases List.mem_cons.1 hx with rfl | hx
    · exact nofun
    · exact ih hx he
  | refused => cases he

/-- The refused draft is not written, as no other one has its key. -/
theorem missing {e' : DomainError} (h : Writing ds t (some e')) (hn : (ds.map Draft.key).Nodup) :
    ∃ x ∈ t, ∃ k, x.refused = some k ∧ ∀ y ∈ t, y.written ≠ some k := by
  generalize he : some e' = e at h
  induction h with
  | nil => cases he
  | @written d ds q t e hq hw ih =>
    obtain ⟨hd, hn⟩ := List.nodup_cons.1 hn
    obtain ⟨x, hx, k, hk, hy⟩ := ih hn he
    refine ⟨x, List.mem_cons_of_mem _ (List.mem_append_right _ hx), k, hk, ?_⟩
    refine List.forall_mem_cons.2 ⟨?_, List.forall_mem_append.2 ⟨fun y hy hk => ?_, hy⟩⟩
    · intro hd'
      obtain rfl : d.key = k := Option.some.inj hd'
      exact hd (hw.attempted_mem hx (Exchange.attempted_of_refused hk))
    · exact hq.not_attempted hy (Exchange.attempted_of_written hk)
  | present _ ih =>
    obtain ⟨-, hn⟩ := List.nodup_cons.1 hn
    obtain ⟨x, hx, k, hk, hy⟩ := ih hn he
    exact ⟨x, List.mem_cons_of_mem _ hx, k, hk, List.forall_mem_cons.2 ⟨nofun, hy⟩⟩
  | refused hr => exact ⟨_, List.mem_cons_self, _, hr, List.forall_mem_cons.2 ⟨nofun, by simp⟩⟩

end Writing

/-- How drafts can be written: the first one is refused, or the others come after it. -/
inductive WriteCase (source : String) : List Draft → List Exchange → Except DomainError EventOutcome → Prop
  | nothing : WriteCase source [] [] (.ok (.messageCreated source [] 0))
  /-- The message is there already. -/
  | beaten {d : Draft} {ds : List Draft} {inbox : Snowflake} {id : String} :
    WriteCase source (d :: ds) [⟨.createMessage d.message, .error (.duplicateSourceId inbox id)⟩]
      (.ok (.dropped source .duplicate))
  | refused {d : Draft} {ds : List Draft} {e : DomainError} :
    Exchange.refused ⟨.createMessage d.message, .error e⟩ = some d.key →
      WriteCase source (d :: ds) [⟨.createMessage d.message, .error e⟩] (.error e)
  | written {d : Draft} {ds : List Draft} {q t : List Exchange} {n : Nat} {r : Except DomainError EventOutcome} :
    (writeAttachments d.attachments).Yields q n → (writeRest source [d.message.id] n ds).run.Yields t r →
      WriteCase source (d :: ds) (⟨.createMessage d.message, .ok ()⟩ :: (q ++ t)) r

theorem write_cases {r : Except DomainError EventOutcome} (h : (write source ds).run.Yields t r) :
    WriteCase source ds t r := by
  cases ds with
  | nil =>
    obtain ⟨rfl, rfl⟩ := h
    exact .nothing
  | cons d ds =>
    obtain ⟨t₁, reply, t₂, rfl, h₁, h₂⟩ := Attempt.yields_lift_bind.1 h
    obtain rfl := Program.yields_request.1 h₁
    rcases reply with e | ⟨⟩
    · cases e with
      | duplicateSourceId =>
        obtain ⟨rfl, rfl⟩ := h₂
        exact .beaten
      | _ =>
        obtain ⟨rfl, rfl⟩ := h₂
        exact .refused rfl
    · obtain ⟨q, n, t₃, rfl, h₃, h₄⟩ := Attempt.yields_lift_bind.1 h₂
      rw [List.singleton_append]
      exact .written h₃ h₄

end Ingest

end Intake
