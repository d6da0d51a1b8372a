import Intake.Proofs.World.Claims
import Intake.Proofs.World.Store
import Mathlib.Logic.Relation

/-!
# Pools of deliveries

Deliveries share a world and take turns in any order, one request at a time; between requests time may pass and claims
expire. Each delivery keeps a log of its exchanges. `Pool.Traced` ties a reachable pool to complete runs of its
programs: what a delivery has exchanged so far can be continued to the exchanges of a complete run.
-/

namespace Intake

variable {ι α : Type}

structure Delivery (ι α : Type) where
  job : ι
  /-- What it has exchanged so far. -/
  log : List Exchange
  rest : Program α

/-- What the delivery has come to, once it is done. -/
def Delivery.result? (d : Delivery ι α) : Option α := d.rest.result?

theorem Delivery.result?_eq_some {d : Delivery ι α} {a : α} : d.result? = some a ↔ d.rest = .done a :=
  Program.result?_eq_some

structure Pool (ι α : Type) where
  world : World
  deliveries : List (Delivery ι α)

namespace Pool

def start (w : World) (program : ι → Program α) (jobs : List ι) : Pool ι α :=
  { world := w, deliveries := jobs.map fun job => ⟨job, [], program job⟩ }

inductive Step (o : Outage) : Pool ι α → Pool ι α → Prop
  | advance {w w' : World} {before after : List (Delivery ι α)} {job : ι} {log : List Exchange} {r : Request}
    {b : r.Reply} {next : r.Reply → Program α} :
    w.Answers o r b w' →
      Step o ⟨w, before ++ ⟨job, log, .ask r next⟩ :: after⟩
        ⟨w', before ++ ⟨job, log ++ [⟨r, b⟩], next b⟩ :: after⟩
  | lapse {w : World} {ds : List (Delivery ι α)} {now : Instant} {keep : String × Instant → Bool} :
    w.instant ≤ now → Step o ⟨w, ds⟩ ⟨w.lapse now keep, ds⟩

def Reaches (o : Outage) : Pool ι α → Pool ι α → Prop := Relation.ReflTransGen (Step o)

theorem mem_turn {before after : List (Delivery ι α)} {d d₀ : Delivery ι α} (d₁ : Delivery ι α)
    (h : d ∈ before ++ d₀ :: after) : d = d₀ ∨ d ∈ before ++ d₁ :: after := by
  rcases List.mem_append.1 h with h | h
  · exact .inr (List.mem_append_left _ h)
  · rcases List.mem_cons.1 h with h | h
    · exact .inl h
    · exact .inr (List.mem_append_right _ (List.mem_cons_of_mem _ h))

theorem mem_middle {before after : List (Delivery ι α)} {d : Delivery ι α} : d ∈ before ++ d :: after :=
  List.mem_append_right _ List.mem_cons_self

def results (P : Pool ι α) : List α := P.deliveries.filterMap Delivery.result?

variable {o : Outage} {program : ι → Program α} {tb : Tables} {P P' : Pool ι α}

theorem Step.records (h : Step o P P') : P.world.tables.records <+: P'.world.tables.records := by
  cases h with
  | advance ha => exact ha.records
  | lapse => exact List.prefix_rfl

theorem Step.nodup (h : Step o P P') (hn : P.world.tables.keys.Nodup) : P'.world.tables.keys.Nodup := by
  cases h with
  | advance ha => exact ha.nodup hn
  | lapse => exact hn

def writes (P : Pool ι α) (k : Snowflake × String) : Nat := writeCount k (P.deliveries.flatMap Delivery.log)

/-- A key is stored once for each time that it was written, and as often as before. -/
theorem Step.count_keys {n : Nat} {k : Snowflake × String} (h : Step o P P')
    (hn : P.world.tables.keys.count k = n + P.writes k) : P'.world.tables.keys.count k = n + P'.writes k := by
  cases h with
  | @advance w w' before after job log r b next ha =>
    have hlog : writeCount k [⟨r, b⟩] = (Exchange.written ⟨r, b⟩).toList.count k := by
      rw [writeCount, List.filterMap_cons, List.filterMap_nil]
      cases Exchange.written ⟨r, b⟩ <;> rfl
    simp only [writes, List.flatMap_append, List.flatMap_cons, writeCount_append] at hn ⊢
    rw [hlog, ha.keys, List.count_append]
    omega
  | lapse => exact hn

namespace Reaches

theorem records (h : Reaches o P P') : P.world.tables.records <+: P'.world.tables.records := by
  induction h with
  | refl => exact List.prefix_rfl
  | tail _ hs ih => exact ih.trans hs.records

theorem nodup (h : Reaches o P P') (hn : P.world.tables.keys.Nodup) : P'.world.tables.keys.Nodup := by
  induction h with
  | refl => exact hn
  | tail _ hs ih => exact hs.nodup ih

theorem count_keys {w : World} {jobs : List ι} (h : Reaches o (start w program jobs) P) (k : Snowflake × String) :
    P.world.tables.keys.count k = w.tables.keys.count k + P.writes k := by
  induction h with
  | refl =>
    have hlogs : (start w program jobs).deliveries.flatMap Delivery.log = [] := by
      rw [start, List.flatMap_map]
      exact List.flatMap_eq_nil_iff.2 fun _ _ => rfl
    rw [writes, hlogs]
    rfl
  | tail _ hs ih => exact hs.count_keys ih

end Reaches

/-- What holds of a pool that was started in a world with the tenants of `tb`. -/
structure Traced (program : ι → Program α) (tb : Tables) (P : Pool ι α) : Prop where
  tenants : P.world.tables.tenants = tb.tenants
  reaches : ∀ d ∈ P.deliveries, (program d.job).Reaches d.log d.rest
  fits : ∀ d ∈ P.deliveries, ∀ x ∈ d.log, x.Fits tb
  shown : ∀ d ∈ P.deliveries, ∀ x ∈ d.log, ∀ k, x.shown = some k → k ∈ P.world.tables.keys

namespace Traced

theorem start (w : World) (program : ι → Program α) (jobs : List ι) :
    Traced program w.tables (Pool.start w program jobs) := by
  have hlog : ∀ d ∈ (Pool.start w program jobs).deliveries, d.log = [] ∧ d.rest = program d.job := by
    intro d hd
    obtain ⟨job, -, rfl⟩ := List.mem_map.1 hd
    exact ⟨rfl, rfl⟩
  refine ⟨rfl, fun d hd => ?_, fun d hd x hx => ?_, fun d hd x hx => ?_⟩
  · rw [(hlog d hd).1, (hlog d hd).2]
    exact .refl
  · rw [(hlog d hd).1] at hx
    cases hx
  · rw [(hlog d hd).1] at hx
    cases hx

theorem step (hP : Traced program tb P) (h : Step o P P') : Traced program tb P' := by
  cases h with
  | @advance w w' before after job log r b next ha =>
    obtain ⟨ht, hr, hf, hs⟩ := hP
    have hmem : (⟨job, log, .ask r next⟩ : Delivery ι α) ∈ before ++ ⟨job, log, .ask r next⟩ :: after := mem_middle
    refine ⟨ha.tenants.trans ht, fun d hd => ?_, fun d hd x hx => ?_, fun d hd x hx k hk => ?_⟩
    · rcases mem_turn ⟨job, log, .ask r next⟩ hd with rfl | hd
      · exact (hr _ hmem).step
      · exact hr d hd
    · rcases mem_turn ⟨job, log, .ask r next⟩ hd with rfl | hd
      · rcases List.mem_append.1 hx with hx | hx
        · exact hf _ hmem x hx
        · rw [List.mem_singleton.1 hx]
          exact ha.fits.congr ht.symm
      · exact hf d hd x hx
    · rcases mem_turn ⟨job, log, .ask r next⟩ hd with rfl | hd
      · rcases List.mem_append.1 hx with hx | hx
        · exact ha.mem_keys (hs _ hmem x hx k hk)
        · rw [List.mem_singleton.1 hx] at hk
          exact ha.shown hk
      · exact ha.mem_keys (hs d hd x hx k hk)
  | lapse hle => exact ⟨hP.tenants, hP.reaches, hP.fits, hP.shown⟩

theorem reached (hP : Traced program tb P) (h : Reaches o P P') : Traced program tb P' := by
  induction h with
  | refl => exact hP
  | tail _ hs ih => exact ih.step hs

/-- Whatever the next reply is, the delivery can go on to an end. -/
theorem complete (hP : Traced program tb P) {job : ι} {log : List Exchange} {r : Request} {b : r.Reply}
    {next : r.Reply → Program α} (hd : ⟨job, log, .ask r next⟩ ∈ P.deliveries) (hb : Exchange.Fits tb ⟨r, b⟩) :
    ∃ t a, (program job).Yields (log ++ ⟨r, b⟩ :: t) a ∧ ∀ x ∈ log ++ ⟨r, b⟩ :: t, x.Fits tb := by
  obtain ⟨t, a, hy, ht⟩ := (next b).exists_yields (Exchange.exists_fits tb)
  refine ⟨t, a, (hP.reaches _ hd).yields ⟨b, t, rfl, hy⟩, ?_⟩
  exact List.forall_mem_append.2 ⟨hP.fits _ hd, List.forall_mem_cons.2 ⟨hb, ht⟩⟩

end Traced

end Pool

end Intake
