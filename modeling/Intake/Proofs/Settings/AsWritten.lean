import Intake.Proofs.Settings.Numbers
import Intake.Snowflake.Generator

/-!
# Numeric settings as written

A look-up succeeds exactly if the database has an address and every variable that is read denotes a number below its
limit (`exists_ofLookup_iff`). A setting then keeps the low bits of that number, so it is as written exactly if the
number fits them (`Numeric.kept_eq_iff`): settings of 64 bits always are, those of 32 bits need not be.
-/

namespace Intake.Settings

/-! ### What a look-up does -/

namespace Lookup

variable {lookup : Lookup} {name : String} {α β : Type}

theorem bind_eq_ok {x : Except SettingsError α} {f : α → Except SettingsError β} {b : β} :
    (x >>= f) = .ok b ↔ ∃ a, x = .ok a ∧ f a = .ok b := by
  cases x with
  | error e =>
    refine iff_of_false nofun ?_
    rintro ⟨a, ha, -⟩
    cases ha
  | ok a =>
    constructor
    · intro h
      exact ⟨a, rfl, h⟩
    · rintro ⟨a', ha, h⟩
      cases ha
      exact h

theorem pure_eq_ok {a b : α} : (pure a : Except SettingsError α) = .ok b ↔ a = b :=
  ⟨Except.ok.inj, congrArg Except.ok⟩

theorem eq_ok_of_toOption {x : Except SettingsError α} {a : α} (h : x.toOption = some a) : x = .ok a := by
  cases x with
  | error e => cases h
  | ok a' => exact congrArg Except.ok (Option.some.inj h)

theorem throw_ne_ok {e : SettingsError} {a : α} : (throw e : Except SettingsError α) ≠ .ok a := nofun

theorem worker_eq_ok_iff {w : Nat} : lookup.worker = .ok w ↔
    lookup.number "WORKER_ID" = .ok none ∧ w = 0 ∨
      ∃ id, lookup.number "WORKER_ID" = .ok (some id) ∧ id.toNat < 1024 ∧ w = id.toNat := by
  rw [worker, bind_eq_ok]
  constructor
  · rintro ⟨_ | id, hid, hw⟩
    · exact .inl ⟨hid, (pure_eq_ok.1 hw).symm⟩
    · simp only at hw
      split at hw
      · exact absurd hw throw_ne_ok
      · next hlt => exact .inr ⟨id, hid, Nat.lt_of_not_le hlt, (pure_eq_ok.1 hw).symm⟩
  · rintro (⟨hnone, rfl⟩ | ⟨id, hid, hlt, rfl⟩)
    · exact ⟨none, hnone, rfl⟩
    · exact ⟨some id, hid, if_neg (Nat.not_le_of_lt hlt)⟩

theorem database_eq_ok_iff {d : DatabaseSettings} : lookup.database = .ok d ↔
    ∃ url max min, lookup "DATABASE_URL" = some url ∧ lookup.number "DATABASE_MAX_CONNECTIONS" = .ok max ∧
      lookup.number "DATABASE_MIN_CONNECTIONS" = .ok min ∧
      { url
        maxConnections := (max.map UInt64.toUInt32).getD 20
        minConnections := (min.map UInt64.toUInt32).getD 5 } = d := by
  rw [database]
  split
  · next hnone => simp [hnone]
  · next url hurl =>
    simp only [bind_eq_ok, pure_eq_ok, hurl, Option.some.injEq]
    constructor
    · rintro ⟨max, hmax, min, hmin, rfl⟩
      exact ⟨url, max, min, rfl, hmax, hmin, rfl⟩
    · rintro ⟨_, max, min, rfl, hmax, hmin, rfl⟩
      exact ⟨max, hmax, min, hmin, rfl⟩

/-- The variable holds an address. -/
def Addresses (lookup : Lookup) (name : String) : Prop := ∃ url, lookup name = some url ∧ Text.trim url ≠ ""

theorem keyServer_of_addresses (h : lookup.Addresses "REDIS_URL") {k : Option KeyServerSettings} :
    lookup.keyServer = .ok k ↔ ∃ url max, lookup "REDIS_URL" = some url ∧
      lookup.number "REDIS_MAX_CONNECTIONS" = .ok max ∧
      some { url, maxConnections := (max.map UInt64.toUInt32).getD 10 } = k := by
  obtain ⟨url, hurl, hne⟩ := h
  have hfilter : (lookup "REDIS_URL").filter (fun url => Text.trim url ≠ "") = some url :=
    Option.filter_eq_some_iff.2 ⟨hurl, decide_eq_true hne⟩
  rw [keyServer, hfilter]
  simp only [bind_eq_ok, pure_eq_ok, hurl, Option.some.injEq]
  constructor
  · rintro ⟨max, hmax, rfl⟩
    exact ⟨url, max, rfl, hmax, rfl⟩
  · rintro ⟨_, max, rfl, hmax, rfl⟩
    exact ⟨max, hmax, rfl⟩

theorem keyServer_of_not_addresses (h : ¬lookup.Addresses "REDIS_URL") : lookup.keyServer = .ok none := by
  have hfilter : (lookup "REDIS_URL").filter (fun url => Text.trim url ≠ "") = none := by
    refine Option.eq_none_iff_forall_ne_some.2 fun url hurl => ?_
    obtain ⟨hsome, hne⟩ := Option.filter_eq_some_iff.1 hurl
    exact h ⟨url, hsome, of_decide_eq_true hne⟩
  rw [keyServer, hfilter]
  rfl

/-- A variable that is there denotes a number of 64 bits, and the setting is what is kept of it. -/
def Keeps (lookup : Lookup) (name : String) (keep : Nat → Nat) (v : Nat) : Prop :=
  ∀ text, lookup name = some text → ∃ n, Denotes text n ∧ n < 2 ^ 64 ∧ v = keep n

theorem keeps_of_number {r : Option UInt64} (h : lookup.number name = .ok r) {f : UInt64 → α} {toNat : α → Nat}
    {keep : Nat → Nat} (hkeep : ∀ w, toNat (f w) = keep w.toNat) (usual : α) :
    lookup.Keeps name keep (toNat ((r.map f).getD usual)) := by
  intro text htext
  obtain ⟨w, rfl, hw⟩ := number_of_some h htext
  exact ⟨w.toNat, hw, w.toNat_lt, hkeep w⟩

theorem keeps_of_word {r : Option UInt64} (h : lookup.number name = .ok r) {keep : Nat → Nat}
    (hkeep : ∀ n < 2 ^ 64, keep n = n) (usual : UInt64) : lookup.Keeps name keep (r.getD usual).toNat := by
  intro text htext
  obtain ⟨w, rfl, hw⟩ := number_of_some h htext
  exact ⟨w.toNat, hw, w.toNat_lt, (hkeep _ w.toNat_lt).symm⟩

theorem keeps_of_worker {w : Nat} {keep : Nat → Nat} (h : lookup.worker = .ok w) (hkeep : ∀ n < 1024, keep n = n) :
    lookup.Keeps "WORKER_ID" keep w := by
  intro text htext
  rcases worker_eq_ok_iff.1 h with ⟨hnone, -⟩ | ⟨id, hid, hlt, rfl⟩
  · obtain ⟨w, hw, -⟩ := number_of_some hnone htext
    cases hw
  · obtain ⟨w, hw, hdenotes⟩ := number_of_some hid htext
    obtain rfl := Option.some.inj hw
    exact ⟨id.toNat, hdenotes, id.toNat_lt, (hkeep _ hlt).symm⟩

theorem worker_lt {w : Nat} (h : lookup.worker = .ok w) : w < 1024 := by
  rcases worker_eq_ok_iff.1 h with ⟨-, rfl⟩ | ⟨id, -, hlt, rfl⟩
  · decide
  · exact hlt

theorem exists_worker_iff : (∃ w, lookup.worker = .ok w) ↔ lookup.Reads "WORKER_ID" 1024 := by
  constructor
  · rintro ⟨w, hw⟩ text htext
    obtain ⟨n, hn, -, rfl⟩ := keeps_of_worker hw (fun _ _ => rfl) text htext
    exact ⟨w, hn, worker_lt hw⟩
  · intro h
    have hreads : lookup.Reads "WORKER_ID" (2 ^ 64) := fun text htext => by
      obtain ⟨n, hn, hlt⟩ := h text htext
      exact ⟨n, hn, by omega⟩
    obtain ⟨r, hr⟩ := exists_number_iff.2 hreads
    cases r with
    | none => exact ⟨0, worker_eq_ok_iff.2 (.inl ⟨hr, rfl⟩)⟩
    | some id =>
      rcases number_eq_ok_iff.1 hr with ⟨-, hnone⟩ | ⟨text, w, htext, hid, hw⟩
      · cases hnone
      · obtain rfl := Option.some.inj hid
        obtain ⟨n, hn, hlt⟩ := h text htext
        obtain rfl := hn.unique hw
        exact ⟨id.toNat, worker_eq_ok_iff.2 (.inr ⟨id, hr, hlt, rfl⟩)⟩

end Lookup

variable {lookup : Lookup} {s : Settings}

theorem ofLookup_eq_ok_iff : ofLookup lookup = .ok s ↔
    ∃ worker database keyServer dedupTtl fetchTimeout concurrency maxAttempts,
      lookup.worker = .ok worker ∧ lookup.database = .ok database ∧ lookup.keyServer = .ok keyServer ∧
      lookup.number "DEDUP_TTL_SECONDS" = .ok dedupTtl ∧
      lookup.number "MEDIA_FETCH_TIMEOUT_SECONDS" = .ok fetchTimeout ∧
      lookup.number "WORKER_CONCURRENCY" = .ok concurrency ∧
      lookup.number "WORKER_MAX_ATTEMPTS" = .ok maxAttempts ∧
      { name := (lookup "APP_NAME").getD defaultName
        environment := lookup.environment
        database, keyServer, worker
        dedupTtlSeconds := dedupTtl.getD defaultDedupTtl
        fetchTimeoutSeconds := fetchTimeout.getD defaultFetchTimeout
        graphBase := (lookup "GRAPH_API_BASE_URL").getD defaultGraphBase
        dialogBase := (lookup "DIALOG_API_BASE_URL").getD defaultDialogBase
        concurrency := (concurrency.map (max · 1)).getD defaultConcurrency
        maxAttempts := (maxAttempts.map (max ·.toUInt32 1)).getD defaultMaxAttempts } = s := by
  simp only [ofLookup, Lookup.bind_eq_ok, Lookup.pure_eq_ok]
  constructor
  · rintro ⟨worker, hworker, database, hdatabase, keyServer, hkeyServer, dedupTtl, hdedupTtl, fetchTimeout,
      hfetchTimeout, concurrency, hconcurrency, maxAttempts, hmaxAttempts, hs⟩
    exact ⟨worker, database, keyServer, dedupTtl, fetchTimeout, concurrency, maxAttempts, hworker, hdatabase,
      hkeyServer, hdedupTtl, hfetchTimeout, hconcurrency, hmaxAttempts, hs⟩
  · rintro ⟨worker, database, keyServer, dedupTtl, fetchTimeout, concurrency, maxAttempts, hworker, hdatabase,
      hkeyServer, hdedupTtl, hfetchTimeout, hconcurrency, hmaxAttempts, hs⟩
    exact ⟨worker, hworker, database, hdatabase, keyServer, hkeyServer, dedupTtl, hdedupTtl, fetchTimeout,
      hfetchTimeout, concurrency, hconcurrency, maxAttempts, hmaxAttempts, hs⟩

/-! ### The settings that are numbers -/

/-- A setting that is a number. -/
structure Numeric where
  /-- The variable that it is read from. -/
  name : String
  /-- The variable without whose address it is not read. -/
  address : Option String := none
  /-- Numbers from here on are refused. -/
  limit : Nat := 2 ^ 64
  /-- How many low bits of a number are kept. -/
  bits : Nat := 64
  /-- What is less is raised to this. -/
  least : Nat := 0
  least_lt : least < 2 ^ bits := by decide
  value? : Settings → Option Nat

namespace Numeric

def databaseMax : Numeric where
  name := "DATABASE_MAX_CONNECTIONS"
  bits := 32
  value? s := some s.database.maxConnections.toNat

def databaseMin : Numeric where
  name := "DATABASE_MIN_CONNECTIONS"
  bits := 32
  value? s := some s.database.minConnections.toNat

def keyServerMax : Numeric where
  name := "REDIS_MAX_CONNECTIONS"
  address := some "REDIS_URL"
  bits := 32
  value? s := s.keyServer.map (·.maxConnections.toNat)

def dedupTtl : Numeric where
  name := "DEDUP_TTL_SECONDS"
  value? s := some s.dedupTtlSeconds.toNat

def fetchTimeout : Numeric where
  name := "MEDIA_FETCH_TIMEOUT_SECONDS"
  value? s := some s.fetchTimeoutSeconds.toNat

def concurrency : Numeric where
  name := "WORKER_CONCURRENCY"
  least := 1
  value? s := some s.concurrency.toNat

def maxAttempts : Numeric where
  name := "WORKER_MAX_ATTEMPTS"
  bits := 32
  least := 1
  value? s := some s.maxAttempts.toNat

def worker : Numeric where
  name := "WORKER_ID"
  limit := 1024
  value? s := some s.worker

def all : List Numeric :=
  [databaseMax, databaseMin, keyServerMax, dedupTtl, fetchTimeout, concurrency, maxAttempts, worker]

/-- The look-up takes the variable into account. -/
def IsRead (x : Numeric) (lookup : Lookup) : Prop := ∀ a ∈ x.address, lookup.Addresses a

/-- What the setting makes of a number. -/
def kept (x : Numeric) (n : Nat) : Nat := max (n % 2 ^ x.bits) x.least

variable {x : Numeric} {n : Nat}

/-- Numbers that do not fit are altered. -/
theorem kept_eq_iff : x.kept n = max n x.least ↔ n < 2 ^ x.bits := by
  rw [kept]
  constructor
  · intro h
    have hmod : n % 2 ^ x.bits < 2 ^ x.bits := Nat.mod_lt n (Nat.two_pow_pos x.bits)
    calc n ≤ max n x.least := Nat.le_max_left n x.least
      _ = max (n % 2 ^ x.bits) x.least := h.symm
      _ < 2 ^ x.bits := Nat.max_lt.2 ⟨hmod, x.least_lt⟩
  · intro h
    rw [Nat.mod_eq_of_lt h]

end Numeric

theorem exists_value_kept (h : ofLookup lookup = .ok s) :
    ∀ x ∈ Numeric.all, x.IsRead lookup → ∃ v, x.value? s = some v ∧ lookup.Keeps x.name x.kept v := by
  obtain ⟨worker, database, keyServer, dedupTtl, fetchTimeout, concurrency, maxAttempts, hworker, hdatabase,
    hkeyServer, hdedupTtl, hfetchTimeout, hconcurrency, hmaxAttempts, rfl⟩ := ofLookup_eq_ok_iff.1 h
  obtain ⟨url, maxConnections, minConnections, -, hmax, hmin, rfl⟩ := Lookup.database_eq_ok_iff.1 hdatabase
  have hnarrow : ∀ w : UInt64, w.toUInt32.toNat = max (w.toNat % 2 ^ 32) 0 := fun w => by
    rw [UInt64.toNat_toUInt32, Nat.max_zero]
  have hwide : ∀ n, n < 2 ^ 64 → max (n % 2 ^ 64) 0 = n := fun n hn => by
    rw [Nat.mod_eq_of_lt hn, Nat.max_zero]
  simp only [Numeric.all, List.forall_mem_cons]
  refine ⟨fun _ => ⟨_, rfl, ?_⟩, fun _ => ⟨_, rfl, ?_⟩, fun hread => ?_, fun _ => ⟨_, rfl, ?_⟩,
    fun _ => ⟨_, rfl, ?_⟩, fun _ => ⟨_, rfl, ?_⟩, fun _ => ⟨_, rfl, ?_⟩, fun _ => ⟨_, rfl, ?_⟩, nofun⟩
  · exact Lookup.keeps_of_number hmax hnarrow 20
  · exact Lookup.keeps_of_number hmin hnarrow 5
  · obtain ⟨url, max, -, hmax, rfl⟩ := (Lookup.keyServer_of_addresses (hread _ rfl)).1 hkeyServer
    exact ⟨_, rfl, Lookup.keeps_of_number hmax hnarrow 10⟩
  · exact Lookup.keeps_of_word hdedupTtl hwide _
  · exact Lookup.keeps_of_word hfetchTimeout hwide _
  · refine Lookup.keeps_of_number hconcurrency (fun w => ?_) defaultConcurrency
    rw [UInt64.toNat_max, Numeric.kept]
    exact congrArg (max · 1) (Nat.mod_eq_of_lt w.toNat_lt).symm
  · refine Lookup.keeps_of_number hmaxAttempts (fun w => ?_) defaultMaxAttempts
    rw [UInt32.toNat_max, UInt64.toNat_toUInt32]
    rfl
  · exact Lookup.keeps_of_worker hworker fun n hn => hwide n (by omega)

theorem exists_database_iff : (∃ d, lookup.database = .ok d) ↔ (lookup "DATABASE_URL").isSome = true ∧
    lookup.Reads "DATABASE_MAX_CONNECTIONS" (2 ^ 64) ∧ lookup.Reads "DATABASE_MIN_CONNECTIONS" (2 ^ 64) := by
  rw [← Lookup.exists_number_iff, ← Lookup.exists_number_iff, Option.isSome_iff_exists]
  constructor
  · rintro ⟨d, hd⟩
    obtain ⟨url, max, min, hurl, hmax, hmin, -⟩ := Lookup.database_eq_ok_iff.1 hd
    exact ⟨⟨url, hurl⟩, ⟨max, hmax⟩, ⟨min, hmin⟩⟩
  · rintro ⟨⟨url, hurl⟩, ⟨max, hmax⟩, ⟨min, hmin⟩⟩
    exact ⟨_, Lookup.database_eq_ok_iff.2 ⟨url, max, min, hurl, hmax, hmin, rfl⟩⟩

theorem exists_keyServer_iff : (∃ k, lookup.keyServer = .ok k) ↔
    (lookup.Addresses "REDIS_URL" → lookup.Reads "REDIS_MAX_CONNECTIONS" (2 ^ 64)) := by
  rw [← Lookup.exists_number_iff]
  constructor
  · rintro ⟨k, hk⟩ haddress
    obtain ⟨url, max, -, hmax, -⟩ := (Lookup.keyServer_of_addresses haddress).1 hk
    exact ⟨max, hmax⟩
  · intro h
    by_cases haddress : lookup.Addresses "REDIS_URL"
    · obtain ⟨max, hmax⟩ := h haddress
      have ⟨url, hurl, _⟩ := haddress
      exact ⟨_, (Lookup.keyServer_of_addresses haddress).2 ⟨url, max, hurl, hmax, rfl⟩⟩
    · exact ⟨none, Lookup.keyServer_of_not_addresses haddress⟩

theorem exists_ofLookup_iff : (∃ s, ofLookup lookup = .ok s) ↔
    (lookup "DATABASE_URL").isSome = true ∧
      ∀ x ∈ Numeric.all, x.IsRead lookup → lookup.Reads x.name x.limit := by
  have halways : ∀ (x : Numeric) (hx : x.address = none), x.IsRead lookup := fun x hx a ha => by
    rw [hx] at ha
    cases ha
  constructor
  · rintro ⟨s, hs⟩
    obtain ⟨worker, database, keyServer, dedupTtl, fetchTimeout, concurrency, maxAttempts, hworker, hdatabase,
      hkeyServer, hdedupTtl, hfetchTimeout, hconcurrency, hmaxAttempts, -⟩ := ofLookup_eq_ok_iff.1 hs
    obtain ⟨hurl, hmax, hmin⟩ := exists_database_iff.1 ⟨database, hdatabase⟩
    refine ⟨hurl, ?_⟩
    simp only [Numeric.all, List.forall_mem_cons]
    refine ⟨fun _ => hmax, fun _ => hmin, fun hread => ?_, fun _ => ?_, fun _ => ?_, fun _ => ?_, fun _ => ?_,
      fun _ => ?_, nofun⟩
    · exact exists_keyServer_iff.1 ⟨keyServer, hkeyServer⟩ (hread _ rfl)
    · exact Lookup.exists_number_iff.1 ⟨dedupTtl, hdedupTtl⟩
    · exact Lookup.exists_number_iff.1 ⟨fetchTimeout, hfetchTimeout⟩
    · exact Lookup.exists_number_iff.1 ⟨concurrency, hconcurrency⟩
    · exact Lookup.exists_number_iff.1 ⟨maxAttempts, hmaxAttempts⟩
    · exact Lookup.exists_worker_iff.1 ⟨worker, hworker⟩
  · rintro ⟨hurl, hreads⟩
    simp only [Numeric.all, List.forall_mem_cons] at hreads
    obtain ⟨hmax, hmin, hserver, httl, htimeout, hconcurrency, hattempts, hworker, -⟩ := hreads
    obtain ⟨database, hdatabase⟩ := exists_database_iff.2 ⟨hurl, hmax (halways _ rfl), hmin (halways _ rfl)⟩
    obtain ⟨keyServer, hkeyServer⟩ := exists_keyServer_iff.2 fun haddress =>
      hserver fun a ha => Option.some.inj ha ▸ haddress
    obtain ⟨dedupTtl, hdedupTtl⟩ := Lookup.exists_number_iff.2 (httl (halways _ rfl))
    obtain ⟨fetchTimeout, hfetchTimeout⟩ := Lookup.exists_number_iff.2 (htimeout (halways _ rfl))
    obtain ⟨concurrency, hconcurrency⟩ := Lookup.exists_number_iff.2 (hconcurrency (halways _ rfl))
    obtain ⟨maxAttempts, hmaxAttempts⟩ := Lookup.exists_number_iff.2 (hattempts (halways _ rfl))
    obtain ⟨worker, hworker⟩ := Lookup.exists_worker_iff.2 (hworker (halways _ rfl))
    exact ⟨_, ofLookup_eq_ok_iff.2 ⟨worker, database, keyServer, dedupTtl, fetchTimeout, concurrency, maxAttempts,
      hworker, hdatabase, hkeyServer, hdedupTtl, hfetchTimeout, hconcurrency, hmaxAttempts, rfl⟩⟩

/-- Settings are accepted exactly if every number that is read is below its limit. The number of the process then fits
a generator of ids, and a setting is what its variable denotes exactly if that fits the bits that are kept. -/
theorem numbers_as_written_iff (lookup : Lookup) :
    ((∃ s, ofLookup lookup = .ok s) ↔ (lookup "DATABASE_URL").isSome = true ∧
      ∀ x ∈ Numeric.all, x.IsRead lookup → lookup.Reads x.name x.limit) ∧
    ∀ s, ofLookup lookup = .ok s →
      (∃ g, Snowflake.Generator.ofWorker? s.worker = some g) ∧
      ∀ x ∈ Numeric.all, x.IsRead lookup → ∀ text, lookup x.name = some text →
        ∃ n v, Denotes text n ∧ n < x.limit ∧ x.value? s = some v ∧ (v = max n x.least ↔ n < 2 ^ x.bits) := by
  refine ⟨exists_ofLookup_iff, fun s hs => ⟨?_, fun x hx hread text htext => ?_⟩⟩
  · obtain ⟨worker, _, _, _, _, _, _, hworker, -, -, -, -, -, -, rfl⟩ := ofLookup_eq_ok_iff.1 hs
    exact ⟨_, dif_pos (Lookup.worker_lt hworker)⟩
  · obtain ⟨v, hv, hkeeps⟩ := exists_value_kept hs x hx hread
    obtain ⟨n, hn, -, rfl⟩ := hkeeps text htext
    obtain ⟨m, hm, hlimit⟩ := (exists_ofLookup_iff.1 ⟨s, hs⟩).2 x hx hread text htext
    obtain rfl := hn.unique hm
    exact ⟨n, x.kept n, hn, hlimit, hv, Numeric.kept_eq_iff⟩

/-- The largest number of connections that is kept, and the smallest number of attempts. -/
def edgeVariables : Lookup
  | "DATABASE_URL" => some "postgres://localhost/relay"
  | "DATABASE_MAX_CONNECTIONS" => some " +4294967295 "
  | "WORKER_MAX_ATTEMPTS" => some "0"
  | _ => none

theorem edge_numbers_kept : ∃ s, ofLookup edgeVariables = .ok s ∧
    (∃ g, Snowflake.Generator.ofWorker? s.worker = some g) ∧
    s.database.maxConnections.toNat = 4294967295 ∧ s.maxAttempts.toNat = 1 := by
  have hsome : (ofLookup edgeVariables).toOption.isSome = true := by decide +kernel
  obtain ⟨s, htoOption⟩ := Option.isSome_iff_exists.1 hsome
  have hs := Lookup.eq_ok_of_toOption htoOption
  obtain ⟨hworker, hnumbers⟩ := (numbers_as_written_iff edgeVariables).2 s hs
  obtain ⟨n, v, hn, -, hv, hkept⟩ := hnumbers .databaseMax (by simp [Numeric.all]) nofun _ rfl
  obtain ⟨m, w, hm, -, hw, hraised⟩ := hnumbers .maxAttempts (by simp [Numeric.all]) nofun _ rfl
  obtain rfl : n = 4294967295 := hn.unique (by decide +kernel)
  obtain rfl : m = 0 := hm.unique (by decide +kernel)
  refine ⟨s, hs, hworker, ?_, ?_⟩
  · exact (Option.some.inj hv).trans (hkept.2 (by decide))
  · exact (Option.some.inj hw).trans (hraised.2 (by decide))

def largePool : Lookup
  | "DATABASE_URL" => some "postgres://localhost/relay"
  | "DATABASE_MAX_CONNECTIONS" => some "4294967297"
  | _ => none

/-- A number of connections that needs 33 bits is accepted, and one connection is what is left of it. -/
theorem large_pool_narrowed : Denotes "4294967297" 4294967297 ∧
    ∃ s, ofLookup largePool = .ok s ∧ largePool "DATABASE_MAX_CONNECTIONS" = some "4294967297" ∧
      s.database.maxConnections.toNat = 1 := by
  refine ⟨by decide +kernel, ?_⟩
  have hmax : (ofLookup largePool).toOption.map (·.database.maxConnections.toNat) = some 1 := by decide +kernel
  obtain ⟨s, hs, hone⟩ := Option.map_eq_some_iff.1 hmax
  exact ⟨s, Lookup.eq_ok_of_toOption hs, rfl, hone⟩

end Intake.Settings
