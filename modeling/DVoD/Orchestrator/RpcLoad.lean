import DVoD.Orchestrator.Handlers
import DVoD.Orchestrator.RelayCache

/-!
# What the relay cache saves

The requests that ask for the operators, and the sweeps of RPC reads that they start.  The
cache is filled when a sweep has succeeded, so until then every further call starts a sweep
of its own; `GET /tiers` alone makes three calls before the first of them has read anything.
`rpc_load_bounded_iff` says which requests must not come when, for one sweep in each
lifetime of the cache.
-/

namespace DVoD.Orchestrator

open DVoD.Machine DVoD.Ens DVoD.Session

/-- The requests that ask for the operators; a failover, where it gets that far. -/
inductive Asking where
  | tiers
  | relays
  | attestation (id : String)
  | sessions (tier hours : String)
  | forceRelayFailure (tier : Tier)

/-- How many calls of `listOperators` the handler makes before any other handler runs. -/
def Asking.calls : Asking → ℕ
  | .tiers => Tier.all.length  -- one `eligibleOperators(tier)` each, under a `Promise.all`
  | .relays => 1
  | .attestation _ => 1
  | .sessions tier hours => if (Tier.safeParse tier).isSome ∧ (parseHours hours).isSome then 1 else 0
  | .forceRelayFailure _ => 1

/-- A sweep as it starts: how many others are in flight, and when those that have succeeded
    so far did. -/
structure Sweep where
  startedAt : ℕ
  inFlight : ℕ
  completed : List ℕ

/-- `completed` and `sweeps` are history variables: when each sweep that has succeeded did,
    and all that have started. -/
structure Load where
  discovery : Discovery
  now : ℕ
  completed : List ℕ
  sweeps : List Sweep

namespace Load

inductive Move where
  | tick (now : ℕ)
  | write (chain : Records)
  | ask (asking : Asking)
  /-- The reads of the `k`th sweep in flight have all returned, or one has failed. -/
  | settle (k : ℕ) (instants : KnownOperator → Instants)

def start (chain : Records) (now : ℕ) : Load := ⟨Discovery.start chain, now, [], []⟩

section Steps

variable (client : Client) (known : List KnownOperator)

/-- `listOperators`, until it awaits its reads or returns. -/
def call (s : Load) : Option Load :=
  (s.discovery.step client known (.call s.now)).map fun discovery =>
    { s with
      discovery := discovery
      sweeps :=
        if s.discovery.refreshes.length < discovery.refreshes.length then
          s.sweeps ++ [⟨s.now, s.discovery.refreshes.length, s.completed⟩]
        else s.sweeps }

def callTimes : ℕ → Load → Option Load
  | 0, s => some s
  | n + 1, s => (s.call client known).bind (callTimes n)

def step (s : Load) : Move → Option Load
  | .tick now => if s.now ≤ now then some { s with now := now } else none
  | .write chain =>
      (s.discovery.step client known (.write chain)).map fun discovery =>
        { s with discovery := discovery }
  | .ask asking => s.callTimes client known asking.calls
  | .settle k instants =>
      (s.discovery.step client known (.settle k instants s.now)).map fun discovery =>
        { s with
          discovery := discovery
          completed :=
            if s.discovery.returned.length < discovery.returned.length then s.completed ++ [s.now]
            else s.completed }

end Steps

/-- A sweep started while no other was in flight, and none had completed within the
    lifetime of the cache. -/
def Sweep.Needed (sweep : Sweep) : Prop :=
  sweep.inFlight = 0 ∧ ∀ t ∈ sweep.completed, t + cacheTtlMs ≤ sweep.startedAt

def Bounded (s : Load) : Prop := ∀ sweep ∈ s.sweeps, Sweep.Needed sweep

def Fresh (s : Load) : Prop := ∃ cache, s.discovery.cache = some cache ∧ s.now < cache.expiresAt

/-- The request makes no call, or finds the cache fresh, or makes one call while nobody
    else waits for the operators. -/
def Alone (s : Load) : Move → Prop
  | .ask asking => asking.calls = 0 ∨ s.Fresh ∨ s.discovery.refreshes = [] ∧ asking.calls = 1
  | _ => True

/-! ### One call -/

section Calls

variable {client : Client} {known : List KnownOperator} {s : Load} {n : ℕ}

/-- `n` calls that find the cache stale start `n` sweeps. -/
def sweepTimes (s : Load) (n : ℕ) : Load :=
  { s with
    discovery := { s.discovery with
      refreshes := s.discovery.refreshes ++
        List.replicate n ⟨s.discovery.returned.length, [s.discovery.chain]⟩ }
    sweeps := s.sweeps ++
      (List.range n).map fun i => ⟨s.now, s.discovery.refreshes.length + i, s.completed⟩ }

theorem filter_eq_none (h : ¬ s.Fresh) :
    s.discovery.cache.filter (fun cache => cache.expiresAt > s.now) = none := by
  apply Option.filter_eq_none_iff.mpr
  intro cache hcache hfresh
  exact h ⟨cache, hcache, of_decide_eq_true hfresh⟩

theorem call_of_fresh (client : Client) (known : List KnownOperator) (h : s.Fresh) : ∃ returned,
    s.call client known = some { s with discovery := { s.discovery with returned := returned } } := by
  obtain ⟨cache, hcache, hnow⟩ := h
  have hfilter : s.discovery.cache.filter (fun cache => cache.expiresAt > s.now) = some cache :=
    Option.filter_eq_some_iff.mpr ⟨hcache, decide_eq_true hnow⟩
  refine ⟨s.discovery.returned ++ [⟨s.discovery.returned.length, cache.records⟩], ?_⟩
  simp [call, Discovery.step, hfilter]

theorem call_of_stale (h : ¬ s.Fresh) : s.call client known = some (s.sweepTimes 1) := by
  simp [call, Discovery.step, filter_eq_none h, sweepTimes]

theorem callTimes_of_fresh (client : Client) (known : List KnownOperator) (n : ℕ) (h : s.Fresh) :
    ∃ returned, s.callTimes client known n =
      some { s with discovery := { s.discovery with returned := returned } } := by
  induction n generalizing s with
  | zero => exact ⟨s.discovery.returned, rfl⟩
  | succ n ih =>
    obtain ⟨returned, hcall⟩ := call_of_fresh client known h
    obtain ⟨returned', hcalls⟩ := ih (s := { s with
      discovery := { s.discovery with returned := returned } }) h
    refine ⟨returned', ?_⟩
    rw [callTimes, hcall]
    exact hcalls

theorem sweepTimes_succ (s : Load) (n : ℕ) : (s.sweepTimes 1).sweepTimes n = s.sweepTimes (n + 1) := by
  simp [sweepTimes, List.replicate_succ, List.range_succ_eq_map, Nat.add_assoc, Nat.add_comm 1]

theorem callTimes_of_stale (h : ¬ s.Fresh) : s.callTimes client known n = some (s.sweepTimes n) := by
  induction n generalizing s with
  | zero => simp [callTimes, sweepTimes]
  | succ n ih =>
    have hstale : ¬ (s.sweepTimes 1).Fresh := h
    rw [callTimes, call_of_stale h, Option.bind_some, ih hstale, sweepTimes_succ]

end Calls

/-! ### One move -/

section Moves

variable {client : Client} {known : List KnownOperator} {s s' : Load} {m : Move}

/-- Whatever has completed within its lifetime is in the cache. -/
structure Cached (s : Load) : Prop where
  past : ∀ t ∈ s.completed, t ≤ s.now
  covered : ∀ t ∈ s.completed, ∃ cache, s.discovery.cache = some cache ∧
    t + cacheTtlMs ≤ cache.expiresAt

/-- What each move does, where it can happen. -/
inductive Stepped (s : Load) : Move → Load → Prop
  | ticked {now : ℕ} (h : s.now ≤ now) : Stepped s (.tick now) { s with now := now }
  | written (chain : Records) (refreshes : List Refresh) :
      Stepped s (.write chain) { s with
        discovery := { s.discovery with chain := chain, refreshes := refreshes } }
  | served {asking : Asking} (h : s.Fresh) (returned : List Returned) :
      Stepped s (.ask asking) { s with discovery := { s.discovery with returned := returned } }
  | swept {asking : Asking} (h : ¬ s.Fresh) : Stepped s (.ask asking) (s.sweepTimes asking.calls)
  | succeeded {k : ℕ} {instants : KnownOperator → Instants}
      (records : List Session.CapabilityRecord) (refreshes : List Refresh)
      (returned : List Returned) :
      Stepped s (.settle k instants) { s with
        discovery := ⟨s.discovery.chain, some ⟨records, s.now + cacheTtlMs⟩, refreshes, returned⟩
        completed := s.completed ++ [s.now] }
  | failed {k : ℕ} {instants : KnownOperator → Instants}
      (refreshes : List Refresh) :
      Stepped s (.settle k instants) { s with
        discovery := { s.discovery with refreshes := refreshes } }

theorem stepped (h : step client known s m = some s') : Stepped s m s' := by
  cases m with
  | tick now =>
    obtain ⟨hnow, h⟩ := Option.ite_none_right_eq_some.mp h
    obtain rfl := Option.some.inj h
    exact .ticked hnow
  | write chain =>
    obtain rfl := Option.some.inj h
    exact .written chain _
  | ask asking =>
    by_cases hfresh : s.Fresh
    · obtain ⟨returned, hcalls⟩ := callTimes_of_fresh client known asking.calls hfresh
      obtain rfl := Option.some.inj (hcalls.symm.trans h)
      exact .served hfresh returned
    · obtain rfl := Option.some.inj ((callTimes_of_stale hfresh).symm.trans h)
      exact .swept hfresh
  | settle k instants =>
    obtain ⟨discovery, hsettle, rfl⟩ := Option.map_eq_some_iff.mp h
    cases Discovery.stepped hsettle with
    | answered hrefresh hread =>
      simp only [List.length_append, List.length_singleton, Nat.lt_succ_self, if_true]
      exact .succeeded ..
    | failed =>
      simp only [Nat.lt_irrefl, if_false]
      exact .failed _

theorem Cached.step (h : Cached s) (hstep : Stepped s m s') : Cached s' := by
  cases hstep with
  | ticked hnow => exact ⟨fun t ht => (h.past t ht).trans hnow, h.covered⟩
  | written => exact ⟨h.past, h.covered⟩
  | served => exact ⟨h.past, h.covered⟩
  | swept => exact ⟨h.past, h.covered⟩
  | succeeded =>
    constructor
    · intro t ht
      rcases List.mem_append.mp ht with ht | ht
      · exact h.past t ht
      · exact (List.mem_singleton.mp ht).le
    · intro t ht
      refine ⟨_, rfl, Nat.add_le_add_right ?_ _⟩
      rcases List.mem_append.mp ht with ht | ht
      · exact h.past t ht
      · exact (List.mem_singleton.mp ht).le
  | failed => exact ⟨h.past, h.covered⟩

/-- Of the sweeps that stale calls start at once only the first can be needed, and only
    where none is in flight. -/
theorem bounded_sweepTimes_iff (hc : Cached s) (hstale : ¬ s.Fresh) {n : ℕ} :
    Bounded (s.sweepTimes n) ↔ Bounded s ∧ (n = 0 ∨ s.discovery.refreshes = [] ∧ n = 1) := by
  have hexpired : ∀ t ∈ s.completed, t + cacheTtlMs ≤ s.now := by
    intro t ht
    obtain ⟨cache, hcache, hexpires⟩ := hc.covered t ht
    exact hexpires.trans (Nat.le_of_not_lt fun hnow => hstale ⟨cache, hcache, hnow⟩)
  have hnew : (∀ i < n, s.discovery.refreshes.length + i = 0) ↔
      n = 0 ∨ s.discovery.refreshes = [] ∧ n = 1 := by
    rw [← List.length_eq_zero_iff]
    constructor
    · intro h
      rcases n with _ | _ | n
      · exact .inl rfl
      · exact .inr ⟨h 0 Nat.zero_lt_one, rfl⟩
      · have := h 1 (by omega)
        omega
    · intro h i hi
      omega
  rw [← hnew]
  constructor
  · intro h
    refine ⟨fun sweep hsweep => h sweep (List.mem_append_left _ hsweep), ?_⟩
    intro i hi
    exact (h _ (List.mem_append_right _ (List.mem_map_of_mem (List.mem_range.mpr hi)))).1
  · rintro ⟨hold, hnone⟩ sweep hsweep
    rcases List.mem_append.mp hsweep with hsweep | hsweep
    · exact hold sweep hsweep
    · obtain ⟨i, hi, rfl⟩ := List.mem_map.mp hsweep
      exact ⟨hnone i (List.mem_range.mp hi), hexpired⟩

theorem bounded_step_iff (hc : Cached s) (hstep : Stepped s m s') :
    Bounded s' ↔ Bounded s ∧ Alone s m := by
  cases hstep with
  | swept hstale =>
    rw [bounded_sweepTimes_iff hc hstale, Alone]
    simp only [hstale, false_or]
  | served hfresh => exact (and_iff_left (.inr (.inl hfresh))).symm
  | _ => exact (and_iff_left trivial).symm

end Moves

/-- **When the cache bounds the load.**  For every interleaving of requests, reads and the
    clock: a sweep was only ever started while none was in flight and none had completed
    within the lifetime of the cache, exactly where each request found the cache fresh, or
    nobody else was waiting for the operators and it was no `GET /tiers`. -/
theorem rpc_load_bounded_iff (client : Client) (known : List KnownOperator) (chain : Records)
    (now : ℕ) {ms : List Move} {s : Load}
    (h : run (step client known) (start chain now) ms = some s) :
    Bounded s ↔ AllMoves (step client known) Alone (start chain now) ms := by
  have hstart : Bounded (start chain now) := nofun
  rw [run_good_iff (I := Cached) (p := Alone) (fun hc hstep => hc.step (stepped hstep))
    (fun hc hstep => bounded_step_iff hc (stepped hstep)) h ⟨nofun, nofun⟩]
  exact and_iff_right hstart

/-! ### A cold start -/

section Sample

/-- One `GET /tiers` finds no cache; its sweeps succeed. -/
def Sample.coldTiers : List Move :=
  [.ask .tiers, .settle 0 (fun _ => Discovery.Instants.first),
    .settle 0 (fun _ => Discovery.Instants.first), .settle 0 (fun _ => Discovery.Instants.first)]

theorem rpc_load_bounded_iff_relays :
    ∃ s, run (step Sample.client knownOperators) (start (Discovery.Sample.chain .active) 0)
        [.ask .relays, .ask .relays] = some s ∧
      (Bounded s ↔ AllMoves (step Sample.client knownOperators) Alone
        (start (Discovery.Sample.chain .active) 0) [.ask .relays, .ask .relays]) :=
  ⟨_, rfl, rpc_load_bounded_iff Sample.client knownOperators (Discovery.Sample.chain .active) 0 rfl⟩

/-- Three sweeps are in flight at once, although every sweep that has started succeeds. -/
theorem tiers_sweeps_three_times :
    ¬ ∀ (client : Client) (known : List KnownOperator) (chain : Records) (now : ℕ)
        (ms : List Move) (s : Load), run (step client known) (start chain now) ms = some s →
      s.completed.length = s.sweeps.length → Bounded s := by
  intro hall
  obtain ⟨s, hrun, hlength, hinFlight⟩ : ∃ s, run (step Sample.client knownOperators)
      (start (Discovery.Sample.chain .active) 0) Sample.coldTiers = some s ∧
      s.completed.length = s.sweeps.length ∧ s.sweeps.map Sweep.inFlight = [0, 1, 2] :=
    exists_run (by decide +kernel)
  have hbounded := hall _ _ _ _ _ s hrun hlength
  have hmem : 2 ∈ s.sweeps.map Sweep.inFlight := by
    rw [hinFlight]
    decide
  obtain ⟨sweep, hsweep, htwo⟩ := List.mem_map.mp hmem
  have hnone := (hbounded sweep hsweep).1
  omega

end Sample

end Load

end DVoD.Orchestrator
