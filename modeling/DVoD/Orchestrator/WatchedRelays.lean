import DVoD.Ens.OperatorEntry
import DVoD.Orchestrator.RelayFreshness

/-!
# Relays under watch

The calls of `listOperators` beside the chain that they read: transactions at the resolver
and at the contracts, and calls of the orchestrator, in any order.  `offered_until_revoked`
is what a revocation on the chain means for the answers of the orchestrator, whatever else
anyone but the admin of the resolver sends.
-/

namespace DVoD.Orchestrator

open DVoD.Ens DVoD.Evm DVoD.Log DVoD.Machine DVoD.Session DVoD.Text
open Discovery (Event Clocked)
open Discovery.Clocked (Recent)

/-! ### The chain and the orchestrator -/

inductive LiveEvent where
  | transact (time : ℕ) (tx : Address × EnsCall)
  | call (time : ℕ)
  | settle (time k : ℕ) (instants : KnownOperator → Instants)

/-- The transactions, with the times of them. -/
def LiveEvent.sent : LiveEvent → List (ℕ × (Address × EnsCall))
  | .transact time tx => [(time, tx)]
  | .call _ | .settle _ _ _ => []

def sent (es : List LiveEvent) : List (ℕ × (Address × EnsCall)) := es.flatMap LiveEvent.sent

/-- The state of the chain that an event brings. -/
def Discovery.Event.written : Event → List (ℕ × Records)
  | .write time chain => [(time, chain)]
  | .call _ | .settle _ _ _ => []

structure Live (R : PermissionedResolver) where
  resolver : R.State
  orchestrator : Clocked

namespace Live

section Steps

variable {R : PermissionedResolver} (hpermits : R.Permits) (keccak256 : Bytes → Word) (c : Contracts)
  (client : Client) (known : List KnownOperator)

def start (s : R.State) : Live R := ⟨s, Clocked.start (R.records s)⟩

/-- The resolver after an event. -/
def after (s : R.State) : LiveEvent → R.State
  | .transact _ tx => perform R hpermits keccak256 c s tx
  | .call _ | .settle _ _ _ => s

/-- The event at the orchestrator, which sees the records after it. -/
def event (records : Records) : LiveEvent → Event
  | .transact time _ => .write time records
  | .call time => .call time
  | .settle time k instants => .settle time k instants

def step (s : Live R) (e : LiveEvent) : Option (Live R) :=
  let resolver := after hpermits keccak256 c s.resolver e
  (s.orchestrator.step client known (event (R.records resolver) e)).map fun orchestrator =>
    ⟨resolver, orchestrator⟩

/-- The records after each transaction, with the time of it. -/
def timeline (s : R.State) : List (ℕ × (Address × EnsCall)) → List (ℕ × Records)
  | [] => []
  | (time, tx) :: txs =>
      (time, R.records (perform R hpermits keccak256 c s tx)) ::
        timeline (perform R hpermits keccak256 c s tx) txs

end Steps

/-- The reads of a call are over within the time. -/
def Prompt {R : PermissionedResolver} (duration : ℕ) (s : Live R) (e : LiveEvent) : Prop :=
  Clocked.Prompt duration s.orchestrator (event (R.records s.resolver) e)

/-! ### The timeline -/

section Timeline

variable {R : PermissionedResolver} {hpermits : R.Permits} {keccak256 : Bytes → Word} {c : Contracts}
  {s : R.State}

theorem timeline_append (txs txs' : List (ℕ × (Address × EnsCall))) :
    timeline hpermits keccak256 c s (txs ++ txs') = timeline hpermits keccak256 c s txs ++
      timeline hpermits keccak256 c (performAll R hpermits keccak256 c s (txs.map Prod.snd)) txs' := by
  induction txs generalizing s with
  | nil => rfl
  | cons tx txs ih => exact congrArg (_ :: ·) ih

/-- Records that were there are those after a part of the transactions. -/
theorem exists_part {txs : List (ℕ × (Address × EnsCall))} {t : Records}
    (h : t = R.records s ∨ t ∈ (timeline hpermits keccak256 c s txs).map Prod.snd) :
    ∃ part rest, txs = part ++ rest ∧
      t = R.records (performAll R hpermits keccak256 c s (part.map Prod.snd)) := by
  induction txs generalizing s with
  | nil =>
    rcases h with rfl | h
    · exact ⟨[], [], rfl, rfl⟩
    · cases h
  | cons tx txs ih =>
    rcases h with rfl | h
    · exact ⟨[], tx :: txs, rfl, rfl⟩
    · obtain ⟨part, rest, rfl, ht⟩ := ih (List.mem_cons.mp h)
      exact ⟨tx :: part, rest, rfl, ht⟩

end Timeline

/-! ### Runs -/

/-- What was sent, seen from both sides. -/
structure Inv {R : PermissionedResolver} (hpermits : R.Permits) (keccak256 : Bytes → Word) (c : Contracts)
    (client : Client) (known : List KnownOperator) (duration : ℕ) (s₀ : R.State)
    (txs : List (ℕ × (Address × EnsCall))) (s : Live R) : Prop where
  resolver : s.resolver = performAll R hpermits keccak256 c s₀ (txs.map Prod.snd)
  chains : s.orchestrator.chains = (0, R.records s₀) :: timeline hpermits keccak256 c s₀ txs
  recent : Recent client known duration s.orchestrator

section Runs

variable {R : PermissionedResolver} {hpermits : R.Permits} {keccak256 : Bytes → Word} {c : Contracts}
  {client : Client} {known : List KnownOperator} {duration : ℕ} {s₀ : R.State}
  {txs : List (ℕ × (Address × EnsCall))} {s s' : Live R} {e : LiveEvent} {es : List LiveEvent}

/-- Only the chain adds to the history of the chain. -/
theorem chains_step {s s' : Clocked} {e : Event} (h : s.step client known e = some s') :
    s'.chains = s.chains ++ e.written := by
  unfold Clocked.step at h
  split at h
  · cases h
  · obtain ⟨discovery, -, rfl⟩ := Option.map_eq_some_iff.mp h
    cases e with
    | write time chain => rfl
    | call time => exact (List.append_nil _).symm
    | settle time k instants => exact (List.append_nil _).symm

theorem step_eq_some (h : step hpermits keccak256 c client known s e = some s') :
    s'.resolver = after hpermits keccak256 c s.resolver e ∧
    s.orchestrator.step client known (event (R.records (after hpermits keccak256 c s.resolver e)) e) =
      some s'.orchestrator := by
  obtain ⟨orchestrator, horchestrator, rfl⟩ := Option.map_eq_some_iff.mp h
  exact ⟨rfl, horchestrator⟩

theorem inv_start : Inv hpermits keccak256 c client known duration s₀ [] (start s₀) :=
  ⟨rfl, rfl, Recent.start _⟩

theorem Inv.step (h : Inv hpermits keccak256 c client known duration s₀ txs s) (hprompt : Prompt duration s e)
    (hstep : step hpermits keccak256 c client known s e = some s') :
    Inv hpermits keccak256 c client known duration s₀ (txs ++ e.sent) s' := by
  obtain ⟨hresolver, horchestrator⟩ := step_eq_some hstep
  cases e with
  | transact time tx =>
    have hchains := chains_step horchestrator
    refine ⟨?_, ?_, h.recent.step (by trivial) horchestrator⟩
    · rw [hresolver, List.map_append, performAll, List.foldl_append]
      exact congrArg (perform R hpermits keccak256 c · tx) h.resolver
    · rw [timeline_append, ← h.resolver, ← List.cons_append, ← h.chains]
      exact hchains
  | call time =>
    rw [LiveEvent.sent, List.append_nil]
    have hchains := (chains_step horchestrator).trans (List.append_nil _)
    exact ⟨hresolver.trans h.resolver, hchains.trans h.chains, h.recent.step (by trivial) horchestrator⟩
  | settle time k instants =>
    rw [LiveEvent.sent, List.append_nil]
    have hchains := (chains_step horchestrator).trans (List.append_nil _)
    exact ⟨hresolver.trans h.resolver, hchains.trans h.chains, h.recent.step hprompt horchestrator⟩

theorem Inv.run (h : Inv hpermits keccak256 c client known duration s₀ txs s)
    (hprompt : AllMoves (Live.step hpermits keccak256 c client known) (Prompt duration) s es)
    (hrun : Machine.run (Live.step hpermits keccak256 c client known) s es = some s') :
    Inv hpermits keccak256 c client known duration s₀ (txs ++ sent es) s' := by
  induction es generalizing s txs with
  | nil =>
    obtain rfl := Option.some.inj hrun
    rw [sent, List.flatMap_nil, List.append_nil]
    exact h
  | cons e es ih =>
    obtain ⟨s₁, hstep, hrun⟩ := run_cons.mp hrun
    obtain ⟨he, hes⟩ := (allMoves_cons hstep).mp hprompt
    rw [sent, List.flatMap_cons, ← sent, ← List.append_assoc]
    exact ih (h.step he hstep) hes hrun

end Runs

end Live

/-! ### What the orchestrator answers -/

theorem statusOf_shows {client : Client} (hclient : client.Documented) {P : Parties} {payoutAddress : Address}
    {e : Entry} {t : Records} {name : String} (h : Shows P payoutAddress e t) (hnode : P.node = client.namehash name) :
    statusOf client t.reads name = some e.status := by
  have hstatus := hclient.hexToString e.status
  simp only [statusOf, Records.reads, ← hnode, h.status, Option.bind_some, hstatus]
  exact safeParse_name e.status

open Live in
/-- **An operator is offered until it is revoked.**  Registered operators, transactions by
    anyone but the admin, and calls of the orchestrator, in any order, none of which reads for
    longer than `duration`.  Where the admin of the watchdog revokes the operator, or a check
    does that did not match its hash, no answer that is given later than the lifetime of the
    cache and the duration offers it for any tier.  Where neither has happened, it is active
    in every answer that lists it. -/
theorem offered_until_revoked {R : PermissionedResolver} (hpermits : R.Permits) {keccak256 : Bytes → Word}
    {client : Client} {registryAddress resolverAddress admin : Address} {params : RegisterOperatorParams}
    {ops : List RegisterOperatorParams} {s₀ s₁ s₂ : R.State} {c : Contracts} {mayRefresh : Bool}
    {known : List KnownOperator} {op : KnownOperator} {duration : ℕ} {es : List LiveEvent} {s : Live R}
    (hclient : client.Documented) (hreads : ReadsNames R client.namehash)
    (hkeccak : keccak256 (statusData .active) ≠ keccak256 (statusData .revoked))
    (hadmin : OnlyAdmin admin (R.store s₀)) (hlabels : ∀ params ∈ ops, NoEmptyLabels params.name)
    (hreg : Registers R client.namehash registryAddress resolverAddress admin ops s₀ s₁)
    (hnames : (ops.map RegisterOperatorParams.name).Nodup)
    (hhash : ∀ p ∈ ops, ∀ q ∈ ops, client.namehash p.name = client.namehash q.name → p.name = q.name)
    (hparams : params ∈ ops) (hwatchdog : c.watchdog.address = params.watchdogAddress)
    (hrefresher : Outsider admin ops c.refresher.address)
    (hkey : c.refresher.address ≠ params.operationalKeyAddress)
    (hgrants : Grants R admin c.refresher.address params.name mayRefresh s₁ s₂)
    (hknown : (known.map KnownOperator.name).Nodup) (hop : op ∈ known) (hname : op.name = params.name)
    (hsends : ∀ tx ∈ sent es, Sends (Direct admin ops c) tx.2)
    (hprompt : AllMoves (step hpermits keccak256 c client known) (Prompt duration) (start s₂) es)
    (hrun : Machine.run (step hpermits keccak256 c client known) (start s₂) es = some s) :
    (∀ before time tx later, sent es = before ++ (time, tx) :: later →
      (params.entry.run (params.parties client.namehash c mayRefresh) keccak256 (before.map Prod.snd)).Revokes
        (params.parties client.namehash c mayRefresh) keccak256 tx →
      ∀ answer ∈ s.orchestrator.answers, time + (cacheTtlMs + duration) < answer.1 →
        ∀ tier, ∀ record ∈ answer.2.filter (isEligible tier), record.operator ≠ params.name) ∧
    ((∀ before time tx later, sent es = before ++ (time, tx) :: later →
      ¬ (params.entry.run (params.parties client.namehash c mayRefresh) keccak256 (before.map Prod.snd)).Revokes
        (params.parties client.namehash c mayRefresh) keccak256 tx) →
      ∀ answer ∈ s.orchestrator.answers, ∀ record ∈ answer.2, record.operator = params.name →
        record.status = .active) := by
  have hinv : Inv hpermits keccak256 c client known duration s₂ (sent es) s := inv_start.run hprompt hrun
  have hkept := kept_registered hreads hadmin hlabels hreg hnames hhash hparams hwatchdog hrefresher hkey hgrants
  have hstatus (part rest : List (ℕ × (Address × EnsCall))) (hpart : sent es = part ++ rest) :
      statusOf client (R.records (performAll R hpermits keccak256 c s₂ (part.map Prod.snd))).reads params.name =
        some (params.entry.run (params.parties client.namehash c mayRefresh) keccak256 (part.map Prod.snd)).status := by
    refine statusOf_shows hclient (hkept.performAll hpermits hkeccak ?_).shows rfl
    intro tx htx
    obtain ⟨p, hp, rfl⟩ := List.mem_map.mp htx
    exact hsends p (hpart ▸ List.mem_append_left _ hp)
  have hread {answer : ℕ × List CapabilityRecord} (hanswer : answer ∈ s.orchestrator.answers)
      {record : CapabilityRecord} (hrecord : record ∈ answer.2) (hoperator : record.operator = params.name) :=
    hinv.recent.status_of_answer hknown hop hanswer hrecord (hoperator.trans hname.symm)
  rw [hname] at hread
  constructor
  · intro before time tx later hsplit hrevokes answer hanswer hlate
    apply Discovery.not_eligible
    intro record hrecord hoperator hactive
    obtain ⟨t, hheld, ht⟩ := hread hanswer hrecord hoperator
    have hchains := hinv.chains
    rw [hsplit, timeline_append, ← List.cons_append] at hchains
    obtain ⟨part, rest, rfl, rfl⟩ := exists_part (hheld.eq_or_mem hinv.recent.sorted hchains (by omega))
    have hpart := hstatus (before ++ (time, tx) :: part) rest (by rw [hsplit, List.append_assoc, List.cons_append])
    rw [List.map_append, List.map_cons, performAll, List.foldl_append] at hpart
    have hsame := Option.some.inj (ht.symm.trans hpart)
    have hrevoked := Entry.revoked_run.mpr (.inr ⟨before.map Prod.snd, tx, part.map Prod.snd, rfl, hrevokes⟩)
    rw [Entry.status_eq_revoked.mpr hrevoked, hactive] at hsame
    cases hsame
  · intro hnever answer hanswer record hrecord hoperator
    obtain ⟨t, ⟨before, since, after, hchains, -⟩, ht⟩ := hread hanswer hrecord hoperator
    have hmem : t ∈ s.orchestrator.chains.map Prod.snd := by
      rw [hchains]
      simp
    rw [hinv.chains] at hmem
    obtain ⟨part, rest, hpart, rfl⟩ := exists_part (List.mem_cons.mp hmem)
    have hsame := Option.some.inj (ht.symm.trans (hstatus part rest hpart))
    cases hrecorded : record.status with
    | active => rfl
    | revoked =>
      rw [hrecorded] at hsame
      rcases Entry.revoked_run.mp (Entry.status_eq_revoked.mp hsame.symm) with hentry | ⟨before, tx, after, heq, hrevokes⟩
      · cases hentry
      · obtain ⟨before, last, rfl, rfl, hlast⟩ := List.map_eq_append_iff.mp heq
        obtain ⟨⟨time, tx⟩, later, rfl, rfl, -⟩ := List.map_eq_cons_iff.mp hlast
        refine absurd hrevokes (hnever before time tx (later ++ rest) ?_)
        rw [hpart, List.append_assoc, List.cons_append]

/-! ### Bob is watched -/

namespace Sample

open Ens.Sample (bob dave deployedContracts nameNode readNames reader fresh)

def bobOnly : List KnownOperator := [⟨bob.name, "0x0000000000000000000000000000000000000002"⟩]

/-- Bob is revoked, and read later. -/
def watch : List LiveEvent :=
  [.transact 10 (deployedContracts.watchdog.admin, .contracts (.adminRevoke (nameNode bob.name))), .call 20000,
    .settle 20005 0 fun _ => Discovery.Instants.first]

theorem run_watch (s : (storeResolver readNames).State) :
    ∃ s', Machine.run (Live.step (permits_storeResolver readNames) Ens.Sample.keccak256 deployedContracts reader bobOnly)
      (Live.start s) watch = some s' := ⟨_, rfl⟩

theorem prompt_watch (s : (storeResolver readNames).State) :
    AllMoves (Live.step (permits_storeResolver readNames) Ens.Sample.keccak256 deployedContracts reader bobOnly)
      (Live.Prompt 5) (Live.start s) watch := by
  refine (allMoves_cons rfl).mpr ⟨trivial, (allMoves_cons rfl).mpr ⟨trivial, (allMoves_cons rfl).mpr ⟨?_, trivial⟩⟩⟩
  intro began hbegan
  obtain rfl := Option.some.inj hbegan
  decide

theorem answers_settle {client : Client} {known : List KnownOperator} {s s' : Clocked} {time k : ℕ}
    {instants : KnownOperator → Instants} {refresh : Refresh} {records : List CapabilityRecord}
    (h : s.step client known (.settle time k instants) = some s')
    (hrefresh : s.discovery.refreshes[k]? = some refresh)
    (hread : Discovery.readAll client known refresh instants = .ok records) :
    s'.answers = s.answers ++ [(time, records)] := by
  unfold Clocked.step at h
  split at h
  · cases h
  · obtain ⟨discovery, hdiscovery, rfl⟩ := Option.map_eq_some_iff.mp h
    rw [Event.move, Discovery.step, hrefresh, Option.map_some, hread] at hdiscovery
    obtain rfl := Option.some.inj hdiscovery
    simp [Event.time]

def revokedBob (s : (storeResolver readNames).State) : (storeResolver readNames).State :=
  performAll (storeResolver readNames) (permits_storeResolver readNames) Ens.Sample.keccak256 deployedContracts s
    ((sent watch).map Prod.snd)

/-- While the call waits. -/
def waiting (s : (storeResolver readNames).State) : Live (storeResolver readNames) where
  resolver := revokedBob s
  orchestrator :=
    { discovery := ⟨(storeResolver readNames).records (revokedBob s), none,
        [⟨0, [(storeResolver readNames).records (revokedBob s)]⟩], []⟩
      now := 20000
      chains := [(0, (storeResolver readNames).records s), (10, (storeResolver readNames).records (revokedBob s))]
      began := [20000]
      answers := [] }

/-- Where bob can be read, the call lists him. -/
theorem answers_watch {s : (storeResolver readNames).State} {s' : Live (storeResolver readNames)}
    {record : CapabilityRecord}
    (hread : readCapabilityRecord reader ((storeResolver readNames).records (revokedBob s)).reads bob.name
      "0x0000000000000000000000000000000000000002" = .ok record)
    (hrun : Machine.run (Live.step (permits_storeResolver readNames) Ens.Sample.keccak256 deployedContracts reader
      bobOnly) (Live.start s) watch = some s') : s'.orchestrator.answers = [(20005, [record])] := by
  have hall : Discovery.readAll reader bobOnly ⟨0, [(storeResolver readNames).records (revokedBob s)]⟩
      (fun _ => Discovery.Instants.first) = .ok [record] := by
    have hsettled : bobOnly.map (fun op => readCapabilityRecord reader (Refresh.reads ⟨0, [(storeResolver
        readNames).records (revokedBob s)]⟩ Discovery.Instants.first) op.name op.operationalKeyAddress) =
        [.ok record] := congrArg (fun read => [read]) hread
    rw [Discovery.readAll, hsettled]
    rfl
  have hlast : Machine.run (Live.step (permits_storeResolver readNames) Ens.Sample.keccak256 deployedContracts reader
      bobOnly) (waiting s) [.settle 20005 0 fun _ => Discovery.Instants.first] = some s' := hrun
  obtain ⟨s₁, hstep, hrun⟩ := run_cons.mp hlast
  obtain rfl := Option.some.inj hrun
  exact answers_settle (Live.step_eq_some hstep).2 rfl hall

theorem read_watch : ∃ record, Entry.read (bob.entry.run (bob.parties nameNode deployedContracts true)
    Ens.Sample.keccak256 ((sent watch).map Prod.snd)) reader bob.name "0x0000000000000000000000000000000000000002"
    "0x0000000000000000000000000000000000000003" = .ok record := exists_read (by decide +kernel)

end Sample

open Sample Ens.Sample in
/-- At 20005 bob is listed, and offered for no tier. -/
theorem offered_until_revoked_bob : ∃ s₁ s₂ s record,
    Registers (storeResolver readNames) reader.namehash 5 6 9 [bob, dave] fresh s₁ ∧
    Grants (storeResolver readNames) 9 deployedContracts.refresher.address bob.name true s₁ s₂ ∧
    Machine.run (Live.step (permits_storeResolver readNames) Ens.Sample.keccak256 deployedContracts reader bobOnly)
      (Live.start s₂) watch = some s ∧
    s.orchestrator.answers = [(20005, [record])] ∧
    ∀ tier, ∀ r ∈ [record].filter (isEligible tier), r.operator ≠ bob.name := by
  obtain ⟨s₁, s₂, hreg, hgrants⟩ := exists_granted
  obtain ⟨s, hrun⟩ := run_watch s₂
  have hkeccak : Ens.Sample.keccak256 (statusData .active) ≠ Ens.Sample.keccak256 (statusData .revoked) := by
    decide +kernel
  have hnames : ([bob, dave].map RegisterOperatorParams.name).Nodup := by decide
  have hhash : ∀ p ∈ [bob, dave], ∀ q ∈ [bob, dave], nameNode p.name = nameNode q.name → p.name = q.name := by
    decide +kernel
  have hrefresher : Outsider 9 [bob, dave] deployedContracts.refresher.address := ⟨by decide, by decide⟩
  have hdecode : reader.decodeAddress (addressWord bob.payoutAddress).toBytes =
      some "0x0000000000000000000000000000000000000003" := by decide +kernel
  have hsends : ∀ tx ∈ sent watch, Sends (Direct 9 [bob, dave] deployedContracts) tx.2 := by
    intro tx htx
    obtain rfl := List.mem_singleton.mp htx
    trivial
  have hkept := kept_registered readsNames onlyAdmin_fresh labels_both hreg hnames hhash
    (List.mem_cons_self : bob ∈ [bob, dave]) rfl hrefresher (by decide) hgrants
  obtain ⟨record, hrecord⟩ := read_watch
  have hread := (hkept.performAll (permits_storeResolver readNames) hkeccak (List.forall_mem_map.mpr hsends)).shows.read
    documented_reader rfl hdecode "0x0000000000000000000000000000000000000002"
  have hanswers := answers_watch (hread.trans hrecord) hrun
  obtain ⟨hrevoked, -⟩ := offered_until_revoked (permits_storeResolver readNames) documented_reader readsNames hkeccak
    onlyAdmin_fresh labels_both hreg hnames hhash (List.mem_cons_self : bob ∈ [bob, dave]) rfl hrefresher (by decide)
    hgrants (by decide : (bobOnly.map KnownOperator.name).Nodup) List.mem_cons_self rfl hsends (prompt_watch s₂) hrun
  refine ⟨s₁, s₂, s, record, hreg, hgrants, hrun, hanswers, ?_⟩
  intro tier
  have hmem : (20005, [record]) ∈ s.orchestrator.answers := hanswers ▸ List.mem_cons_self
  exact hrevoked [] 10 _ [] rfl (.inl rfl) _ hmem (by decide : 10 + (cacheTtlMs + 5) < 20005) tier

end DVoD.Orchestrator
