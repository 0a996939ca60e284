import DVoD.Ens.Client

/-!
# Relay discovery

`relays.ts`: the capability records of all known operators, read together and cached.
`isolated_iff` says when what one operator writes into its own records leaves the answers
about the others as they are, and makes no call fail.
-/

namespace DVoD.Orchestrator

open DVoD.Ens DVoD.Evm DVoD.Session DVoD.Text

/-! ### `Promise.all` -/

section Promises

variable {ε α : Type}

/-- `Promise.all`, once every promise is settled: rejected where one of them is, with one
    of the errors. -/
def promiseAll (settled : List (Except ε α)) : Except (List ε) (List α) :=
  match settled.filterMap fun | .error e => some e | .ok _ => none with
  | [] => .ok (settled.filterMap Except.toOption)
  | errors => .error errors

theorem promiseAll_of_forall {settled : List (Except ε α)} (h : ∀ p ∈ settled, ∃ a, p = .ok a) :
    promiseAll settled = .ok (settled.filterMap Except.toOption) := by
  have hnone : settled.filterMap (fun | .error e => some e | .ok _ => none : Except ε α → Option ε) =
      [] := by
    apply List.filterMap_eq_nil_iff.mpr
    intro p hp
    obtain ⟨a, rfl⟩ := h p hp
    rfl
  rw [promiseAll, hnone]

theorem promiseAll_of_mem {settled : List (Except ε α)} {e : ε} (h : .error e ∈ settled) :
    ∃ errors, promiseAll settled = .error errors := by
  have hmem : e ∈ settled.filterMap (fun | .error e => some e | .ok _ => none : Except ε α → Option ε) :=
    List.mem_filterMap.mpr ⟨_, h, rfl⟩
  rw [promiseAll]
  split
  · next hnil =>
    rw [hnil] at hmem
    cases hmem
  · exact ⟨_, rfl⟩

end Promises

/-! ### `relays.ts` -/

structure KnownOperator where
  name : String
  operationalKeyAddress : String

def knownOperators : List KnownOperator :=
  [⟨"bob.dvod-test.eth", "0xf0C16Af7eB8c169271968E70741A87885F73Bfd2"⟩,
    ⟨"carol.dvod-test.eth", "0x52E6121e74Db83BAeE0685d19E4a6e491804C6ff"⟩,
    ⟨"dave.dvod-test.eth", "0xe17985962085404b481367f0a234D67E6F692eBB"⟩]

structure Cache where
  records : List CapabilityRecord
  expiresAt : ℕ

def cacheTtlMs : ℕ := 10000

/-- The answer, and the cache after it.  `now` is the time of the call, and `later` the
    time at which the records have been read. -/
def listOperators (client : Client) (known : List KnownOperator) (reads : Reads) (now later : ℕ)
    (cache : Option Cache) : Except (List ReadError) (List CapabilityRecord) × Option Cache :=
  match cache.filter fun cache => cache.expiresAt > now with
  | some fresh => (.ok fresh.records, cache)
  | none =>
      match promiseAll (known.map fun op =>
          readCapabilityRecord client reads op.name op.operationalKeyAddress) with
      | .ok records => (.ok records, some ⟨records, later + cacheTtlMs⟩)
      | .error errors => (.error errors, cache)

def isEligible (tier : Tier) (op : CapabilityRecord) : Bool :=
  op.status = .active && op.tiersSupported.contains tier

def eligibleOperators (client : Client) (known : List KnownOperator) (reads : Reads) (now later : ℕ)
    (cache : Option Cache) (tier : Tier) :
    Except (List ReadError) (List CapabilityRecord) × Option Cache :=
  let (operators, cache) := listOperators client known reads now later cache
  (operators.map fun operators => operators.filter (isEligible tier), cache)

/-! ### Isolation -/

/-- The reads differ only in the records of the node that its operational key may write. -/
structure DifferAt (x : Word) (reads reads' : Reads) : Prop where
  text : ∀ node key, node ≠ x → reads'.text node key = reads.text node key
  data : ∀ node key, node ≠ x ∨ key ≠ .attestationBuildHash →
    reads'.data node key = reads.data node key

def others (client : Client) (x : Word) (records : List CapabilityRecord) : List CapabilityRecord :=
  records.filter fun record => client.namehash record.operator ≠ x

/-- Both fail, or both answer and agree about the operators at other nodes. -/
inductive SameForOthers (client : Client) (x : Word) :
    Except (List ReadError) (List CapabilityRecord) →
      Except (List ReadError) (List CapabilityRecord) → Prop
  | rejected {errors errors'} : SameForOthers client x (.error errors) (.error errors')
  | answered {records records'} : others client x records = others client x records' →
      SameForOthers client x (.ok records) (.ok records')

def without (client : Client) (x : Word) (known : List KnownOperator) : List KnownOperator :=
  known.filter fun op => client.namehash op.name ≠ x

def Fails (answer : Except (List ReadError) (List CapabilityRecord)) : Prop :=
  ∃ errors, answer = .error errors

/-- The records of the node do not make a call fail: where one fails, it fails without the
    operators of that node, too. -/
structure Harmless (client : Client) (known : List KnownOperator) (now later : ℕ)
    (cache : Option Cache) (x : Word) (reads : Reads) : Prop where
  list : Fails (listOperators client known reads now later cache).1 →
    Fails (listOperators client (without client x known) reads now later cache).1
  eligible : ∀ tier, Fails (eligibleOperators client known reads now later cache tier).1 →
    Fails (eligibleOperators client (without client x known) reads now later cache tier).1

/-- Both functions give the same answers about the operators at other nodes, and fail in
    neither state because of the node. -/
structure Isolated (client : Client) (known : List KnownOperator) (now later : ℕ)
    (cache : Option Cache) (x : Word) (reads reads' : Reads) : Prop where
  list : SameForOthers client x (listOperators client known reads now later cache).1
    (listOperators client known reads' now later cache).1
  eligible : ∀ tier, SameForOthers client x
    (eligibleOperators client known reads now later cache tier).1
    (eligibleOperators client known reads' now later cache tier).1
  harmless : Harmless client known now later cache x reads
  harmless' : Harmless client known now later cache x reads'

def AllReadable (client : Client) (known : List KnownOperator) (reads : Reads) (x : Word) : Prop :=
  ∀ op ∈ known, client.namehash op.name = x →
    Readable client reads op.name op.operationalKeyAddress

section Isolation

variable {client : Client} {known : List KnownOperator} {reads reads' : Reads} {now later : ℕ}
  {cache : Option Cache} {x : Word}

theorem SameForOthers.filter {a a' : Except (List ReadError) (List CapabilityRecord)}
    (h : SameForOthers client x a a') (p : CapabilityRecord → Bool) :
    SameForOthers client x (a.map fun records => records.filter p)
      (a'.map fun records => records.filter p) := by
  cases h with
  | rejected => exact .rejected
  | answered h =>
    refine .answered ?_
    simp only [others] at h ⊢
    rw [List.filter_comm, h, List.filter_comm]

theorem fails_map_iff {answer : Except (List ReadError) (List CapabilityRecord)}
    {f : List CapabilityRecord → List CapabilityRecord} : Fails (answer.map f) ↔ Fails answer := by
  cases answer with
  | error errors => exact iff_of_true ⟨errors, rfl⟩ ⟨errors, rfl⟩
  | ok records => exact iff_of_false nofun nofun

theorem harmless_iff_list : Harmless client known now later cache x reads ↔
    (Fails (listOperators client known reads now later cache).1 →
      Fails (listOperators client (without client x known) reads now later cache).1) := by
  constructor
  · intro h
    exact h.list
  · intro h
    exact ⟨h, fun tier hfails => fails_map_iff.mpr (h (fails_map_iff.mp hfails))⟩

theorem isolated_iff_list : Isolated client known now later cache x reads reads' ↔
    SameForOthers client x (listOperators client known reads now later cache).1
        (listOperators client known reads' now later cache).1 ∧
      Harmless client known now later cache x reads ∧
      Harmless client known now later cache x reads' := by
  constructor
  · intro h
    exact ⟨h.list, h.harmless, h.harmless'⟩
  · rintro ⟨hlist, hharmless, hharmless'⟩
    exact ⟨hlist, fun tier => hlist.filter (isEligible tier), hharmless, hharmless'⟩

theorem listOperators_of_fresh {fresh : Cache}
    (h : cache.filter (fun cache => cache.expiresAt > now) = some fresh) :
    listOperators client known reads now later cache = (.ok fresh.records, cache) := by
  simp only [listOperators, h]

theorem listOperators_of_stale (h : cache.filter (fun cache => cache.expiresAt > now) = none) :
    (listOperators client known reads now later cache).1 =
      promiseAll (known.map fun op =>
        readCapabilityRecord client reads op.name op.operationalKeyAddress) := by
  simp only [listOperators, h]
  split <;> next heq => rw [heq]

theorem DifferAt.read_eq (h : DifferAt x reads reads') {op : KnownOperator}
    (hop : client.namehash op.name ≠ x) :
    readCapabilityRecord client reads' op.name op.operationalKeyAddress =
      readCapabilityRecord client reads op.name op.operationalKeyAddress :=
  readCapabilityRecord_congr (fun key => h.text _ key hop) fun key => h.data _ key (Or.inl hop)

theorem others_error (error : ReadError) (settled : List (Except ReadError CapabilityRecord)) :
    others client x ((.error error :: settled).filterMap Except.toOption) =
      others client x (settled.filterMap Except.toOption) := rfl

theorem others_ok (record : CapabilityRecord) (settled : List (Except ReadError CapabilityRecord)) :
    others client x ((.ok record :: settled).filterMap Except.toOption) =
      if client.namehash record.operator = x then others client x (settled.filterMap Except.toOption)
      else record :: others client x (settled.filterMap Except.toOption) := by
  have hcons : (Except.ok record :: settled).filterMap Except.toOption =
      record :: settled.filterMap Except.toOption := rfl
  rw [hcons, others, List.filter_cons]
  by_cases hnode : client.namehash record.operator = x <;> simp [hnode, others]

theorem others_read_self {op : KnownOperator} (hop : client.namehash op.name = x)
    (settled : List (Except ReadError CapabilityRecord)) :
    others client x ((readCapabilityRecord client reads op.name op.operationalKeyAddress ::
      settled).filterMap Except.toOption) = others client x (settled.filterMap Except.toOption) := by
  rcases readCapabilityRecord_cases client reads op.name op.operationalKeyAddress with
    ⟨-, record, hread, hoperator⟩ | ⟨-, error, hread⟩
  · rw [hread, others_ok, if_pos (by rw [hoperator, hop])]
  · rw [hread, others_error]

theorem others_eq (h : DifferAt x reads reads') :
    others client x ((known.map fun op => readCapabilityRecord client reads op.name
      op.operationalKeyAddress).filterMap Except.toOption) =
    others client x ((known.map fun op => readCapabilityRecord client reads' op.name
      op.operationalKeyAddress).filterMap Except.toOption) := by
  induction known with
  | nil => rfl
  | cons op known ih =>
    rw [List.map_cons, List.map_cons]
    by_cases hop : client.namehash op.name = x
    · rw [others_read_self hop, others_read_self hop]
      exact ih
    · rw [h.read_eq hop]
      rcases readCapabilityRecord client reads op.name op.operationalKeyAddress with error | record
      · exact ih
      · rw [others_ok, others_ok, ih]

/-- The records are answered with where all of them are readable, and not otherwise. -/
theorem promiseAll_reads_cases (client : Client) (known : List KnownOperator) (reads : Reads) :
    ((∀ op ∈ known, Readable client reads op.name op.operationalKeyAddress) ∧
      promiseAll (known.map fun op =>
          readCapabilityRecord client reads op.name op.operationalKeyAddress) =
        .ok ((known.map fun op => readCapabilityRecord client reads op.name
          op.operationalKeyAddress).filterMap Except.toOption)) ∨
    (¬ (∀ op ∈ known, Readable client reads op.name op.operationalKeyAddress) ∧
      ∃ errors, promiseAll (known.map fun op =>
        readCapabilityRecord client reads op.name op.operationalKeyAddress) = .error errors) := by
  by_cases h : ∀ op ∈ known, Readable client reads op.name op.operationalKeyAddress
  · refine Or.inl ⟨h, promiseAll_of_forall fun p hp => ?_⟩
    obtain ⟨op, hop, rfl⟩ := List.mem_map.mp hp
    rcases readCapabilityRecord_cases client reads op.name op.operationalKeyAddress with
      ⟨-, record, hread, -⟩ | ⟨hnot, -⟩
    · exact ⟨record, hread⟩
    · exact absurd (h op hop) hnot
  · refine Or.inr ⟨h, ?_⟩
    push Not at h
    obtain ⟨op, hop, hnot⟩ := h
    rcases readCapabilityRecord_cases client reads op.name op.operationalKeyAddress with
      ⟨hreadable, -⟩ | ⟨-, error, hread⟩
    · exact absurd hreadable hnot
    · exact promiseAll_of_mem (List.mem_map.mpr ⟨op, hop, hread⟩)

theorem DifferAt.readable_iff (h : DifferAt x reads reads') {op : KnownOperator}
    (hop : client.namehash op.name ≠ x) :
    Readable client reads' op.name op.operationalKeyAddress ↔
      Readable client reads op.name op.operationalKeyAddress := by
  have hread := h.read_eq hop
  rcases readCapabilityRecord_cases client reads op.name op.operationalKeyAddress with
      ⟨hreadable, record, hok, -⟩ | ⟨hnot, error, herror⟩ <;>
    rcases readCapabilityRecord_cases client reads' op.name op.operationalKeyAddress with
      ⟨hreadable', record', hok', -⟩ | ⟨hnot', error', herror'⟩
  · exact iff_of_true hreadable' hreadable
  · rw [hok, herror'] at hread
    cases hread
  · rw [herror, hok'] at hread
    cases hread
  · exact iff_of_false hnot' hnot

theorem forall_readable_iff
    (hothers : ∀ op ∈ known, client.namehash op.name ≠ x →
      Readable client reads op.name op.operationalKeyAddress) :
    (∀ op ∈ known, Readable client reads op.name op.operationalKeyAddress) ↔
      AllReadable client known reads x := by
  constructor
  · intro h op hop _
    exact h op hop
  · intro h op hop
    by_cases hnode : client.namehash op.name = x
    · exact h op hop hnode
    · exact hothers op hop hnode

theorem fails_iff (hstale : cache.filter (fun cache => cache.expiresAt > now) = none) :
    Fails (listOperators client known reads now later cache).1 ↔
      ∃ op ∈ known, ¬ Readable client reads op.name op.operationalKeyAddress := by
  rw [listOperators_of_stale hstale]
  rcases promiseAll_reads_cases client known reads with ⟨hall, hok⟩ | ⟨hnot, errors, herrors⟩
  · rw [hok]
    refine iff_of_false nofun ?_
    push Not
    exact hall
  · rw [herrors]
    push Not at hnot
    exact iff_of_true ⟨errors, rfl⟩ hnot

/-- Where another operator cannot be read, no failure is the node's own. -/
theorem harmless_iff (hstale : cache.filter (fun cache => cache.expiresAt > now) = none) :
    Harmless client known now later cache x reads ↔
      (∃ op ∈ known, client.namehash op.name ≠ x ∧
        ¬ Readable client reads op.name op.operationalKeyAddress) ∨
      AllReadable client known reads x := by
  have hwithout : (∃ op ∈ without client x known,
        ¬ Readable client reads op.name op.operationalKeyAddress) ↔
      ∃ op ∈ known, client.namehash op.name ≠ x ∧
        ¬ Readable client reads op.name op.operationalKeyAddress := by
    simp [without, and_assoc]
  rw [harmless_iff_list, fails_iff hstale, fails_iff hstale, hwithout]
  constructor
  · intro h
    by_cases hothers : ∃ op ∈ known, client.namehash op.name ≠ x ∧
        ¬ Readable client reads op.name op.operationalKeyAddress
    · exact Or.inl hothers
    · refine Or.inr fun op hop _ => ?_
      by_contra hnot
      exact hothers (h ⟨op, hop, hnot⟩)
  · rintro (hothers | hself) ⟨op, hop, hnot⟩
    · exact hothers
    · exact ⟨op, hop, fun hnode => hnot (hself op hop hnode), hnot⟩

theorem DifferAt.exists_unreadable_iff (h : DifferAt x reads reads') :
    (∃ op ∈ known, client.namehash op.name ≠ x ∧
        ¬ Readable client reads' op.name op.operationalKeyAddress) ↔
      ∃ op ∈ known, client.namehash op.name ≠ x ∧
        ¬ Readable client reads op.name op.operationalKeyAddress := by
  refine exists_congr fun op => and_congr_right fun _ => and_congr_right fun hnode => ?_
  rw [h.readable_iff hnode]

/-- Where the calls of neither state fail because of the node, they agree about the others. -/
theorem sameForOthers_of_stale (h : DifferAt x reads reads')
    (hstale : cache.filter (fun cache => cache.expiresAt > now) = none)
    (hreadable : (∃ op ∈ known, client.namehash op.name ≠ x ∧
        ¬ Readable client reads op.name op.operationalKeyAddress) ∨
      AllReadable client known reads x ∧ AllReadable client known reads' x) :
    SameForOthers client x (listOperators client known reads now later cache).1
      (listOperators client known reads' now later cache).1 := by
  by_cases hothers : ∃ op ∈ known, client.namehash op.name ≠ x ∧
      ¬ Readable client reads op.name op.operationalKeyAddress
  · -- the operator that cannot be read makes both calls fail
    obtain ⟨op, hop, -, hnot⟩ := id hothers
    obtain ⟨op', hop', -, hnot'⟩ := h.exists_unreadable_iff.mpr hothers
    have hfails : Fails (listOperators client known reads now later cache).1 :=
      (fails_iff hstale).mpr ⟨op, hop, hnot⟩
    have hfails' : Fails (listOperators client known reads' now later cache).1 :=
      (fails_iff hstale).mpr ⟨op', hop', hnot'⟩
    obtain ⟨errors, herrors⟩ := hfails
    obtain ⟨errors', herrors'⟩ := hfails'
    rw [herrors, herrors']
    exact .rejected
  · obtain ⟨hself, hself'⟩ := hreadable.resolve_left hothers
    have hothers' := mt h.exists_unreadable_iff.mp hothers
    push Not at hothers hothers'
    rw [listOperators_of_stale hstale, listOperators_of_stale hstale]
    rcases promiseAll_reads_cases client known reads with ⟨-, hok⟩ | ⟨hnot, -⟩
    swap
    · exact absurd ((forall_readable_iff hothers).mpr hself) hnot
    rcases promiseAll_reads_cases client known reads' with ⟨-, hok'⟩ | ⟨hnot', -⟩
    swap
    · exact absurd ((forall_readable_iff hothers').mpr hself') hnot'
    rw [hok, hok']
    exact .answered (others_eq h)

/-- **Isolation of operators.**  What an operator writes into its own records leaves the
    answers about the others as they are, and makes no call fail, exactly where the cache is
    fresh, or another operator's records make the call fail anyway, or the operator's own
    records are readable in both states. -/
theorem isolated_iff (h : DifferAt x reads reads') :
    Isolated client known now later cache x reads reads' ↔
      (∃ fresh, cache = some fresh ∧ now < fresh.expiresAt) ∨
      (∃ op ∈ known, client.namehash op.name ≠ x ∧
        ¬ Readable client reads op.name op.operationalKeyAddress) ∨
      AllReadable client known reads x ∧ AllReadable client known reads' x := by
  rw [isolated_iff_list]
  rcases hfresh : cache.filter (fun cache => cache.expiresAt > now) with _ | fresh
  swap
  · have hlist (ops : List KnownOperator) (r : Reads) :
        (listOperators client ops r now later cache).1 = .ok fresh.records := by
      rw [listOperators_of_fresh hfresh]
    have hharmless (r : Reads) : Harmless client known now later cache x r := by
      rw [harmless_iff_list, hlist, hlist]
      exact id
    rw [hlist, hlist]
    obtain ⟨rfl, hnow⟩ := Option.filter_eq_some_iff.mp hfresh
    exact iff_of_true ⟨.answered rfl, hharmless reads, hharmless reads'⟩
      (Or.inl ⟨fresh, rfl, of_decide_eq_true hnow⟩)
  have hstale : ¬ ∃ fresh, cache = some fresh ∧ now < fresh.expiresAt := by
    rintro ⟨fresh, rfl, hnow⟩
    simp [Option.filter, hnow] at hfresh
  rw [or_iff_right hstale, harmless_iff hfresh, harmless_iff hfresh, h.exists_unreadable_iff,
    ← or_and_left]
  constructor
  · intro hisolated
    exact hisolated.2
  · intro hreadable
    exact ⟨sameForOthers_of_stale h hfresh hreadable, hreadable⟩

end Isolation

/-! ### Two states of the resolver -/

section Sample

def Sample.namehash (name : String) : Word :=
  if name = "bob.dvod-test.eth" then
    0x6ae42ffccc275cd1d6fc09d379960a2452c614c8f31c574fe0051f1c604b3628
  else if name = "carol.dvod-test.eth" then
    0x266eeed26366229aa73629835e62aa32aca6b06c3dfe36b5ec44ae6c581deb57
  else if name = "dave.dvod-test.eth" then
    0x0a218655d6f2486bf24acd59f45c8b03ccf5834384d47b950b0a70f17430a5cd
  else 0

def Sample.client : Client where
  namehash := Sample.namehash
  decodeAddress data :=
    if data = (addressWord 0x8d5e3f2b1bb5c9c0d3a4fd8ab6abb6b4bd3f5e11).toBytes then
      some "0x8D5E3F2B1BB5c9c0D3A4fd8aB6abb6b4bd3f5e11"
    else none
  hexToString bytes := String.ofList (Utf8.decode bytes)
  isUrl s := s = "https://relay.example" || s = "https://relay2.example"

/-- All operators are active and support "lite", and bob writes his own text records. -/
def Sample.reads (endpoint tiersSupported : String) : Reads where
  text node key :=
    match key with
    | .endpoint => if node = Sample.namehash "bob.dvod-test.eth" then endpoint else "https://relay.example"
    | .tiersSupported =>
        if node = Sample.namehash "bob.dvod-test.eth" then tiersSupported else "[\"lite\"]"
  data _ key :=
    match key with
    | .attestationBuildHash => some [1]
    | .payoutAddress => (addressWord 0x8d5e3f2b1bb5c9c0d3a4fd8ab6abb6b4bd3f5e11).toBytes
    | .status => statusActive

theorem Sample.differAt (endpoint tiersSupported endpoint' tiersSupported' : String) :
    DifferAt (Sample.namehash "bob.dvod-test.eth") (Sample.reads endpoint tiersSupported)
      (Sample.reads endpoint' tiersSupported') where
  text node key hnode := by cases key <;> simp [Sample.reads, hnode]
  data _ _ _ := rfl

theorem Sample.allReadable {reads : Reads}
    (h : ∀ op ∈ knownOperators, (readCapabilityRecord Sample.client reads op.name
      op.operationalKeyAddress).toOption.isSome = true) (x : Word) :
    AllReadable Sample.client knownOperators reads x := by
  intro op hop _
  rcases readCapabilityRecord_cases Sample.client reads op.name op.operationalKeyAddress with
    ⟨hreadable, -⟩ | ⟨-, error, hread⟩
  · exact hreadable
  · have hsome := h op hop
    rw [hread] at hsome
    cases hsome

theorem isolated_iff_endpoint : Isolated Sample.client knownOperators 0 0 none
    (Sample.namehash "bob.dvod-test.eth") (Sample.reads "https://relay.example" "[\"lite\"]")
    (Sample.reads "https://relay2.example" "[\"lite\", \"turbo\"]") :=
  (isolated_iff (Sample.differAt _ _ _ _)).mpr (Or.inr (Or.inr
    ⟨Sample.allReadable (by decide +kernel) _, Sample.allReadable (by decide +kernel) _⟩))

/-- bob writes "[" into his tiers, and no operator is listed any more. -/
theorem discovery_blocked :
    DifferAt (Sample.namehash "bob.dvod-test.eth") (Sample.reads "https://relay.example" "[\"lite\"]")
      (Sample.reads "https://relay.example" "[") ∧
    (∃ records, (listOperators Sample.client knownOperators
        (Sample.reads "https://relay.example" "[\"lite\"]") 0 0 none).1 = .ok records ∧
      (others Sample.client (Sample.namehash "bob.dvod-test.eth") records).map
        CapabilityRecord.operator = ["carol.dvod-test.eth", "dave.dvod-test.eth"]) ∧
    (∃ errors, (listOperators Sample.client knownOperators
      (Sample.reads "https://relay.example" "[") 0 0 none).1 = .error errors) ∧
    ¬ Isolated Sample.client knownOperators 0 0 none (Sample.namehash "bob.dvod-test.eth")
      (Sample.reads "https://relay.example" "[\"lite\"]") (Sample.reads "https://relay.example" "[") := by
  have hlisted : (listOperators Sample.client knownOperators
      (Sample.reads "https://relay.example" "[\"lite\"]") 0 0 none).1.toOption.any (fun records =>
        (others Sample.client (Sample.namehash "bob.dvod-test.eth") records).map
          CapabilityRecord.operator = ["carol.dvod-test.eth", "dave.dvod-test.eth"]) = true := by
    decide +kernel
  have hfailed : (listOperators Sample.client knownOperators
      (Sample.reads "https://relay.example" "[") 0 0 none).1.toOption.isNone = true := by
    decide +kernel
  rcases hok : (listOperators Sample.client knownOperators
      (Sample.reads "https://relay.example" "[\"lite\"]") 0 0 none).1 with errors | records
  · rw [hok] at hlisted
    cases hlisted
  rcases herror : (listOperators Sample.client knownOperators
      (Sample.reads "https://relay.example" "[") 0 0 none).1 with errors | records'
  swap
  · rw [herror] at hfailed
    cases hfailed
  rw [hok] at hlisted
  refine ⟨Sample.differAt _ _ _ _, ⟨records, rfl, of_decide_eq_true hlisted⟩, ⟨errors, rfl⟩,
    fun hisolated => ?_⟩
  have hsame := hisolated.list
  rw [hok, herror] at hsame
  cases hsame

end Sample

end DVoD.Orchestrator
