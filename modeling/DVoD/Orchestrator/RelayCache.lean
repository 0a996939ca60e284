import DVoD.Machine.Run
import DVoD.Orchestrator.Relays

/-!
# Concurrent refreshes of the relay cache

`listOperators` of `relays.ts` once more, now with any number of calls at a time.  A call
that finds the cache stale starts five reads for each operator, each of which returns the
state of the chain at some instant before the last of them has returned; then it overwrites
the cache with what it has read, however long ago that was.  `never_unseen_iff` says what
must not happen for a revocation, once seen, to stay seen.
-/

namespace DVoD.Orchestrator

open DVoD.Machine DVoD.Ens DVoD.Evm DVoD.Session DVoD.Text

/-! ### What a refresh reads -/

section Reads

variable {client : Client} {known : List KnownOperator} {reads : Reads} {name key : String}
  {record : CapabilityRecord}

theorem promiseAll_eq_ok {ε α : Type} {settled : List (Except ε α)} {values : List α} :
    promiseAll settled = .ok values ↔ settled = values.map .ok := by
  constructor
  · intro h
    have hok : ∀ p ∈ settled, ∃ a, p = .ok a := by
      intro p hp
      rcases p with e | a
      · obtain ⟨errors, herrors⟩ := promiseAll_of_mem hp
        rw [herrors] at h
        cases h
      · exact ⟨a, rfl⟩
    rw [promiseAll_of_forall hok] at h
    obtain rfl := Except.ok.inj h
    clear h
    induction settled with
    | nil => rfl
    | cons p settled ih =>
      obtain ⟨⟨a, rfl⟩, htail⟩ := List.forall_mem_cons.mp hok
      exact congrArg (Except.ok a :: ·) (ih htail)
  · rintro rfl
    rw [promiseAll_of_forall fun p hp => (List.mem_map.mp hp).imp fun a h => h.2.symm]
    exact congrArg Except.ok ((List.filterMap_map ..).trans (List.filterMap_some ..))

/-- The status that the reads answer for an operator, where it is one. -/
def statusOf (client : Client) (reads : Reads) (name : String) : Option RelayStatus :=
  (reads.data (client.namehash name) .status).bind fun data =>
    RelayStatus.safeParse (client.hexToString data)

theorem parse_status {isUrl : String → Bool} {raw : RawCapabilityRecord}
    (h : raw.parse isUrl = .ok record) : RelayStatus.safeParse raw.status = some record.status := by
  unfold RawCapabilityRecord.parse at h
  split at h
  · next hstatus =>
    obtain rfl := Except.ok.inj h
    exact hstatus
  · cases h

theorem read_operator (h : readCapabilityRecord client reads name key = .ok record) :
    record.operator = name := by
  rcases readCapabilityRecord_cases client reads name key with ⟨-, record', hread, hoperator⟩ |
    ⟨-, error, herror⟩
  · rw [hread] at h
    obtain rfl := Except.ok.inj h
    exact hoperator
  · rw [herror] at h
    cases h

theorem read_status (h : readCapabilityRecord client reads name key = .ok record) :
    statusOf client reads name = some record.status := by
  simp only [readCapabilityRecord] at h
  split at h
  · next hstatus =>
    split at h
    · cases h
    · cases h
    · rw [statusOf, hstatus]
      rcases hparse : RawCapabilityRecord.parse client.isUrl _ with issues | record'
      · rw [hparse] at h
        cases h
      · rw [hparse] at h
        obtain rfl := Except.ok.inj h
        exact parse_status hparse
  · cases h

end Reads

/-! ### Calls at any time -/

/-- Which of the states of the chain that a call has lived through each of its reads for an
    operator returns; `none` where the read fails. -/
structure Instants where
  text : TextKey → Option ℕ
  data : DataKey → Option ℕ

/-- A call that waits for its reads.  Both fields are history variables: the number of
    calls that had returned records when it began, and the states of the chain since then. -/
structure Refresh where
  startedAfter : ℕ
  seen : List Records

def Refresh.reads (refresh : Refresh) (instants : Instants) : Reads where
  text node key := (instants.text key).bind fun i => (refresh.seen[i]?).map fun t => t.text node key
  data node key := (instants.data key).bind fun i => (refresh.seen[i]?).map fun t => t.data node key

def Refresh.see (refresh : Refresh) (chain : Records) : Refresh :=
  { refresh with seen := refresh.seen ++ [chain] }

/-- A call that has returned records, with the number of those that had when it began. -/
structure Returned where
  startedAfter : ℕ
  records : List CapabilityRecord

structure Discovery where
  chain : Records
  cache : Option Cache
  refreshes : List Refresh
  returned : List Returned

namespace Discovery

inductive Move where
  /-- The chain goes on. -/
  | write (chain : Records)
  | call (now : ℕ)
  /-- The reads of the `k`th call that waits have all returned, or one has failed. -/
  | settle (k : ℕ) (instants : KnownOperator → Instants) (now : ℕ)

def start (chain : Records) : Discovery := ⟨chain, none, [], []⟩

section Steps

variable (client : Client) (known : List KnownOperator)

def readAll (refresh : Refresh) (instants : KnownOperator → Instants) :
    Except (List ReadError) (List CapabilityRecord) :=
  promiseAll (known.map fun op =>
    readCapabilityRecord client (refresh.reads (instants op)) op.name op.operationalKeyAddress)

def step (s : Discovery) : Move → Option Discovery
  | .write chain => some { s with
      chain := chain, refreshes := s.refreshes.map fun refresh => refresh.see chain }
  | .call now =>
      match s.cache.filter fun cache => cache.expiresAt > now with
      | some fresh => some { s with returned := s.returned ++ [⟨s.returned.length, fresh.records⟩] }
      | none => some { s with refreshes := s.refreshes ++ [⟨s.returned.length, [s.chain]⟩] }
  | .settle k instants now =>
      s.refreshes[k]?.map fun refresh =>
        match readAll client known refresh instants with
        | .ok records =>
            { s with
              cache := some ⟨records, now + cacheTtlMs⟩
              refreshes := s.refreshes.eraseIdx k
              returned := s.returned ++ [⟨refresh.startedAfter, records⟩] }
        | .error _ => { s with refreshes := s.refreshes.eraseIdx k }

end Steps

/-! ### Once revoked -/

/-- The status of a relay only ever goes from active to revoked. -/
def OneWay (client : Client) (known : List KnownOperator) (t t' : Records) : Prop :=
  ∀ op ∈ known, statusOf client t.reads op.name = some .revoked →
    statusOf client t'.reads op.name = some .revoked

def OneWayMove (client : Client) (known : List KnownOperator) (s : Discovery) : Move → Prop
  | .write chain => OneWay client known s.chain chain
  | _ => True

def Revoked (records : List CapabilityRecord) (name : String) : Prop :=
  ∃ record ∈ records, record.operator = name ∧ record.status = .revoked

def ReturnedRevoked (returned : List Returned) (name : String) : Prop :=
  ∃ answer ∈ returned, Revoked answer.records name

instance (records : List CapabilityRecord) (name : String) : Decidable (Revoked records name) :=
  inferInstanceAs (Decidable (∃ record ∈ records, _))

instance (returned : List Returned) (name : String) : Decidable (ReturnedRevoked returned name) :=
  inferInstanceAs (Decidable (∃ answer ∈ returned, _))

/-- No call returns a relay as active, or as eligible for a tier, that began after another
    had returned it as revoked. -/
def NeverUnseen (known : List KnownOperator) (returned : List Returned) : Prop :=
  ∀ op ∈ known, ∀ answer ∈ returned,
    ReturnedRevoked (returned.take answer.startedAfter) op.name →
    (∀ record ∈ answer.records, record.operator = op.name → record.status ≠ .active) ∧
    ∀ tier, ∀ record ∈ answer.records.filter (isEligible tier), record.operator ≠ op.name

/-- Nothing is unseen so far, nor by a call made now. -/
def Safe (client : Client) (known : List KnownOperator) (s : Discovery) : Prop :=
  NeverUnseen known s.returned ∧
    ∀ now s', step client known s (.call now) = some s' → NeverUnseen known s'.returned

/-- A call reads all records, one relay's status from a time when it was active, and
    another call has put that relay into the cache as revoked meanwhile. -/
def Overtaken (client : Client) (known : List KnownOperator) (s : Discovery) : Move → Prop
  | .settle k instants _ => ∃ refresh, s.refreshes[k]? = some refresh ∧
      (∀ op ∈ known, Readable client (refresh.reads (instants op)) op.name op.operationalKeyAddress) ∧
      ∃ op ∈ known, (∃ cache, s.cache = some cache ∧ Revoked cache.records op.name) ∧
        statusOf client (refresh.reads (instants op)) op.name = some .active
  | _ => False

/-! ### What a refresh that succeeds returns -/

section ReadAll

variable {client : Client} {known : List KnownOperator} {refresh : Refresh}
  {instants : KnownOperator → Instants} {records : List CapabilityRecord} {op : KnownOperator}
  {record : CapabilityRecord}

theorem exists_record (h : readAll client known refresh instants = .ok records) (hop : op ∈ known) :
    ∃ record ∈ records, readCapabilityRecord client (refresh.reads (instants op)) op.name
      op.operationalKeyAddress = .ok record := by
  have hmem := List.mem_map_of_mem (f := fun op => readCapabilityRecord client
    (refresh.reads (instants op)) op.name op.operationalKeyAddress) hop
  rw [promiseAll_eq_ok.mp h] at hmem
  exact (List.mem_map.mp hmem).imp fun record hrecord => ⟨hrecord.1, hrecord.2.symm⟩

theorem exists_operator (h : readAll client known refresh instants = .ok records)
    (hrecord : record ∈ records) :
    ∃ op ∈ known, readCapabilityRecord client (refresh.reads (instants op)) op.name
      op.operationalKeyAddress = .ok record := by
  have hmem : (Except.ok record : Except ReadError CapabilityRecord) ∈ records.map .ok :=
    List.mem_map_of_mem hrecord
  rw [← promiseAll_eq_ok.mp h] at hmem
  exact List.mem_map.mp hmem

theorem readAll_of_readable (h : ∀ op ∈ known,
    Readable client (refresh.reads (instants op)) op.name op.operationalKeyAddress) :
    ∃ records, readAll client known refresh instants = .ok records := by
  refine ⟨_, promiseAll_of_forall fun p hp => ?_⟩
  obtain ⟨op, hop, rfl⟩ := List.mem_map.mp hp
  rcases readCapabilityRecord_cases client (refresh.reads (instants op)) op.name
    op.operationalKeyAddress with ⟨-, record, hread, -⟩ | ⟨hnot, -⟩
  · exact ⟨record, hread⟩
  · exact absurd (h op hop) hnot

theorem readable_of_readAll (h : readAll client known refresh instants = .ok records)
    (hop : op ∈ known) :
    Readable client (refresh.reads (instants op)) op.name op.operationalKeyAddress := by
  obtain ⟨record, -, hread⟩ := exists_record h hop
  rcases readCapabilityRecord_cases client (refresh.reads (instants op)) op.name
    op.operationalKeyAddress with ⟨hreadable, -⟩ | ⟨-, error, herror⟩
  · exact hreadable
  · rw [herror] at hread
    cases hread

/-- Where the operators have different names, the records name each of them once, with the
    status that was read for it. -/
theorem status_of_mem (hknown : (known.map KnownOperator.name).Nodup)
    (h : readAll client known refresh instants = .ok records) (hop : op ∈ known)
    (hrecord : record ∈ records) (hname : record.operator = op.name) :
    statusOf client (refresh.reads (instants op)) op.name = some record.status := by
  obtain ⟨op', hop', hread⟩ := exists_operator h hrecord
  have hop'' : op' = op :=
    List.inj_on_of_nodup_map hknown hop' hop ((read_operator hread).symm.trans hname)
  rw [hop''] at hread
  exact read_status hread

theorem revoked_iff (hknown : (known.map KnownOperator.name).Nodup)
    (h : readAll client known refresh instants = .ok records) (hop : op ∈ known) :
    Revoked records op.name ↔
      statusOf client (refresh.reads (instants op)) op.name = some .revoked := by
  constructor
  · rintro ⟨record, hrecord, hname, hstatus⟩
    rw [status_of_mem hknown h hop hrecord hname, hstatus]
  · intro hstatus
    obtain ⟨record, hrecord, hread⟩ := exists_record h hop
    have hread' := (read_status hread).symm.trans hstatus
    exact ⟨record, hrecord, read_operator hread, Option.some.inj hread'⟩

/-- A status that is read is the status in a state that the call has lived through. -/
theorem statusOf_reads {status : RelayStatus} {instants : Instants} {name : String}
    (h : statusOf client (refresh.reads instants) name = some status) :
    ∃ t ∈ refresh.seen, statusOf client t.reads name = some status := by
  obtain ⟨data, hdata, hparse⟩ := Option.bind_eq_some_iff.mp h
  obtain ⟨i, -, hread⟩ := Option.bind_eq_some_iff.mp hdata
  obtain ⟨t, ht, rfl⟩ := Option.map_eq_some_iff.mp hread
  exact ⟨t, List.mem_of_getElem? ht, hparse⟩

end ReadAll

/-! ### One move -/

/-- What each move does, where it can happen. -/
inductive Stepped (client : Client) (known : List KnownOperator) (s : Discovery) :
    Move → Discovery → Prop
  | written (chain : Records) : Stepped client known s (.write chain) { s with
      chain := chain, refreshes := s.refreshes.map fun refresh => refresh.see chain }
  | served {now : ℕ} {fresh : Cache} (hcache : s.cache = some fresh) :
      Stepped client known s (.call now)
        { s with returned := s.returned ++ [⟨s.returned.length, fresh.records⟩] }
  | started (now : ℕ) : Stepped client known s (.call now)
      { s with refreshes := s.refreshes ++ [⟨s.returned.length, [s.chain]⟩] }
  | answered {k now : ℕ} {instants : KnownOperator → Instants} {refresh : Refresh}
      {records : List CapabilityRecord} (hrefresh : s.refreshes[k]? = some refresh)
      (hread : readAll client known refresh instants = .ok records) :
      Stepped client known s (.settle k instants now)
        { s with
          cache := some ⟨records, now + cacheTtlMs⟩
          refreshes := s.refreshes.eraseIdx k
          returned := s.returned ++ [⟨refresh.startedAfter, records⟩] }
  | failed {k now : ℕ} {instants : KnownOperator → Instants} :
      Stepped client known s (.settle k instants now) { s with refreshes := s.refreshes.eraseIdx k }

section Moves

variable {client : Client} {known : List KnownOperator} {s s' : Discovery} {m : Move}

theorem stepped (h : step client known s m = some s') : Stepped client known s m s' := by
  cases m with
  | write chain =>
    obtain rfl := Option.some.inj h
    exact .written chain
  | call now =>
    simp only [step] at h
    split at h
    · next fresh hfresh =>
      obtain rfl := Option.some.inj h
      exact .served (Option.filter_eq_some_iff.mp hfresh).1
    · obtain rfl := Option.some.inj h
      exact .started now
  | settle k instants now =>
    obtain ⟨refresh, hrefresh, h⟩ := Option.map_eq_some_iff.mp h
    split at h
    · next records hread =>
      subst h
      exact .answered hrefresh hread
    · subst h
      exact .failed

theorem OneWay.refl (t : Records) : OneWay client known t t := by
  intro _ _ h
  exact h

theorem OneWay.trans {t t' t'' : Records} (h : OneWay client known t t')
    (h' : OneWay client known t' t'') : OneWay client known t t'' := by
  intro op hop hrevoked
  exact h' op hop (h op hop hrevoked)

theorem returnedRevoked_concat {returned : List Returned} {answer : Returned} {name : String} :
    ReturnedRevoked (returned ++ [answer]) name ↔
      ReturnedRevoked returned name ∨ Revoked answer.records name := by
  simp only [ReturnedRevoked, List.mem_append, List.mem_singleton, or_and_right, exists_or,
    exists_eq_left]

theorem ReturnedRevoked.of_take {returned : List Returned} {n : ℕ} {name : String}
    (h : ReturnedRevoked (returned.take n) name) : ReturnedRevoked returned name :=
  h.imp fun _ hanswer => ⟨List.mem_of_mem_take hanswer.1, hanswer.2⟩

end Moves

/-! ### What the calls have seen -/

/-- What calls that wait have lived through, and what has been returned, is no later than
    the chain. -/
structure Past (client : Client) (known : List KnownOperator) (s : Discovery) : Prop where
  began : ∀ refresh ∈ s.refreshes, refresh.startedAfter ≤ s.returned.length
  counted : ∀ answer ∈ s.returned, answer.startedAfter ≤ s.returned.length
  lived : ∀ refresh ∈ s.refreshes, ∀ t ∈ refresh.seen, OneWay client known t s.chain
  warned : ∀ refresh ∈ s.refreshes, ∀ op ∈ known,
    ReturnedRevoked (s.returned.take refresh.startedAfter) op.name →
    ∀ t ∈ refresh.seen, statusOf client t.reads op.name = some .revoked
  onChain : ∀ op ∈ known, ReturnedRevoked s.returned op.name →
    statusOf client s.chain.reads op.name = some .revoked

/-- The cache is what some call has returned, and says one thing of each relay. -/
structure Consistent (known : List KnownOperator) (s : Discovery) : Prop where
  returned : ∀ cache, s.cache = some cache → ∃ answer ∈ s.returned, answer.records = cache.records
  agrees : ∀ cache, s.cache = some cache → ∀ op ∈ known, Revoked cache.records op.name →
    ∀ record ∈ cache.records, record.operator = op.name → record.status = .revoked

section Preserved

variable {client : Client} {known : List KnownOperator} {s s' : Discovery} {m : Move}

theorem Past.start (chain : Records) : Past client known (start chain) where
  began := by simp [Discovery.start]
  counted := by simp [Discovery.start]
  lived := by simp [Discovery.start]
  warned := by simp [Discovery.start]
  onChain op _ h := by
    obtain ⟨answer, hanswer, -⟩ := h
    cases hanswer

theorem Past.write (h : Past client known s) {chain : Records}
    (hchain : OneWay client known s.chain chain) :
    Past client known { s with
      chain := chain, refreshes := s.refreshes.map fun refresh => refresh.see chain } where
  began := by
    intro refresh hrefresh
    obtain ⟨refresh, hmem, rfl⟩ := List.mem_map.mp hrefresh
    exact h.began refresh hmem
  counted := h.counted
  lived := by
    intro refresh hrefresh t ht
    obtain ⟨refresh, hmem, rfl⟩ := List.mem_map.mp hrefresh
    rcases List.mem_append.mp ht with ht | ht
    · exact (h.lived refresh hmem t ht).trans hchain
    · rw [List.mem_singleton.mp ht]
      exact OneWay.refl chain
  warned := by
    intro refresh hrefresh op hop hrevoked t ht
    obtain ⟨refresh, hmem, rfl⟩ := List.mem_map.mp hrefresh
    rcases List.mem_append.mp ht with ht | ht
    · exact h.warned refresh hmem op hop hrevoked t ht
    · rw [List.mem_singleton.mp ht]
      exact hchain op hop (h.onChain op hop hrevoked.of_take)
  onChain op hop hrevoked := hchain op hop (h.onChain op hop hrevoked)

theorem Past.startRefresh (h : Past client known s) :
    Past client known { s with refreshes := s.refreshes ++ [⟨s.returned.length, [s.chain]⟩] } where
  began := by
    intro refresh hrefresh
    rcases List.mem_append.mp hrefresh with hrefresh | hrefresh
    · exact h.began refresh hrefresh
    · rw [List.mem_singleton.mp hrefresh]
  counted := h.counted
  lived := by
    intro refresh hrefresh t ht
    rcases List.mem_append.mp hrefresh with hrefresh | hrefresh
    · exact h.lived refresh hrefresh t ht
    · rw [List.mem_singleton.mp hrefresh] at ht
      rw [List.mem_singleton.mp ht]
      exact OneWay.refl s.chain
  warned := by
    intro refresh hrefresh op hop hrevoked t ht
    rcases List.mem_append.mp hrefresh with hrefresh | hrefresh
    · exact h.warned refresh hrefresh op hop hrevoked t ht
    · rw [List.mem_singleton.mp hrefresh] at ht hrevoked
      rw [List.mem_singleton.mp ht]
      exact h.onChain op hop hrevoked.of_take
  onChain := h.onChain

theorem Past.drop (h : Past client known s) (k : ℕ) :
    Past client known { s with refreshes := s.refreshes.eraseIdx k } where
  began refresh hrefresh := h.began refresh (List.mem_of_mem_eraseIdx hrefresh)
  counted := h.counted
  lived refresh hrefresh := h.lived refresh (List.mem_of_mem_eraseIdx hrefresh)
  warned refresh hrefresh := h.warned refresh (List.mem_of_mem_eraseIdx hrefresh)
  onChain := h.onChain

/-- A call may return only what the chain has come to by now. -/
theorem Past.answer (h : Past client known s) (cache : Option Cache) {answer : Returned}
    (hbegan : answer.startedAfter ≤ s.returned.length)
    (hrevoked : ∀ op ∈ known, Revoked answer.records op.name →
      statusOf client s.chain.reads op.name = some .revoked) :
    Past client known { s with cache := cache, returned := s.returned ++ [answer] } where
  began := by
    intro refresh hrefresh
    have := h.began refresh hrefresh
    simp only [List.length_append, List.length_singleton]
    omega
  counted := by
    intro answer' hanswer'
    simp only [List.length_append, List.length_singleton]
    rcases List.mem_append.mp hanswer' with hanswer' | hanswer'
    · have := h.counted answer' hanswer'
      omega
    · rw [List.mem_singleton.mp hanswer']
      omega
  lived := h.lived
  warned := by
    intro refresh hrefresh op hop hreturned
    rw [List.take_append_of_le_length (h.began refresh hrefresh)] at hreturned
    exact h.warned refresh hrefresh op hop hreturned
  onChain := by
    intro op hop hreturned
    rcases returnedRevoked_concat.mp hreturned with hreturned | hanswer
    · exact h.onChain op hop hreturned
    · exact hrevoked op hop hanswer

theorem Past.revoked_of_read (h : Past client known s) {refresh : Refresh}
    (hrefresh : refresh ∈ s.refreshes) {instants : Instants} {op : KnownOperator} (hop : op ∈ known)
    (hstatus : statusOf client (refresh.reads instants) op.name = some .revoked) :
    statusOf client s.chain.reads op.name = some .revoked := by
  obtain ⟨t, ht, hrevoked⟩ := statusOf_reads hstatus
  exact h.lived refresh hrefresh t ht op hop hrevoked

theorem Past.step (hknown : (known.map KnownOperator.name).Nodup) (h : Past client known s)
    (hc : Consistent known s) (hm : OneWayMove client known s m) (hstep : Stepped client known s m s') :
    Past client known s' := by
  cases hstep with
  | written chain => exact h.write hm
  | served hcache =>
    refine h.answer s.cache (Nat.le_refl _) fun op hop hrevoked => h.onChain op hop ?_
    obtain ⟨answer, hanswer, hrecords⟩ := hc.returned _ hcache
    exact ⟨answer, hanswer, hrecords ▸ hrevoked⟩
  | started now => exact h.startRefresh
  | answered hrefresh hread =>
    have hmem := List.mem_of_getElem? hrefresh
    refine (h.answer _ (h.began _ hmem) ?_).drop _
    intro op hop hrevoked
    exact h.revoked_of_read hmem hop ((revoked_iff hknown hread hop).mp hrevoked)
  | failed => exact h.drop _

theorem Consistent.step (hknown : (known.map KnownOperator.name).Nodup) (h : Consistent known s)
    (hstep : Stepped client known s m s') : Consistent known s' := by
  cases hstep with
  | written chain => exact ⟨h.returned, h.agrees⟩
  | served hcache =>
    refine ⟨?_, h.agrees⟩
    intro cache hcache'
    obtain ⟨answer, hanswer, hrecords⟩ := h.returned cache hcache'
    exact ⟨answer, List.mem_append_left _ hanswer, hrecords⟩
  | started now => exact ⟨h.returned, h.agrees⟩
  | failed => exact ⟨h.returned, h.agrees⟩
  | answered hrefresh hread =>
    refine ⟨?_, ?_⟩
    · intro cache hcache
      obtain rfl := Option.some.inj hcache
      exact ⟨_, List.mem_append_right _ (List.mem_singleton_self _), rfl⟩
    · intro cache hcache op hop hrevoked record hrecord hname
      obtain rfl := Option.some.inj hcache
      have hstatus := (revoked_iff hknown hread hop).mp hrevoked
      have hstatus' := status_of_mem hknown hread hop hrecord hname
      exact Option.some.inj (hstatus'.symm.trans hstatus)

end Preserved

/-! ### What nobody may overtake -/

/-- Every relay that was ever returned as revoked is revoked in the cache. -/
structure Remembered (known : List KnownOperator) (s : Discovery) : Prop where
  cached : ∀ op ∈ known, ReturnedRevoked s.returned op.name →
    ∃ cache, s.cache = some cache ∧ Revoked cache.records op.name
  neverUnseen : NeverUnseen known s.returned

section Remembered

variable {client : Client} {known : List KnownOperator} {s s' : Discovery} {m : Move}

theorem not_eligible {records : List CapabilityRecord} {name : String}
    (h : ∀ record ∈ records, record.operator = name → record.status ≠ .active) (tier : Tier) :
    ∀ record ∈ records.filter (isEligible tier), record.operator ≠ name := by
  intro record hrecord hname
  obtain ⟨hmem, heligible⟩ := List.mem_filter.mp hrecord
  simp only [isEligible, Bool.and_eq_true, decide_eq_true_eq] at heligible
  exact h record hmem hname heligible.1

theorem NeverUnseen.concat {answer : Returned} (h : NeverUnseen known s.returned)
    (hpast : Past client known s) (hbegan : answer.startedAfter ≤ s.returned.length)
    (hanswer : ∀ op ∈ known, ReturnedRevoked (s.returned.take answer.startedAfter) op.name →
      ∀ record ∈ answer.records, record.operator = op.name → record.status ≠ .active) :
    NeverUnseen known (s.returned ++ [answer]) := by
  intro op hop answer' hanswer' hrevoked
  rcases List.mem_append.mp hanswer' with hold | hnew
  · rw [List.take_append_of_le_length (hpast.counted answer' hold)] at hrevoked
    exact h op hop answer' hold hrevoked
  · rw [List.mem_singleton.mp hnew] at hrevoked ⊢
    rw [List.take_append_of_le_length hbegan] at hrevoked
    have hactive := hanswer op hop hrevoked
    exact ⟨hactive, not_eligible hactive⟩

theorem Remembered.served (h : Remembered known s) (hpast : Past client known s)
    (hc : Consistent known s) {fresh : Cache} (hcache : s.cache = some fresh) :
    Remembered known { s with returned := s.returned ++ [⟨s.returned.length, fresh.records⟩] } where
  cached op hop hreturned := by
    rcases returnedRevoked_concat.mp hreturned with hreturned | hrevoked
    · exact h.cached op hop hreturned
    · exact ⟨fresh, hcache, hrevoked⟩
  neverUnseen := by
    apply h.neverUnseen.concat hpast (Nat.le_refl _)
    intro op hop hreturned record hrecord hname
    obtain ⟨cache, hcache', hrevoked⟩ := h.cached op hop hreturned.of_take
    obtain rfl := Option.some.inj (hcache.symm.trans hcache')
    rw [hc.agrees fresh hcache op hop hrevoked record hrecord hname]
    nofun

/-- A refresh that was not overtaken leaves every relay revoked that was. -/
theorem Remembered.answered (hknown : (known.map KnownOperator.name).Nodup) (h : Remembered known s)
    (hpast : Past client known s) {k now : ℕ} {instants : KnownOperator → Instants}
    (hover : ¬ Overtaken client known s (.settle k instants now)) {refresh : Refresh}
    {records : List CapabilityRecord} (hrefresh : s.refreshes[k]? = some refresh)
    (hread : readAll client known refresh instants = .ok records) :
    Remembered known { s with
      cache := some ⟨records, now + cacheTtlMs⟩
      refreshes := s.refreshes.eraseIdx k
      returned := s.returned ++ [⟨refresh.startedAfter, records⟩] } where
  cached := by
    intro op hop hreturned
    refine ⟨_, rfl, ?_⟩
    rcases returnedRevoked_concat.mp hreturned with hold | hnew
    · have hcached := h.cached op hop hold
      obtain ⟨record, hrecord, hrecordRead⟩ := exists_record hread hop
      have hstatus := read_status hrecordRead
      cases hrevoked : record.status with
      | revoked => exact ⟨record, hrecord, read_operator hrecordRead, hrevoked⟩
      | active =>
        rw [hrevoked] at hstatus
        exact absurd ⟨refresh, hrefresh, fun op' hop' => readable_of_readAll hread hop', op, hop,
          hcached, hstatus⟩ hover
    · exact hnew
  neverUnseen := by
    have hmem := List.mem_of_getElem? hrefresh
    apply h.neverUnseen.concat hpast (hpast.began refresh hmem)
    intro op hop hreturned record hrecord hname hactive
    have hstatus := status_of_mem hknown hread hop hrecord hname
    obtain ⟨t, ht, hread'⟩ := statusOf_reads hstatus
    rw [hpast.warned refresh hmem op hop hreturned t ht, hactive] at hread'
    cases hread'

theorem Remembered.step (hknown : (known.map KnownOperator.name).Nodup) (h : Remembered known s)
    (hpast : Past client known s) (hc : Consistent known s) (hover : ¬ Overtaken client known s m)
    (hstep : Stepped client known s m s') : Remembered known s' := by
  cases hstep with
  | written chain => exact ⟨h.cached, h.neverUnseen⟩
  | served hcache => exact h.served hpast hc hcache
  | started now => exact ⟨h.cached, h.neverUnseen⟩
  | answered hrefresh hread => exact h.answered hknown hpast hover hrefresh hread
  | failed => exact ⟨h.cached, h.neverUnseen⟩

theorem Remembered.safe (hknown : (known.map KnownOperator.name).Nodup) (h : Remembered known s)
    (hpast : Past client known s) (hc : Consistent known s) : Safe client known s :=
  ⟨h.neverUnseen, fun _ _ hstep => (h.step hknown hpast hc id (stepped hstep)).neverUnseen⟩

/-- After a refresh that was overtaken the next call returns the relay as active again. -/
theorem not_safe_of_overtaken (hc : Consistent known s) (hover : Overtaken client known s m) :
    ∃ s', step client known s m = some s' ∧ ¬ Safe client known s' := by
  rcases m with chain | now | ⟨k, instants, now⟩
  · exact hover.elim
  · exact hover.elim
  obtain ⟨refresh, hrefresh, hreadable, op, hop, ⟨cache, hcache, hrevoked⟩, hactive⟩ := hover
  obtain ⟨records, hread⟩ := readAll_of_readable hreadable
  obtain ⟨answer, hanswer, hrecords⟩ := hc.returned cache hcache
  obtain ⟨record, hrecord, hrecordRead⟩ := exists_record hread hop
  have hstatus := Option.some.inj ((read_status hrecordRead).symm.trans hactive)
  let returned := s.returned ++ [⟨refresh.startedAfter, records⟩]
  refine ⟨⟨s.chain, some ⟨records, now + cacheTtlMs⟩, s.refreshes.eraseIdx k, returned⟩, ?_, ?_⟩
  · simp only [step, hrefresh, Option.map_some, hread, returned]
  · rintro ⟨-, hcall⟩
    have hfresh : (some (⟨records, now + cacheTtlMs⟩ : Cache)).filter
        (fun cache => cache.expiresAt > now) = some ⟨records, now + cacheTtlMs⟩ := by
      simp [Option.filter, cacheTtlMs]
    have hserved := hcall now _ (by simp only [step, hfresh]; rfl) op hop ⟨returned.length, records⟩
      (List.mem_append_right _ (List.mem_singleton_self _))
    refine (hserved ?_).1 record hrecord (read_operator hrecordRead) hstatus
    refine ⟨answer, ?_, hrecords ▸ hrevoked⟩
    rw [List.take_left']
    · exact List.mem_append_left _ hanswer
    · rfl

end Remembered

/-! ### A call on its own -/

section Alone

variable {client : Client} {known : List KnownOperator} {s : Discovery} {now : ℕ}

/-- All reads return the state in which the call began. -/
def Instants.first : Instants := ⟨fun _ => some 0, fun _ => some 0⟩

theorem call_of_fresh {fresh : Cache}
    (h : s.cache.filter (fun cache => cache.expiresAt > now) = some fresh) (later : ℕ) :
    ∃ s', step client known s (.call now) = some s' ∧
      listOperators client known s.chain.reads now later s.cache = (.ok fresh.records, s'.cache) ∧
      s'.returned = s.returned ++ [⟨s.returned.length, fresh.records⟩] := by
  simp only [step, h]
  exact ⟨_, rfl, listOperators_of_fresh h, rfl⟩

/-- Undisturbed, a call that refreshes the cache does what `listOperators` does. -/
theorem call_settle_of_stale (h : s.cache.filter (fun cache => cache.expiresAt > now) = none)
    (hwaits : s.refreshes = []) (later : ℕ) :
    ∃ s', run (step client known) s [.call now, .settle 0 (fun _ => Instants.first) later] = some s' ∧
      s'.cache = (listOperators client known s.chain.reads now later s.cache).2 ∧
      s'.returned = s.returned ++
        (listOperators client known s.chain.reads now later s.cache).1.toOption.toList.map
          (Returned.mk s.returned.length) := by
  have hcall : step client known s (.call now) =
      some { s with refreshes := [⟨s.returned.length, [s.chain]⟩] } := by
    simp only [step, h, hwaits, List.nil_append]
  have hread : readAll client known ⟨s.returned.length, [s.chain]⟩ (fun _ => Instants.first) =
      promiseAll (known.map fun op =>
        readCapabilityRecord client s.chain.reads op.name op.operationalKeyAddress) := rfl
  simp only [listOperators, h]
  rw [← hread]
  rcases hsettled : readAll client known ⟨s.returned.length, [s.chain]⟩ (fun _ => Instants.first)
    with errors | records
  · have hsettle : step client known { s with refreshes := [⟨s.returned.length, [s.chain]⟩] }
        (.settle 0 (fun _ => Instants.first) later) = some { s with refreshes := [] } := by
      simp only [step, List.getElem?_cons_zero, Option.map_some, hsettled, List.eraseIdx_cons_zero]
    exact ⟨_, run_cons.mpr ⟨_, hcall, run_cons.mpr ⟨_, hsettle, rfl⟩⟩, rfl, (List.append_nil _).symm⟩
  · have hsettle : step client known { s with refreshes := [⟨s.returned.length, [s.chain]⟩] }
        (.settle 0 (fun _ => Instants.first) later) = some ⟨s.chain, some ⟨records, later + cacheTtlMs⟩,
          [], s.returned ++ [⟨s.returned.length, records⟩]⟩ := by
      simp only [step, List.getElem?_cons_zero, Option.map_some, hsettled, List.eraseIdx_cons_zero]
    exact ⟨_, run_cons.mpr ⟨_, hcall, run_cons.mpr ⟨_, hsettle, rfl⟩⟩, rfl, rfl⟩

end Alone

/-- **When a revocation stays seen.**  For every interleaving of calls over a chain on which
    a relay's status only goes from active to revoked: at every point so far nothing is
    unseen, nor by a call made next, exactly where no refresh was overtaken. -/
theorem never_unseen_iff (client : Client) {known : List KnownOperator}
    (hknown : (known.map KnownOperator.name).Nodup) (chain : Records) {ms : List Move}
    (honeWay : AllMoves (step client known) (OneWayMove client known) (start chain) ms) :
    (∀ ms₁ ms₂ s, ms = ms₁ ++ ms₂ → run (step client known) (start chain) ms₁ = some s →
      Safe client known s) ↔
    AllMoves (step client known) (fun s m => ¬ Overtaken client known s m) (start chain) ms := by
  refine always_iff (I := fun s => Past client known s ∧ Consistent known s) (J := Remembered known)
    ?_ ?_ ?_ ?_ honeWay ?_ ?_
  · intro s m s' hI hm hstep
    exact ⟨hI.1.step hknown hI.2 hm (stepped hstep), hI.2.step hknown (stepped hstep)⟩
  · intro s m s' hI hJ _ hover hstep
    exact hJ.step hknown hI.1 hI.2 hover (stepped hstep)
  · intro s hI hJ
    exact hJ.safe hknown hI.1 hI.2
  · intro s m hI _ _ hover
    exact not_safe_of_overtaken hI.2 (not_not.mp hover)
  · exact ⟨Past.start chain, by constructor <;> nofun⟩
  · exact ⟨fun _ _ => nofun, fun _ _ => nofun⟩

/-! ### A slow call and a fast one -/

section Sample

/-- All operators are registered, and bob's status is as given. -/
def Sample.chain (bob : RelayStatus) : Records where
  text _ key :=
    match key with
    | .endpoint => "https://relay.example"
    | .tiersSupported => "[\"lite\"]"
  data node key :=
    match key with
    | .attestationBuildHash => [1]
    | .payoutAddress => (addressWord 0x8d5e3f2b1bb5c9c0d3a4fd8ab6abb6b4bd3f5e11).toBytes
    | .status =>
        if node = Sample.namehash "bob.dvod-test.eth" then Utf8.encode bob.name.toList
        else statusActive
  maySetText _ _ _ := false
  maySetData _ _ _ := false

/-- The first call reads bob as active, he is revoked, and a second call, which reads that,
    is answered before the first.  Then a third call is made. -/
def Sample.slowRead : List Move :=
  [.call 0, .write (Sample.chain .revoked), .call 1,
    .settle 1 (fun _ => Instants.first) 2, .settle 0 (fun _ => Instants.first) 3, .call 4]

theorem Sample.slowRead_oneWay : AllMoves (step Sample.client knownOperators)
    (OneWayMove Sample.client knownOperators) (start (Sample.chain .active)) Sample.slowRead := by
  refine ⟨trivial, ?_⟩
  intro s hs
  obtain rfl := Option.some.inj hs
  have hwrite : OneWay Sample.client knownOperators (Sample.chain .active) (Sample.chain .revoked) := by
    unfold OneWay
    decide +kernel
  exact ⟨hwrite, fun s' _ => allMoves_of_mem (by simp [OneWayMove])⟩

theorem never_unseen_iff_slowRead :
    (∀ ms₁ ms₂ s, Sample.slowRead = ms₁ ++ ms₂ →
      run (step Sample.client knownOperators) (start (Sample.chain .active)) ms₁ = some s →
      Safe Sample.client knownOperators s) ↔
    AllMoves (step Sample.client knownOperators)
      (fun s m => ¬ Overtaken Sample.client knownOperators s m) (start (Sample.chain .active))
      Sample.slowRead :=
  never_unseen_iff Sample.client (by decide) (Sample.chain .active) Sample.slowRead_oneWay

/-- The third call returns bob as active, after the second has returned him as revoked. -/
theorem revocation_unseen :
    ¬ ∀ (client : Client) (known : List KnownOperator) (chain : Records) (ms : List Move)
        (s : Discovery), (known.map KnownOperator.name).Nodup →
      AllMoves (step client known) (OneWayMove client known) (start chain) ms →
      run (step client known) (start chain) ms = some s → NeverUnseen known s.returned := by
  intro hall
  obtain ⟨s, hrun, op, hop, answer, hanswer, hrevoked, record, hrecord, hname, hactive⟩ : ∃ s,
      run (step Sample.client knownOperators) (start (Sample.chain .active)) Sample.slowRead = some s ∧
      ∃ op ∈ knownOperators, ∃ answer ∈ s.returned,
        ReturnedRevoked (s.returned.take answer.startedAfter) op.name ∧
          ∃ record ∈ answer.records, record.operator = op.name ∧ record.status = .active :=
    exists_run (by decide +kernel)
  have hsafe := hall _ _ _ _ s (by decide) Sample.slowRead_oneWay hrun
  exact (hsafe op hop answer hanswer hrevoked).1 record hrecord hname hactive

end Sample

end Discovery

end DVoD.Orchestrator
