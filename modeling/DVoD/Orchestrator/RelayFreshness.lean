import DVoD.Log.Timeline
import DVoD.Orchestrator.RelayCache

/-!
# How old an answer can be

The calls of `listOperators` once more, with the time at which everything happens.  However
the refreshes overlap, an answer is made of states in which the chain was at most a
cache lifetime and the time of the reads before (`answers_recent`), so that a relay that has
not been active for longer, revoked for one, is offered to nobody (`revoked_not_offered`).
-/

namespace DVoD.Orchestrator

open DVoD.Machine DVoD.Ens DVoD.Log DVoD.Session

namespace Discovery

/-! ### Calls on a clock -/

/-- A move and its time. -/
inductive Event where
  | write (time : ℕ) (chain : Records)
  | call (time : ℕ)
  | settle (time k : ℕ) (instants : KnownOperator → Instants)

def Event.time : Event → ℕ
  | .write time _ => time
  | .call time => time
  | .settle time _ _ => time

def Event.move : Event → Move
  | .write _ chain => .write chain
  | .call time => .call time
  | .settle time k instants => .settle k instants time

/-- All but the first two fields are history variables: the states of the chain with the
    times since which they have been there, when each of the calls that wait began, and what
    was returned at which time. -/
structure Clocked where
  discovery : Discovery
  now : ℕ
  chains : List (ℕ × Records)
  began : List ℕ
  answers : List (ℕ × List CapabilityRecord)

namespace Clocked

def start (chain : Records) : Clocked := ⟨Discovery.start chain, 0, [(0, chain)], [], []⟩

/-- The calls that wait, by when they began, after an event that leaves `waiting` of them. -/
def beganAfter (began : List ℕ) (waiting : ℕ) : Event → List ℕ
  | .write _ _ => began
  | .call time => if began.length < waiting then began ++ [time] else began
  | .settle _ k _ => began.eraseIdx k

/-- The clock does not go back. -/
def step (client : Client) (known : List KnownOperator) (s : Clocked) (e : Event) : Option Clocked :=
  if e.time < s.now then none
  else (s.discovery.step client known e.move).map fun discovery =>
    { discovery := discovery
      now := e.time
      chains := match e with
        | .write time chain => s.chains ++ [(time, chain)]
        | _ => s.chains
      began := beganAfter s.began discovery.refreshes.length e
      answers := s.answers ++ (discovery.returned.drop s.discovery.returned.length).map fun answer =>
        (e.time, answer.records) }

/-- The reads of a call are over within the time. -/
def Prompt (duration : ℕ) (s : Clocked) : Event → Prop
  | .settle time k _ => ∀ began ∈ s.began[k]?, time ≤ began + duration
  | _ => True

instance (duration : ℕ) (s : Clocked) : (e : Event) → Decidable (Prompt duration s e)
  | .write _ _ => inferInstanceAs (Decidable True)
  | .call _ => inferInstanceAs (Decidable True)
  | .settle time k _ => inferInstanceAs (Decidable (∀ began ∈ s.began[k]?, time ≤ began + duration))

/-- The records were read from states in which the chain was between `a` and `b`. -/
def ReadFrom (client : Client) (known : List KnownOperator) (chains : List (ℕ × Records)) (a b : ℕ)
    (records : List CapabilityRecord) : Prop :=
  ∃ (refresh : Refresh) (instants : KnownOperator → Instants),
    readAll client known refresh instants = .ok records ∧ ∀ t ∈ refresh.seen, Held chains a b t

/-- What waits, what is cached and what was returned, with the times of it. -/
structure Recent (client : Client) (known : List KnownOperator) (duration : ℕ) (s : Clocked) : Prop where
  current : ∃ before since, s.chains = before ++ [(since, s.discovery.chain)]
  passed : ∀ p ∈ s.chains, p.1 ≤ s.now
  sorted : (s.chains.map Prod.fst).Pairwise (· ≤ ·)
  counted : s.began.length = s.discovery.refreshes.length
  began : ∀ a ∈ s.began, a ≤ s.now
  waiting : ∀ (k : ℕ) (refresh : Refresh) (a : ℕ), s.discovery.refreshes[k]? = some refresh → s.began[k]? = some a →
    ∀ t ∈ refresh.seen, Held s.chains a s.now t
  cached : ∀ cache, s.discovery.cache = some cache → ∃ a b, ReadFrom client known s.chains a b cache.records ∧
    b ≤ s.now ∧ b ≤ a + duration ∧ cache.expiresAt = b + cacheTtlMs
  answered : ∀ answer ∈ s.answers, answer.1 ≤ s.now ∧
    ReadFrom client known s.chains (answer.1 - (cacheTtlMs + duration)) answer.1 answer.2

/-! ### What an event keeps -/

section Events

variable {client : Client} {known : List KnownOperator} {duration time a b a' b' : ℕ} {s : Clocked}
  {chains : List (ℕ × Records)} {records : List CapabilityRecord} {chain : Records}

theorem ReadFrom.mono (h : ReadFrom client known chains a b records) (ha : a' ≤ a) (hb : b ≤ b') :
    ReadFrom client known chains a' b' records := by
  obtain ⟨refresh, instants, hread, hheld⟩ := h
  exact ⟨refresh, instants, hread, fun t ht => (hheld t ht).mono ha hb⟩

theorem ReadFrom.concat (h : ReadFrom client known chains a b records) (htime : a ≤ time) :
    ReadFrom client known (chains ++ [(time, chain)]) a b records := by
  obtain ⟨refresh, instants, hread, hheld⟩ := h
  exact ⟨refresh, instants, hread, fun t ht => (hheld t ht).concat htime⟩

theorem Recent.start (chain : Records) : Recent client known duration (start chain) where
  current := ⟨[], 0, rfl⟩
  passed := by simp [Clocked.start]
  sorted := by simp [Clocked.start]
  counted := rfl
  began := by simp [Clocked.start]
  waiting := by simp [Clocked.start, Discovery.start]
  cached := by simp [Clocked.start, Discovery.start]
  answered := by simp [Clocked.start]

theorem Recent.write (h : Recent client known duration s) (htime : s.now ≤ time) (chain : Records) :
    Recent client known duration
      { discovery := { s.discovery with
          chain := chain, refreshes := s.discovery.refreshes.map fun refresh => refresh.see chain }
        now := time, chains := s.chains ++ [(time, chain)], began := s.began, answers := s.answers } where
  current := ⟨s.chains, time, rfl⟩
  passed := by
    intro p hp
    rcases List.mem_append.mp hp with hp | hp
    · exact Nat.le_trans (h.passed p hp) htime
    · rw [List.mem_singleton.mp hp]
  sorted := by
    rw [List.map_append, List.pairwise_append]
    refine ⟨h.sorted, List.pairwise_singleton _ _, ?_⟩
    intro since hsince time' htime'
    obtain ⟨p, hp, rfl⟩ := List.mem_map.mp hsince
    rw [List.mem_singleton.mp htime']
    exact Nat.le_trans (h.passed p hp) htime
  counted := by rw [List.length_map, h.counted]
  began a ha := Nat.le_trans (h.began a ha) htime
  waiting := by
    intro k refresh a hrefresh ha t ht
    rw [List.getElem?_map] at hrefresh
    obtain ⟨refresh, hwaits, rfl⟩ := Option.map_eq_some_iff.mp hrefresh
    have hbegan := h.began a (List.mem_of_getElem? ha)
    rcases List.mem_append.mp ht with ht | ht
    · exact ((h.waiting k refresh a hwaits ha t ht).concat (hbegan.trans htime)).mono le_rfl htime
    · rw [List.mem_singleton.mp ht]
      exact held_concat le_rfl
  cached := by
    intro cache hcache
    obtain ⟨a, b, hread, hb, hduration, hexpires⟩ := h.cached cache hcache
    obtain ⟨refresh, instants, hall, hheld⟩ := hread
    refine ⟨min a b, b, ⟨refresh, instants, hall, ?_⟩, hb.trans htime, by omega, hexpires⟩
    intro t ht
    exact ((hheld t ht).mono (min_le_left a b) le_rfl).concat
      ((min_le_right a b).trans (hb.trans htime))
  answered := by
    intro answer hanswer
    obtain ⟨hle, hread⟩ := h.answered answer hanswer
    exact ⟨hle.trans htime, hread.concat ((Nat.sub_le _ _).trans (hle.trans htime))⟩

/-- What was known at `s.now` is known later, if nothing happens. -/
theorem Recent.wait (h : Recent client known duration s) (htime : s.now ≤ time) :
    Recent client known duration { s with now := time } where
  current := h.current
  passed p hp := (h.passed p hp).trans htime
  sorted := h.sorted
  counted := h.counted
  began a ha := (h.began a ha).trans htime
  waiting k refresh a hrefresh ha t ht := (h.waiting k refresh a hrefresh ha t ht).mono le_rfl htime
  cached cache hcache := by
    obtain ⟨a, b, hread, hb, hrest⟩ := h.cached cache hcache
    exact ⟨a, b, hread, hb.trans htime, hrest⟩
  answered answer hanswer := (h.answered answer hanswer).imp_left fun hle => hle.trans htime

theorem Recent.serve (h : Recent client known duration s) {fresh : Cache}
    (hcache : s.discovery.cache = some fresh) (hfresh : s.now < fresh.expiresAt) (answer : Returned) :
    Recent client known duration
      { s with
        discovery := { s.discovery with returned := s.discovery.returned ++ [answer] }
        answers := s.answers ++ [(s.now, fresh.records)] } where
  current := h.current
  passed := h.passed
  sorted := h.sorted
  counted := h.counted
  began := h.began
  waiting := h.waiting
  cached := h.cached
  answered := by
    intro answer hanswer
    rcases List.mem_append.mp hanswer with hanswer | hanswer
    · exact h.answered answer hanswer
    · rw [List.mem_singleton.mp hanswer]
      obtain ⟨a, b, hread, hb, hduration, hexpires⟩ := h.cached fresh hcache
      refine ⟨le_rfl, hread.mono ?_ hb⟩
      change s.now - (cacheTtlMs + duration) ≤ a
      omega

theorem Recent.startRefresh (h : Recent client known duration s) (startedAfter : ℕ) :
    Recent client known duration
      { s with
        discovery := { s.discovery with
          refreshes := s.discovery.refreshes ++ [⟨startedAfter, [s.discovery.chain]⟩] }
        began := s.began ++ [s.now] } where
  current := h.current
  passed := h.passed
  sorted := h.sorted
  counted := by simp only [List.length_append, List.length_singleton, h.counted]
  began := by
    intro a ha
    rcases List.mem_append.mp ha with ha | ha
    · exact h.began a ha
    · rw [List.mem_singleton.mp ha]
  waiting := by
    intro k refresh a hrefresh ha t ht
    by_cases hk : k < s.discovery.refreshes.length
    · rw [List.getElem?_append_left hk] at hrefresh
      rw [List.getElem?_append_left (h.counted ▸ hk)] at ha
      exact h.waiting k refresh a hrefresh ha t ht
    · rw [List.getElem?_append_right (not_lt.mp hk)] at hrefresh
      obtain rfl := List.mem_singleton.mp (List.mem_of_getElem? hrefresh)
      rw [List.mem_singleton.mp ht]
      obtain ⟨before, since, hchains⟩ := h.current
      have hpassed := h.passed (since, s.discovery.chain) (by simp [hchains])
      change Held s.chains a s.now s.discovery.chain
      rw [hchains]
      exact held_concat hpassed
  cached := h.cached
  answered := h.answered

theorem Recent.drop (h : Recent client known duration s) (k : ℕ) :
    Recent client known duration
      { s with
        discovery := { s.discovery with refreshes := s.discovery.refreshes.eraseIdx k }
        began := s.began.eraseIdx k } where
  current := h.current
  passed := h.passed
  sorted := h.sorted
  counted := by simp only [List.length_eraseIdx, h.counted]
  began a ha := h.began a (List.mem_of_mem_eraseIdx ha)
  waiting := by
    intro j refresh a hrefresh ha t ht
    simp only [List.getElem?_eraseIdx] at hrefresh ha
    by_cases hj : j < k
    · rw [if_pos hj] at hrefresh ha
      exact h.waiting j refresh a hrefresh ha t ht
    · rw [if_neg hj] at hrefresh ha
      exact h.waiting (j + 1) refresh a hrefresh ha t ht
  cached := h.cached
  answered := h.answered

theorem Recent.answer (h : Recent client known duration s) {k : ℕ}
    {instants : KnownOperator → Instants} {refresh : Refresh}
    (hrefresh : s.discovery.refreshes[k]? = some refresh)
    (hread : readAll client known refresh instants = .ok records)
    (hprompt : ∀ began ∈ s.began[k]?, s.now ≤ began + duration) :
    Recent client known duration
      { s with
        discovery := ⟨s.discovery.chain, some ⟨records, s.now + cacheTtlMs⟩,
          s.discovery.refreshes.eraseIdx k, s.discovery.returned ++ [⟨refresh.startedAfter, records⟩]⟩
        began := s.began.eraseIdx k
        answers := s.answers ++ [(s.now, records)] } := by
  have hk : k < s.began.length := by
    rw [h.counted]
    exact (List.getElem?_eq_some_iff.mp hrefresh).1
  have hbegan := List.getElem?_eq_getElem hk
  have hfrom : ReadFrom client known s.chains s.began[k] s.now records :=
    ⟨refresh, instants, hread, h.waiting k refresh _ hrefresh hbegan⟩
  have hduration := hprompt _ hbegan
  have hdrop := h.drop k
  refine ⟨hdrop.current, hdrop.passed, hdrop.sorted, hdrop.counted, hdrop.began, hdrop.waiting, ?_, ?_⟩
  · intro cache hcache
    obtain rfl := Option.some.inj hcache
    exact ⟨s.began[k], s.now, hfrom, le_rfl, hduration, rfl⟩
  · intro answer hanswer
    rcases List.mem_append.mp hanswer with hanswer | hanswer
    · exact h.answered answer hanswer
    · rw [List.mem_singleton.mp hanswer]
      refine ⟨le_rfl, hfrom.mono ?_ le_rfl⟩
      change s.now - (cacheTtlMs + duration) ≤ s.began[k]
      omega

/-- **An event keeps the times.** -/
theorem Recent.step (h : Recent client known duration s) {e : Event} {s' : Clocked}
    (hprompt : Prompt duration s e) (hstep : step client known s e = some s') :
    Recent client known duration s' := by
  simp only [Clocked.step, Option.ite_none_left_eq_some, not_lt] at hstep
  obtain ⟨htime, hstep⟩ := hstep
  have hwait := h.wait htime
  obtain ⟨discovery, hdiscovery, rfl⟩ := Option.map_eq_some_iff.mp hstep
  cases e with
  | write time chain =>
    obtain rfl := Option.some.inj hdiscovery
    simpa only [beganAfter, Event.time, List.drop_length, List.map_nil, List.append_nil] using
      h.write htime chain
  | call time =>
    simp only [Event.move, Discovery.step] at hdiscovery
    split at hdiscovery
    · next fresh hfresh =>
      obtain rfl := Option.some.inj hdiscovery
      obtain ⟨hcache, hexpires⟩ := Option.filter_eq_some_iff.mp hfresh
      have hbegan : ¬ s.began.length < s.discovery.refreshes.length := by
        rw [h.counted]
        exact lt_irrefl _
      simpa only [beganAfter, Event.time, if_neg hbegan, List.drop_left, List.map_cons, List.map_nil] using
        hwait.serve hcache (of_decide_eq_true hexpires) ⟨s.discovery.returned.length, fresh.records⟩
    · obtain rfl := Option.some.inj hdiscovery
      have hbegan : s.began.length < (s.discovery.refreshes ++
          [(⟨s.discovery.returned.length, [s.discovery.chain]⟩ : Refresh)]).length := by
        rw [h.counted, List.length_append, List.length_singleton]
        exact Nat.lt_succ_self _
      simpa only [beganAfter, Event.time, if_pos hbegan, List.drop_length, List.map_nil, List.append_nil] using
        hwait.startRefresh s.discovery.returned.length
  | settle time k instants =>
    obtain ⟨refresh, hrefresh, hsettled⟩ := Option.map_eq_some_iff.mp hdiscovery
    split at hsettled
    · next records hread =>
      subst hsettled
      simpa only [beganAfter, Event.time, List.drop_left, List.map_cons, List.map_nil] using
        hwait.answer hrefresh hread hprompt
    · subst hsettled
      simpa only [beganAfter, Event.time, List.drop_length, List.map_nil, List.append_nil] using hwait.drop k

theorem Recent.run {es : List Event} {s' : Clocked} (h : Recent client known duration s)
    (hprompt : AllMoves (Clocked.step client known) (Prompt duration) s es)
    (hrun : run (Clocked.step client known) s es = some s') : Recent client known duration s' :=
  run_invariant (fun hs hm hstep => hs.step hm hstep) hrun hprompt h

/-- The status in an answer was that on the chain not long before. -/
theorem Recent.status_of_answer (h : Recent client known duration s)
    (hknown : (known.map KnownOperator.name).Nodup) {op : KnownOperator} (hop : op ∈ known)
    {answer : ℕ × List CapabilityRecord} (hanswer : answer ∈ s.answers) {record : CapabilityRecord}
    (hrecord : record ∈ answer.2) (hname : record.operator = op.name) :
    ∃ t, Held s.chains (answer.1 - (cacheTtlMs + duration)) answer.1 t ∧
      statusOf client t.reads op.name = some record.status := by
  obtain ⟨refresh, instants, hread, hheld⟩ := (h.answered answer hanswer).2
  obtain ⟨t, ht, hstatus⟩ := statusOf_reads (status_of_mem hknown hread hop hrecord hname)
  exact ⟨t, hheld t ht, hstatus⟩

/-- **How old an answer can be.**  Where no call reads for longer than `duration`, however
    many of them overlap, every answer was read from states in which the chain was at most
    that and the lifetime of the cache before. -/
theorem answers_recent (client : Client) (known : List KnownOperator) (duration : ℕ) (chain : Records)
    {es : List Event} {s : Clocked}
    (hprompt : AllMoves (Clocked.step client known) (Prompt duration) (Clocked.start chain) es)
    (hrun : Machine.run (Clocked.step client known) (Clocked.start chain) es = some s) :
    ∀ answer ∈ s.answers,
      ReadFrom client known s.chains (answer.1 - (cacheTtlMs + duration)) answer.1 answer.2 := by
  intro answer hanswer
  exact (((Recent.start chain).run hprompt hrun).answered answer hanswer).2

/-- **A relay that is not active is not offered.**  A relay that has not been active on the
    chain since `time` is eligible for no tier in any answer that is given more than the
    lifetime of the cache and the duration of the reads later. -/
theorem revoked_not_offered (client : Client) {known : List KnownOperator}
    (hknown : (known.map KnownOperator.name).Nodup) (duration : ℕ) (chain : Records) {es : List Event}
    {s : Clocked} (hprompt : AllMoves (Clocked.step client known) (Prompt duration) (Clocked.start chain) es)
    (hrun : Machine.run (Clocked.step client known) (Clocked.start chain) es = some s)
    {op : KnownOperator} (hop : op ∈ known) {before after : List (ℕ × Records)} {time : ℕ} {t : Records}
    (hchains : s.chains = before ++ (time, t) :: after)
    (hinactive : ∀ t' ∈ t :: after.map Prod.snd, statusOf client t'.reads op.name ≠ some .active) :
    ∀ answer ∈ s.answers, time + (cacheTtlMs + duration) < answer.1 →
      ∀ tier, ∀ record ∈ answer.2.filter (isEligible tier), record.operator ≠ op.name := by
  intro answer hanswer hlate
  have hrecent : Recent client known duration s := (Recent.start chain).run hprompt hrun
  apply not_eligible
  intro record hrecord hname hactive
  obtain ⟨t', hheld, hread⟩ := hrecent.status_of_answer hknown hop hanswer hrecord hname
  have hsince := hheld.eq_or_mem hrecent.sorted hchains (by omega)
  rw [hactive] at hread
  exact hinactive t' (List.mem_cons.mpr hsince) hread

end Events

/-! ### Bob is revoked -/

section Sample

/-- Bob is revoked while he is in the cache. -/
def Sample.lateRevocation : List Event :=
  [.call 0, .settle 5 0 fun _ => Instants.first, .write 10 (Sample.chain .revoked), .call 20,
    .call 20000, .settle 20005 0 fun _ => Instants.first]

def Sample.bob : KnownOperator := ⟨"bob.dvod-test.eth", "0xf0C16Af7eB8c169271968E70741A87885F73Bfd2"⟩

theorem Sample.lateRevocation_prompt : AllMoves (Clocked.step Sample.client knownOperators) (Prompt 5)
    (Clocked.start (Sample.chain .active)) Sample.lateRevocation := by
  decide +kernel

theorem answers_recent_lateRevocation :
    ∃ s, Machine.run (Clocked.step Sample.client knownOperators) (Clocked.start (Sample.chain .active))
        Sample.lateRevocation = some s ∧
      ∀ answer ∈ s.answers, ReadFrom Sample.client knownOperators s.chains
        (answer.1 - (cacheTtlMs + 5)) answer.1 answer.2 := by
  obtain ⟨s, hrun, -⟩ : ∃ s, Machine.run (Clocked.step Sample.client knownOperators)
      (Clocked.start (Sample.chain .active)) Sample.lateRevocation = some s ∧ s.answers.length = 3 :=
    exists_run (by decide +kernel)
  exact ⟨s, hrun, answers_recent Sample.client knownOperators 5 _ Sample.lateRevocation_prompt hrun⟩

theorem revoked_not_offered_lateRevocation :
    ∃ s, Machine.run (Clocked.step Sample.client knownOperators) (Clocked.start (Sample.chain .active))
        Sample.lateRevocation = some s ∧
      ∀ answer ∈ s.answers, 10 + (cacheTtlMs + 5) < answer.1 →
        ∀ tier, ∀ record ∈ answer.2.filter (isEligible tier), record.operator ≠ "bob.dvod-test.eth" := by
  obtain ⟨s, hrun, -⟩ : ∃ s, Machine.run (Clocked.step Sample.client knownOperators)
      (Clocked.start (Sample.chain .active)) Sample.lateRevocation = some s ∧ s.answers.length = 3 :=
    exists_run (by decide +kernel)
  have hbob : Sample.bob ∈ knownOperators := List.mem_cons_self
  have hchains : s.chains = [(0, Sample.chain .active)] ++ (10, Sample.chain .revoked) :: [] := by
    obtain rfl := Option.some.inj hrun
    rfl
  have hinactive : ∀ t ∈ Sample.chain .revoked :: ([] : List (ℕ × Records)).map Prod.snd,
      statusOf Sample.client t.reads Sample.bob.name ≠ some .active := by
    decide +kernel
  exact ⟨s, hrun, revoked_not_offered Sample.client (by decide) 5 _ Sample.lateRevocation_prompt hrun hbob
    hchains hinactive⟩

end Sample

end Clocked

end Discovery

end DVoD.Orchestrator
