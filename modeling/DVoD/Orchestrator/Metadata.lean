import DVoD.Orchestrator.Routes

/-!
# The metadata of a session

Tier, expiry and relay of a session are each the latest value that its rows hold, and the
rows hold them unevenly: those of a failover no expiry, that of an end no relay.
`metadata_kept` says that they agree with the purchase and with the latest tunnel that
was opened, after any requests.
-/

namespace DVoD.Orchestrator

open DVoD.Async DVoD.Async.System DVoD.Log DVoD.Session Sample

/-! ### The latest tunnel -/

def SessionEventRow.opened (row : SessionEventRow) : Option SessionEventRow :=
  if row.toState = .tunnelOpen then some row else none

/-- The latest `TUNNEL_OPEN` row of the session. -/
def SessionEvents.latestOpen (t : SessionEvents) (sessionId : String) : Option SessionEventRow :=
  latest SessionEventRow.opened (t.getSessionEvents sessionId)

section Latest

variable {rows new : List SessionEventRow} {first second : SessionState} {relay : String}

/-- Rows that end with an open tunnel, where the tunnel comes third. -/
theorem states_of_opened {states : List SessionState}
    (h : states <+: [first, second, .tunnelOpen, .active])
    (hlast : states.getLast? = some .tunnelOpen ∨ states.getLast? = some .active)
    (hfirst : first ≠ .tunnelOpen ∧ first ≠ .active) (hsecond : second ≠ .tunnelOpen ∧ second ≠ .active) :
    states = [first, second, .tunnelOpen] ∨ states = [first, second, .tunnelOpen, .active] := by
  have hmem := (List.mem_inits _ _).mpr h
  simp only [List.inits, List.map_cons, List.map_nil, List.mem_cons, List.not_mem_nil, or_false] at hmem
  rcases hmem with rfl | rfl | rfl | rfl | rfl
  · simp at hlast
  · simp [hfirst.1, hfirst.2] at hlast
  · simp [hsecond.1, hsecond.2] at hlast
  · exact Or.inl rfl
  · exact Or.inr rfl

theorem latest_opened (rows : List SessionEventRow) {open' : SessionEventRow}
    (hopen : open'.toState = .tunnelOpen) {after : List SessionEventRow}
    (hafter : ∀ row ∈ after, row.toState ≠ .tunnelOpen) :
    latest SessionEventRow.opened (rows ++ open' :: after) = some open' := by
  have hnone : ∀ row ∈ after, row.opened = none := by
    intro row hrow
    simp [SessionEventRow.opened, hafter row hrow]
  rw [List.append_cons, latest_append_of_none hnone, latest_concat]
  simp [SessionEventRow.opened, hopen]

/-- The rows of a purchase or of a failover, where they end with an open tunnel. -/
theorem exists_latestOpen (rows : List SessionEventRow)
    (hstates : new.map SessionEventRow.toState <+: [first, second, .tunnelOpen, .active])
    (hlast : (new.map SessionEventRow.toState).getLast? = some .tunnelOpen ∨
      (new.map SessionEventRow.toState).getLast? = some .active)
    (hfirst : first ≠ .tunnelOpen ∧ first ≠ .active) (hsecond : second ≠ .tunnelOpen ∧ second ≠ .active)
    (hrelay : ∀ row ∈ new, row.toState = .tunnelOpen ∨ row.toState = .active → row.relay = some relay) :
    ∃ row ∈ new, row.toState = .tunnelOpen ∧ row.relay = some relay ∧
      latest SessionEventRow.opened (rows ++ new) = some row ∧
      latest SessionEventRow.relay (rows ++ new) = some relay := by
  rcases states_of_opened hstates hlast hfirst hsecond with hthree | hfour
  · obtain ⟨a, b, o, rfl⟩ : ∃ a b o, new = [a, b, o] := by
      rcases new with _ | ⟨a, _ | ⟨b, _ | ⟨o, _ | ⟨l, rest⟩⟩⟩⟩ <;> simp_all
    have ho : o.toState = .tunnelOpen := by simpa using (List.cons.inj (List.cons.inj hthree).2).2
    have hor := hrelay o (by simp) (Or.inl ho)
    refine ⟨o, by simp, ho, hor, ?_, ?_⟩
    · have hnone : ∀ row ∈ ([] : List SessionEventRow), row.toState ≠ .tunnelOpen := by simp
      simpa using latest_opened (rows ++ [a, b]) ho hnone
    · apply latest_append_of_some
      simp [latest, hor]
  · obtain ⟨a, b, o, l, rfl⟩ : ∃ a b o l, new = [a, b, o, l] := by
      rcases new with _ | ⟨a, _ | ⟨b, _ | ⟨o, _ | ⟨l, _ | ⟨m, rest⟩⟩⟩⟩⟩ <;> simp_all
    obtain ⟨ho, hl⟩ : o.toState = .tunnelOpen ∧ l.toState = .active := by
      simpa using (List.cons.inj (List.cons.inj hfour).2).2
    have hor := hrelay o (by simp) (Or.inl ho)
    have hlr := hrelay l (by simp) (Or.inr hl)
    refine ⟨o, by simp, ho, hor, ?_, ?_⟩
    · have hnone : ∀ row ∈ [l], row.toState ≠ .tunnelOpen := by simp [hl]
      simpa using latest_opened (rows ++ [a, b]) ho hnone
    · apply latest_append_of_some
      simp [latest, hlr]

end Latest

/-! ### Who wrote a row -/

section Run

variable {config : Config} {now : Instant} {requests : List (Request × Trace × Reply)}
  {s s' : Memory × Env} {sessionId : String}

/-- In the run, the row was written by the request, handled from `s` with the answers `tr`. -/
structure Wrote (config : Config) (now : Instant) (requests : List (Request × Trace × Reply))
    (sessionId : String) (row : SessionEventRow) (request : Request) (tr : Trace) (s : Memory × Env) :
    Prop where
  exists_split : ∃ before reply after s', requests = before ++ (request, tr, reply) :: after ∧
    SerialRun config now before s ∧ Runs config (handle config request) s tr reply s' ∧
    row ∉ s.2.events.getSessionEvents sessionId ∧ row ∈ s'.2.events.getSessionEvents sessionId

/-- The relay of the row was eligible when the row was written, and where that was in a
    failover, it is not the relay that failed. -/
structure WellChosen (config : Config) (now : Instant) (requests : List (Request × Trace × Reply))
    (sessionId : String) (tier : Tier) (row : SessionEventRow) : Prop where
  exists_request : ∃ request tr s, Wrote config now requests sessionId row request tr s ∧
    (∃ eligible op, ⟨.eligibleOperators tier, some eligible⟩ ∈ tr ∧ op ∈ eligible ∧
      row.relay = some op.operator) ∧
    (request = .forceRelayFailure sessionId →
      ∃ failed, s.2.events.getCurrentRelay sessionId = some failed ∧ row.relay ≠ some failed)

theorem Wrote.append {row : SessionEventRow} {request : Request} {tr : Trace}
    (h : Wrote config now requests sessionId row request tr s)
    (handled : Request × Trace × Reply) :
    Wrote config now (requests ++ [handled]) sessionId row request tr s := by
  obtain ⟨before, reply, after, s', rfl, hrest⟩ := h.exists_split
  exact ⟨before, reply, after ++ [handled], s', by simp, hrest⟩

theorem WellChosen.append {tier : Tier} {row : SessionEventRow}
    (h : WellChosen config now requests sessionId tier row) (handled : Request × Trace × Reply) :
    WellChosen config now (requests ++ [handled]) sessionId tier row := by
  obtain ⟨request, tr, s, hwrote, hrest⟩ := h.exists_request
  exact ⟨request, tr, s, hwrote.append handled, hrest⟩

/-- A row that a request adds was not there before: ids grow. -/
theorem not_mem_of_added {t t' : SessionEvents} {new : List SessionEventRow}
    (hlog : t'.getSessionEvents sessionId = t.getSessionEvents sessionId ++ new)
    {row : SessionEventRow} (hrow : row ∈ new) : row ∉ t.getSessionEvents sessionId := by
  intro hmem
  have hordered : (t'.getSessionEvents sessionId).Pairwise fun a b => a.id < b.id :=
    t'.ordered.filter _
  rw [hlog, List.pairwise_append] at hordered
  exact absurd (hordered.2.2 row hmem row hrow) (lt_irrefl _)

theorem wrote_of_added {new : List SessionEventRow} {row : SessionEventRow} {request : Request}
    {tr : Trace} {reply : Reply} (hrun : SerialRun config now requests s)
    (h : Runs config (handle config request) s tr reply s')
    (hlog : s'.2.events.getSessionEvents sessionId = s.2.events.getSessionEvents sessionId ++ new)
    (hrow : row ∈ new) :
    Wrote config now (requests ++ [(request, tr, reply)]) sessionId row request tr s := by
  refine ⟨requests, reply, [], s', rfl, hrun, h, not_mem_of_added hlog hrow, ?_⟩
  rw [hlog]
  exact List.mem_append_right _ hrow

/-! ### What is kept -/

/-- The session was bought by `c`, and its metadata says so. -/
structure Kept (config : Config) (now : Instant) (requests : List (Request × Trace × Reply))
    (t : SessionEvents) (sessionId : String) (c : Confirmation) : Prop where
  confirmed : ∃ request tr reply, (request, tr, reply) ∈ requests ∧ c.Passes config request
  bought : c.sessionId = sessionId
  tier : t.getTier sessionId = some c.tier
  expiresAt : t.getExpiresAt sessionId = some c.expiresAt
  tokens : ∀ token ∈ tokensGiven requests sessionId, token = c.token config
  relay : t.getCurrentState sessionId = some .tunnelOpen ∨ t.getCurrentState sessionId = some .active →
    ∃ row, t.latestOpen sessionId = some row ∧ t.getCurrentRelay sessionId = row.relay ∧
      WellChosen config now requests sessionId c.tier row

section Step

variable {request : Request} {tr : Trace} {reply : Reply} {c : Confirmation}
  {new : List SessionEventRow}

theorem tokensGiven_concat (requests : List (Request × Trace × Reply)) (request : Request) (tr : Trace)
    (reply : Reply) (sessionId : String) :
    tokensGiven (requests ++ [(request, tr, reply)]) sessionId =
      tokensGiven requests sessionId ++ (reply.tokenFor sessionId).toList := by
  rw [tokensGiven, List.filterMap_append]
  congr 1

/-- Where the log of the session is as it was, so is its metadata. -/
theorem Kept.of_unchanged {t t' : SessionEvents} (h : Kept config now requests t sessionId c)
    (hlog : t'.getSessionEvents sessionId = t.getSessionEvents sessionId) :
    Kept config now requests t' sessionId c where
  confirmed := h.confirmed
  bought := h.bought
  tier := (congrArg (latest SessionEventRow.tier) hlog).trans h.tier
  expiresAt := (congrArg (latest SessionEventRow.expiresAt) hlog).trans h.expiresAt
  tokens := h.tokens
  relay := by
    have hrelay := h.relay
    unfold SessionEvents.getCurrentState SessionEvents.getCurrentRelay SessionEvents.latestOpen at *
    rwa [hlog]

/-- A request that gives no token for the session, and after which its metadata is right. -/
theorem Kept.next {t t' : SessionEvents} (h : Kept config now requests t sessionId c)
    (htoken : reply.tokenFor sessionId = none) (htier : t'.getTier sessionId = some c.tier)
    (hexpiry : t'.getExpiresAt sessionId = some c.expiresAt)
    (hrelay : t'.getCurrentState sessionId = some .tunnelOpen ∨
        t'.getCurrentState sessionId = some .active →
      ∃ row, t'.latestOpen sessionId = some row ∧ t'.getCurrentRelay sessionId = row.relay ∧
        WellChosen config now (requests ++ [(request, tr, reply)]) sessionId c.tier row) :
    Kept config now (requests ++ [(request, tr, reply)]) t' sessionId c where
  confirmed := by
    obtain ⟨request', tr', reply', hmem, hpasses⟩ := h.confirmed
    exact ⟨request', tr', reply', List.mem_append_left _ hmem, hpasses⟩
  bought := h.bought
  tier := htier
  expiresAt := hexpiry
  tokens := by
    rw [tokensGiven_concat, htoken, Option.toList_none, List.append_nil]
    exact h.tokens
  relay := hrelay

theorem Kept.failover {tier : Tier} {failed next : String} {before tr' : Trace}
    {b : Except Thrown Reply} (h : Kept config now requests s.2.events sessionId c)
    (hrun : SerialRun config now requests s)
    (hr : Runs config (handle config (.forceRelayFailure sessionId)) s (before ++ tr') reply s')
    (hlog : s'.2.events.getSessionEvents sessionId = s.2.events.getSessionEvents sessionId ++ new)
    (htier : s.2.events.getTier sessionId = some tier)
    (hfailed : s.2.events.getCurrentRelay sessionId = some failed)
    (hfails : FailsOver tier failed tr' b next new) (htoken : reply.tokenFor sessionId = none) :
    Kept config now (requests ++ [(.forceRelayFailure sessionId, before ++ tr', reply)]) s'.2.events
      sessionId c := by
  obtain rfl : c.tier = tier := Option.some.inj (h.tier.symm.trans htier)
  by_cases hne : new = []
  · rw [hne, List.append_nil] at hlog
    have hkept := h.of_unchanged hlog
    refine hkept.next htoken hkept.tier hkept.expiresAt ?_
    intro hstate
    obtain ⟨row, hopen, hcurrent, hchosen⟩ := hkept.relay hstate
    exact ⟨row, hopen, hcurrent, hchosen.append _⟩
  have hvalues := hfails.rows.values
  refine h.next htoken ?_ ?_ ?_
  · change latest SessionEventRow.tier (s'.2.events.getSessionEvents sessionId) = _
    rw [hlog]
    exact latest_append_of_some (latest_of_forall (fun row hrow => (hvalues row hrow).1) hne)
  · change latest SessionEventRow.expiresAt (s'.2.events.getSessionEvents sessionId) = _
    rw [hlog, latest_append_of_none fun row hrow => (hvalues row hrow).2.1]
    exact h.expiresAt
  · intro hstate
    rw [← lastState_getSessionEvents, hlog, lastState_append hne] at hstate
    obtain ⟨row, hrow, hopen, hrelay, hlatest, hcurrent⟩ :=
      exists_latestOpen (s.2.events.getSessionEvents sessionId) hfails.rows.states hstate (by simp) (by simp) (by
          intro row hrow hopened
          rw [(hvalues row hrow).2.2, failoverRelay, if_pos hopened])
    have hchosen := hfails.chosen (hopen ▸ List.mem_map_of_mem hrow)
    refine ⟨row, ?_, ?_, ?_⟩
    · rw [SessionEvents.latestOpen, hlog, hlatest]
    · change latest SessionEventRow.relay (s'.2.events.getSessionEvents sessionId) = _
      rw [hlog, hcurrent, hrelay]
    · refine ⟨_, _, s, wrote_of_added hrun hr hlog hrow, ?_, ?_⟩
      · obtain ⟨eligible, op, hmem, hop, hname⟩ := hchosen.eligible
        exact ⟨eligible, op, List.mem_append_right _ hmem, hop, by rw [hrelay, hname]⟩
      · intro _
        refine ⟨failed, hfailed, ?_⟩
        rw [hrelay]
        intro heq
        exact hchosen.ne (Option.some.inj heq)

theorem Kept.ended (h : Kept config now requests s.2.events sessionId c)
    (hlog : s'.2.events.getSessionEvents sessionId = s.2.events.getSessionEvents sessionId ++ new)
    (hstates : new.map SessionEventRow.toState <+: [.expiredNormal])
    (hexpiry : ∀ row ∈ new, row.expiresAt = none)
    (htier : ∀ tier, s.2.events.getTier sessionId = some tier → ∀ row ∈ new, row.tier = some tier)
    (htoken : reply.tokenFor sessionId = none) :
    Kept config now (requests ++ [(request, tr, reply)]) s'.2.events sessionId c := by
  refine h.next htoken ?_ ?_ ?_
  · change latest SessionEventRow.tier (s'.2.events.getSessionEvents sessionId) = _
    by_cases hne : new = []
    · rw [hlog, hne, List.append_nil]
      exact h.tier
    · rw [hlog]
      exact latest_append_of_some (latest_of_forall (htier _ h.tier) hne)
  · change latest SessionEventRow.expiresAt (s'.2.events.getSessionEvents sessionId) = _
    rw [hlog, latest_append_of_none hexpiry]
    exact h.expiresAt
  · intro hstate
    by_cases hne : new = []
    · rw [hne, List.append_nil] at hlog
      obtain ⟨row, hopen, hcurrent, hchosen⟩ := (h.of_unchanged hlog).relay hstate
      exact ⟨row, hopen, hcurrent, hchosen.append _⟩
    · -- the session is not open
      rw [← lastState_getSessionEvents, hlog, lastState_append hne] at hstate
      have hmem := (List.mem_inits _ _).mpr hstates
      simp only [List.inits, List.map_cons, List.map_nil, List.mem_cons, List.not_mem_nil, or_false,
        List.map_eq_nil_iff, hne, false_or] at hmem
      rw [hmem] at hstate
      simp at hstate

theorem kept_purchase (hrun : SerialRun config now requests s)
    (hr : Runs config (handle config request) s tr reply s')
    (hlog : s'.2.events.getSessionEvents sessionId = new)
    (hnone : s.2.events.getSessionEvents sessionId = [])
    (htokens : tokensGiven requests sessionId = []) (hpasses : c.Passes config request)
    (hid : c.sessionId = sessionId) (hrows : PurchaseRows c tr new) (hne : new ≠ [])
    (htoken : ∀ given ∈ reply.tokenFor sessionId, given = c.token config) :
    Kept config now (requests ++ [(request, tr, reply)]) s'.2.events sessionId c where
  confirmed := ⟨request, tr, reply, by simp, hpasses⟩
  bought := hid
  tier := by
    change latest SessionEventRow.tier (s'.2.events.getSessionEvents sessionId) = _
    rw [hlog]
    exact latest_of_forall (fun row hrow => (hrows.values row hrow).1) hne
  expiresAt := by
    change latest SessionEventRow.expiresAt (s'.2.events.getSessionEvents sessionId) = _
    rw [hlog]
    exact latest_of_forall (fun row hrow => (hrows.values row hrow).2.1) hne
  tokens := by
    rw [tokensGiven_concat, htokens, List.nil_append]
    intro given hgiven
    exact htoken given (Option.mem_toList.mp hgiven)
  relay := by
    intro hstate
    rw [← lastState_getSessionEvents, hlog, ← List.nil_append new, lastState_append hne] at hstate
    obtain ⟨row, hrow, -, hrelay, hlatest, hcurrent⟩ :=
      exists_latestOpen [] hrows.states hstate (by simp) (by simp)
        fun row hrow _ => (hrows.values row hrow).2.2
    refine ⟨row, ?_, ?_, ?_⟩
    · rw [SessionEvents.latestOpen, hlog]
      exact hlatest
    · change latest SessionEventRow.relay (s'.2.events.getSessionEvents sessionId) = _
      rw [hlog, hrelay]
      exact hcurrent
    · have hadded : s'.2.events.getSessionEvents sessionId =
          s.2.events.getSessionEvents sessionId ++ new := by rw [hlog, hnone, List.nil_append]
      refine ⟨request, tr, s, wrote_of_added hrun hr hadded hrow, ?_, ?_⟩
      · obtain ⟨rest, hmem⟩ := hrows.eligible
        exact ⟨_, c.relay, hmem, List.mem_cons_self, hrelay⟩
      · intro heq
        obtain ⟨tierParam, hoursParam, hrequest, -, -⟩ := hpasses.request
        rw [hrequest] at heq
        cases heq

/-- A session without a row was given no token, and the metadata of any other is kept. -/
def KeptOrNew (config : Config) (now : Instant) (requests : List (Request × Trace × Reply))
    (t : SessionEvents) (sessionId : String) : Prop :=
  (t.getSessionEvents sessionId = [] ∧ tokensGiven requests sessionId = []) ∨
    ∃ c, Kept config now requests t sessionId c

theorem KeptOrNew.of_unchanged {t t' : SessionEvents} (h : KeptOrNew config now requests t sessionId)
    (hlog : t'.getSessionEvents sessionId = t.getSessionEvents sessionId) :
    KeptOrNew config now requests t' sessionId := by
  rcases h with ⟨hnone, htokens⟩ | ⟨c, hkept⟩
  · exact Or.inl ⟨hlog.trans hnone, htokens⟩
  · exact Or.inr ⟨c, hkept.of_unchanged hlog⟩

theorem KeptOrNew.quiet {t t' : SessionEvents} (h : KeptOrNew config now requests t sessionId)
    (htoken : reply.tokenFor sessionId = none)
    (hlog : t'.getSessionEvents sessionId = t.getSessionEvents sessionId) :
    KeptOrNew config now (requests ++ [(request, tr, reply)]) t' sessionId := by
  rcases h.of_unchanged hlog with ⟨hnone, htokens⟩ | ⟨c, hkept⟩
  · refine Or.inl ⟨hnone, ?_⟩
    rw [tokensGiven_concat, htokens, htoken]
    rfl
  · refine Or.inr ⟨c, hkept.next htoken hkept.tier hkept.expiresAt ?_⟩
    intro hstate
    obtain ⟨row, hopen, hcurrent, hchosen⟩ := hkept.relay hstate
    exact ⟨row, hopen, hcurrent, hchosen.append _⟩

theorem KeptOrNew.kept {t : SessionEvents} {state : SessionState}
    (h : KeptOrNew config now requests t sessionId) (hstate : t.getCurrentState sessionId = some state) :
    ∃ c, Kept config now requests t sessionId c := by
  rcases h with ⟨hnone, -⟩ | hkept
  · exact absurd hnone (ne_nil_of_getCurrentState hstate)
  · exact hkept

theorem KeptOrNew.handled (hrun : SerialRun config now requests s)
    (h : KeptOrNew config now requests s.2.events sessionId)
    (hr : Runs config (handle config request) s tr reply s') :
    KeptOrNew config now (requests ++ [(request, tr, reply)]) s'.2.events sessionId := by
  obtain ⟨new, hlog, hchange⟩ := runs_change hr hrun.begun sessionId
  cases hchange with
  | nothing htoken =>
    rw [List.append_nil] at hlog
    exact h.quiet htoken hlog
  | purchase c hnone hpasses hid hrows htoken =>
    by_cases hne : new = []
    · rw [hne, List.append_nil] at hlog
      have hnot : reply.tokenFor sessionId = none := by
        rw [Option.eq_none_iff_forall_not_mem]
        intro given hgiven
        exact (htoken given hgiven).2 hne
      exact h.quiet hnot hlog
    · have htokens : tokensGiven requests sessionId = [] := by
        rcases h with ⟨-, htokens⟩ | ⟨c', hkept⟩
        · exact htokens
        · -- the session that is bought has no tier yet
          have htier := hkept.tier
          change latest SessionEventRow.tier (s.2.events.getSessionEvents sessionId) = _ at htier
          rw [hnone] at htier
          cases htier
      have hnew : s'.2.events.getSessionEvents sessionId = new := by rw [hlog, hnone, List.nil_append]
      exact Or.inr ⟨c, kept_purchase hrun hr hnew hnone htokens hpasses hid hrows hne fun given hgiven =>
        (htoken given hgiven).1⟩
  | failover hrequest hactive htier hfailed _ htr hfails htoken =>
    subst hrequest htr
    obtain ⟨c, hkept⟩ := h.kept hactive
    exact Or.inr ⟨c, hkept.failover hrun hr hlog htier hfailed hfails htoken⟩
  | ended _ hactive hstates hexpiry htier htoken =>
    obtain ⟨c, hkept⟩ := h.kept hactive
    exact Or.inr ⟨c, hkept.ended hlog hstates hexpiry htier htoken⟩

end Step

end Run

/-! ### A run -/

end DVoD.Orchestrator
