import DVoD.Orchestrator.Tokens

/-!
# Concurrent requests

The log of a session under every interleaving of requests.  `recordTransition` checks a
transition against the state that its `SELECT` read and inserts it later, so the log is
a run of the state machine exactly where no `INSERT` comes too late
(`logs_valid_iff`), and a payment buys one session exactly where this is so for the
`INSERT` of `PAID` (`one_session_iff`).
-/

namespace DVoD.Orchestrator

open DVoD.Async DVoD.Async.Program DVoD.Arc DVoD.Evm DVoD.Session SessionEvents Sample

variable {config : Config}

/-! ### What a move does to the table -/

/-- The move executes the `INSERT` of the row. -/
def Inserts (cfg : System.Config (system config)) (mv : System.Move (system config))
    (row : NewRow) (createdAt : ℕ) : Prop :=
  ∃ i o k, mv = .answer i o ∧ cfg.tasks[i]? = some (.await (Command.insertEvent row) k) ∧
    o.fault ≠ some .lost ∧ o.createdAt = createdAt

def Keeping (cfg : System.Config (system config)) : Prop :=
  ∀ p ∈ cfg.tasks, p.Keeps tableProtocol cfg.env

theorem step_keeping {cfg cfg' : System.Config (system config)} {mv : System.Move (system config)}
    (hI : Keeping cfg) (h : System.step cfg mv = some cfg') : Keeping cfg' :=
  System.step_keeps (system_observes config) h hI

theorem keeping_start (now : Instant) : Keeping (start config now) := by
  intro p hp
  simp [start] at hp

theorem step_events {cfg cfg' : System.Config (system config)} {mv : System.Move (system config)}
    (h : System.step cfg mv = some cfg') :
    (cfg'.env.events = cfg.env.events ∧ ∀ row createdAt, ¬ Inserts cfg mv row createdAt) ∨
    ∃ row createdAt, Inserts cfg mv row createdAt ∧
      cfg'.env.events = cfg.env.events.insert row createdAt := by
  rcases System.step_cases h with ⟨req, rfl, rfl⟩ | ⟨i, u, k, rfl, -, rfl⟩ |
    ⟨i, o, c, k, rfl, ht, rfl⟩ | ⟨ev, rfl, rfl⟩
  · exact Or.inl ⟨rfl, fun row createdAt ⟨i, o, k, hmv, _⟩ => by cases hmv⟩
  · exact Or.inl ⟨rfl, fun row createdAt ⟨i, o, k, hmv, _⟩ => by cases hmv⟩
  · rcases answer_cases config o cfg.env c with henv | ⟨row, rfl, hfault, henv⟩
    · by_cases hinserts : ∃ row createdAt, Inserts cfg (.answer i o) row createdAt
      · obtain ⟨row, createdAt, i', o', k', hmv, ht', hfault, rfl⟩ := hinserts
        cases hmv
        obtain ⟨rfl, -⟩ : c = Command.insertEvent row ∧ HEq k k' := by
          have := ht.symm.trans ht'
          simpa using this
        exact Or.inr ⟨row, o.createdAt, ⟨i, o, k, rfl, ht, hfault, rfl⟩,
          answer_insertEvent_events hfault⟩
      · simp only [not_exists] at hinserts
        exact Or.inl ⟨congrArg Env.events henv, hinserts⟩
    · exact Or.inr ⟨row, o.createdAt, ⟨i, o, k, rfl, ht, hfault, rfl⟩,
        answer_insertEvent_events hfault⟩
  · exact Or.inl ⟨happen_events ev cfg.mem, fun row createdAt ⟨i, o, k, hmv, _⟩ => by cases hmv⟩

theorem inserts_unique {cfg : System.Config (system config)} {mv : System.Move (system config)}
    {row row' : NewRow} {createdAt createdAt' : ℕ} (h : Inserts cfg mv row createdAt)
    (h' : Inserts cfg mv row' createdAt') : row = row' ∧ createdAt = createdAt' := by
  obtain ⟨i, o, k, rfl, ht, -, rfl⟩ := h
  obtain ⟨i', o', k', hmv, ht', -, rfl⟩ := h'
  cases hmv
  have := ht.symm.trans ht'
  simp only [Option.some.injEq, Program.await.injEq, Command.insertEvent.injEq] at this
  exact ⟨this.1, rfl⟩

theorem grounded_of_inserts {cfg : System.Config (system config)}
    {mv : System.Move (system config)} {row : NewRow} {createdAt : ℕ} (hI : Keeping cfg)
    (h : Inserts cfg mv row createdAt) : row.Grounded cfg.env.events := by
  obtain ⟨i, o, k, -, ht, -, -⟩ := h
  exact (hI _ (List.mem_of_getElem? ht)).pre

/-! ### The log as a run of the state machine -/

/-- The log of a session is a run of the state machine, which does not open a tunnel
    again once it is over. -/
structure LogValid (rows : List SessionEventRow) : Prop where
  path : ValidPath none rows
  ended : ∀ before row after, rows = before ++ row :: after → row.toState = .expiredNormal →
    ∀ row' ∈ after, row'.toState ≠ .tunnelOpen ∧ row'.toState ≠ .active

theorem ValidPath.logValid {rows : List SessionEventRow} (h : ValidPath none rows) :
    LogValid rows where
  path := h
  ended before row after hrows hstate row' hrow' := by
    rw [hrows, validPath_append] at h
    obtain ⟨-, -, -, hafter⟩ := h
    rw [hstate] at hafter
    rw [hafter.of_expiredNormal row' hrow']
    exact ⟨by simp, by simp⟩

def SessionEvents.Valid (t : SessionEvents) : Prop :=
  ∀ sessionId, ValidPath none (t.getSessionEvents sessionId)

theorem SessionEvents.valid_insert_iff {t : SessionEvents} {row : NewRow} {createdAt : ℕ}
    (hrow : Allowed row.fromState row.toState) :
    (t.insert row createdAt).Valid ↔
      t.Valid ∧ row.fromState = t.getCurrentState row.sessionId := by
  have hself : ValidPath none ((t.insert row createdAt).getSessionEvents row.sessionId) ↔
      ValidPath none (t.getSessionEvents row.sessionId) ∧
        row.fromState = t.getCurrentState row.sessionId := by
    rw [getSessionEvents_insert_self, validPath_append, lastState_getSessionEvents]
    simp only [ValidPath, NewRow.toRow, and_true]
    refine and_congr_right fun _ => ⟨fun h => h.1, fun h => ⟨h, h ▸ hrow⟩⟩
  constructor
  · intro h
    refine ⟨fun sessionId => ?_, (hself.mp (h row.sessionId)).2⟩
    by_cases hne : row.sessionId = sessionId
    · exact hne ▸ (hself.mp (h row.sessionId)).1
    · have hother := h sessionId
      rwa [getSessionEvents_insert_of_ne hne] at hother
  · rintro ⟨h, hfrom⟩ sessionId
    by_cases hne : row.sessionId = sessionId
    · exact hne ▸ hself.mpr ⟨h row.sessionId, hfrom⟩
    · rw [getSessionEvents_insert_of_ne hne]; exact h sessionId

/-- No `INSERT` of the move comes too late: what its `SELECT` read still stands. -/
def Fresh (cfg : System.Config (system config)) (mv : System.Move (system config)) : Prop :=
  ∀ row createdAt, Inserts cfg mv row createdAt →
    row.fromState = cfg.env.events.getCurrentState row.sessionId

/-- One move keeps the logs valid exactly where they were and the move is fresh. -/
theorem step_valid_iff {cfg cfg' : System.Config (system config)}
    {mv : System.Move (system config)} (hI : Keeping cfg) (h : System.step cfg mv = some cfg') :
    cfg'.env.events.Valid ↔ cfg.env.events.Valid ∧ Fresh cfg mv := by
  rcases step_events h with ⟨hevents, hno⟩ | ⟨row, createdAt, hins, hevents⟩
  · rw [hevents]
    constructor
    · intro hv
      exact ⟨hv, fun row createdAt hins => absurd hins (hno row createdAt)⟩
    · intro hv
      exact hv.1
  · rw [hevents, SessionEvents.valid_insert_iff (grounded_of_inserts hI hins).1]
    refine and_congr_right fun _ => ⟨?_, fun hf => hf _ _ hins⟩
    intro hfrom row' createdAt' hins'
    rwa [(inserts_unique hins' hins).1]

/-- **The log is a run of the state machine** in every state of a run exactly where no
    `INSERT` of the run comes too late. -/
theorem logs_valid_iff (now : Instant) {mvs : List (System.Move (system config))}
    {cfg : System.Config (system config)} (h : System.run (start config now) mvs = some cfg) :
    (∀ sessionId, LogValid (cfg.env.events.getSessionEvents sessionId)) ↔
      System.AllMoves Fresh (start config now) mvs := by
  have hvalid : (∀ sessionId, LogValid (cfg.env.events.getSessionEvents sessionId)) ↔
      cfg.env.events.Valid := by
    constructor
    · intro hv sessionId
      exact (hv sessionId).path
    · intro hv sessionId
      exact (hv sessionId).logValid
  rw [hvalid]
  constructor
  · intro hv
    exact (System.allMoves_of_run step_keeping
      (fun hI hstep hv => (step_valid_iff hI hstep).mp hv) h (keeping_start now) hv).2
  · intro hfresh
    refine (System.run_invariant_of_allMoves (I := fun cfg => Keeping cfg ∧ cfg.env.events.Valid)
      (fun hI hP hstep => ⟨step_keeping hI.1 hstep, (step_valid_iff hI.1 hstep).mpr ⟨hI.2, hP⟩⟩)
      h hfresh ⟨keeping_start now, fun sessionId => ?_⟩).2
    exact trivial

/-- The session is ended while its failover is between `SELECT` and `INSERT`. -/
def Sample.endDuringFailover : List (System.Move (system Sample.config)) :=
  bought ++ [.arrive (.forceRelayFailure "0"), .arrive (.endSession "0")] ++
    List.replicate 5 (answered 1) ++ List.replicate 4 (answered 2) ++ [resumed 2] ++
    [answered 1, resumed 1] ++ List.replicate 3 (answered 1) ++ [resumed 1, answered 1] ++
    (List.replicate 2 [answered 1, answered 1, resumed 1]).flatten

theorem Sample.run_endDuringFailover :
    (System.run (start Sample.config Sample.now) endDuringFailover).any (fun cfg =>
      ((cfg.env.events.getSessionEvents "0").map SessionEventRow.toState).drop 3 =
        [.active, .expiredNormal, .relayUnreachable, .failoverSelect, .tunnelOpen, .active] ∧
      ¬ ValidPath none (cfg.env.events.getSessionEvents "0")) = true := by
  decide +kernel

/-- A session that was ended is active again. -/
theorem logs_invalid : ∃ cfg,
    System.run (start Sample.config Sample.now) Sample.endDuringFailover = some cfg ∧
      ((cfg.env.events.getSessionEvents "0").map SessionEventRow.toState).drop 3 =
        [.active, .expiredNormal, .relayUnreachable, .failoverSelect, .tunnelOpen, .active] ∧
      ¬ ∀ sessionId, LogValid (cfg.env.events.getSessionEvents sessionId) := by
  obtain ⟨cfg, hrun, hcfg⟩ := (Option.any_eq_true _ _).mp Sample.run_endDuringFailover
  obtain ⟨hstates, hpath⟩ := of_decide_eq_true hcfg
  exact ⟨cfg, hrun, hstates, fun h => hpath (h "0").path⟩

theorem logs_valid_iff_endDuringFailover : ∃ cfg,
    System.run (start Sample.config Sample.now) Sample.endDuringFailover = some cfg ∧
      ((∀ sessionId, LogValid (cfg.env.events.getSessionEvents sessionId)) ↔
        System.AllMoves Fresh (start Sample.config Sample.now) Sample.endDuringFailover) := by
  obtain ⟨cfg, hrun, -⟩ := (Option.any_eq_true _ _).mp Sample.run_endDuringFailover
  exact ⟨cfg, hrun, logs_valid_iff Sample.now hrun⟩

/-! ### One payment, one session -/

def SessionEvents.paidRows (t : SessionEvents) (sessionId : String) : ℕ :=
  (t.getSessionEvents sessionId).countP fun row => row.toState = .paid

def tokens (cfg : System.Config (system config)) (sessionId : String) : ℕ :=
  cfg.replies.countP fun reply => Reply.isTokenFor sessionId reply

/-- The log of every session that has one begins with `PAID`, and the states before that
    are never recorded. -/
structure SessionEvents.Begun (t : SessionEvents) : Prop where
  first : ∀ sessionId row, (t.getSessionEvents sessionId).head? = some row →
    row.fromState = none ∧ row.toState = .paid
  states : ∀ row ∈ t.rows, row.toState ≠ .browsing ∧ row.toState ≠ .quoted

theorem SessionEvents.Begun.reached {t : SessionEvents} (ht : t.Begun) {sessionId : String}
    {state : SessionState} (h : t.Reached sessionId state) : state ≠ .browsing ∧ state ≠ .quoted := by
  obtain ⟨row, hrow, rfl⟩ := h
  exact ht.states row (List.mem_filter.mp hrow).1

theorem SessionEvents.Begun.insert {t : SessionEvents} {row : NewRow} {createdAt : ℕ}
    (ht : t.Begun) (hrow : row.Grounded t) : (t.insert row createdAt).Begun where
  first sessionId first hfirst := by
    by_cases hne : row.sessionId = sessionId
    · subst hne
      rw [getSessionEvents_insert_self] at hfirst
      rcases hrows : t.getSessionEvents row.sessionId with _ | ⟨head, rest⟩
      · -- a first row goes from no state, since none was reached
        rw [hrows] at hfirst
        obtain rfl : row.toRow t.nextId createdAt = first := Option.some.inj hfirst
        rcases hfrom : row.fromState with _ | state
        · have hallowed := hrow.1
          rw [hfrom] at hallowed
          exact ⟨hfrom, hallowed⟩
        · obtain ⟨row', hrow', -⟩ := hrow.2 state hfrom
          rw [hrows] at hrow'
          cases hrow'
      · rw [hrows] at hfirst
        exact ht.first row.sessionId first (by rw [hrows]; exact hfirst)
    · rw [getSessionEvents_insert_of_ne hne] at hfirst
      exact ht.first sessionId first hfirst
  states row' hrow' := by
    rcases List.mem_append.mp hrow' with hrow' | hrow'
    · exact ht.states row' hrow'
    · obtain rfl := List.mem_singleton.mp hrow'
      have hallowed := hrow.1
      constructor
      · intro (hstate : row.toState = _)
        exact not_allowed_browsing _ (hstate ▸ hallowed)
      · intro (hstate : row.toState = _)
        have hfrom := eq_browsing_of_allowed_quoted (hstate ▸ hallowed)
        exact (ht.reached (hrow.2 _ hfrom)).1 rfl

theorem SessionEvents.Begun.paidRows_pos {t : SessionEvents} (ht : t.Begun) {sessionId : String}
    (h : t.getSessionEvents sessionId ≠ []) : 0 < t.paidRows sessionId := by
  obtain ⟨head, rest, hrows⟩ := List.exists_cons_of_ne_nil h
  have hpaid := (ht.first sessionId head (by rw [hrows]; rfl)).2
  exact List.countP_pos_iff.mpr ⟨head, by rw [hrows]; exact List.mem_cons_self, by simpa using hpaid⟩

theorem SessionEvents.Begun.not_allowed_paid {t : SessionEvents} (ht : t.Begun)
    {sessionId : String} (h : t.getSessionEvents sessionId ≠ []) :
    ¬ Allowed (t.getCurrentState sessionId) .paid := by
  intro hallowed
  rcases eq_none_or_quoted_of_allowed_paid hallowed with hnone | hquoted
  · exact h (getCurrentState_eq_none.mp hnone)
  · exact (ht.reached (reached_of_getCurrentState hquoted)).2 rfl

theorem SessionEvents.paidRows_insert (t : SessionEvents) (row : NewRow) (createdAt : ℕ)
    (sessionId : String) : (t.insert row createdAt).paidRows sessionId =
      t.paidRows sessionId + if row.sessionId = sessionId ∧ row.toState = .paid then 1 else 0 := by
  by_cases hne : row.sessionId = sessionId
  · subst hne
    simp [paidRows, getSessionEvents_insert_self, List.countP_append, NewRow.toRow,
      List.countP_cons]
  · simp [paidRows, getSessionEvents_insert_of_ne hne, hne]

def KeepingBegun (cfg : System.Config (system config)) : Prop :=
  Keeping cfg ∧ cfg.env.events.Begun

theorem step_keepingBegun {cfg cfg' : System.Config (system config)}
    {mv : System.Move (system config)} (hI : KeepingBegun cfg)
    (h : System.step cfg mv = some cfg') : KeepingBegun cfg' := by
  refine ⟨step_keeping hI.1 h, ?_⟩
  rcases step_events h with ⟨hevents, -⟩ | ⟨row, createdAt, hins, hevents⟩
  · rw [hevents]; exact hI.2
  · rw [hevents]; exact hI.2.insert (grounded_of_inserts hI.1 hins)

theorem keepingBegun_start (now : Instant) : KeepingBegun (start config now) := by
  refine ⟨keeping_start now, ?_, ?_⟩
  · intro sessionId row hrow
    simp [start, genesis, SessionEvents.empty, SessionEvents.getSessionEvents] at hrow
  · intro row hrow
    simp [start, genesis, SessionEvents.empty] at hrow

/-- No `INSERT` of `PAID` comes too late: the session has no row yet. -/
def FreshPaid (cfg : System.Config (system config)) (mv : System.Move (system config)) : Prop :=
  ∀ row createdAt, Inserts cfg mv row createdAt → row.toState = .paid →
    cfg.env.events.getSessionEvents row.sessionId = []

def PaidOnce (cfg : System.Config (system config)) : Prop :=
  ∀ sessionId, cfg.env.events.paidRows sessionId ≤ 1

theorem step_paidOnce_iff {cfg cfg' : System.Config (system config)}
    {mv : System.Move (system config)} (hI : KeepingBegun cfg)
    (h : System.step cfg mv = some cfg') : PaidOnce cfg' ↔ PaidOnce cfg ∧ FreshPaid cfg mv := by
  rcases step_events h with ⟨hevents, hno⟩ | ⟨row, createdAt, hins, hevents⟩
  · simp only [PaidOnce, hevents]
    constructor
    · intro hp
      exact ⟨hp, fun row createdAt hins => absurd hins (hno row createdAt)⟩
    · intro hp
      exact hp.1
  simp only [PaidOnce, hevents, SessionEvents.paidRows_insert]
  constructor
  · intro hp
    constructor
    · intro sessionId
      have hsum := hp sessionId
      omega
    · intro row' createdAt' hins' hpaid
      obtain ⟨rfl, rfl⟩ := inserts_unique hins hins'
      by_contra hrows
      have hpos := hI.2.paidRows_pos hrows
      have htwo := hp row.sessionId
      simp only [hpaid, and_self, if_true] at htwo
      omega
  · rintro ⟨hp, hfresh⟩ sessionId
    by_cases hrow : row.sessionId = sessionId ∧ row.toState = .paid
    · have hnone : cfg.env.events.paidRows row.sessionId = 0 := by
        rw [SessionEvents.paidRows, hfresh row createdAt hins hrow.2]; rfl
      rw [if_pos hrow, ← hrow.1, hnone]
    · rw [if_neg hrow]; exact hp sessionId

open Classical in
theorem answer_paidRows (sessionId : String) (o : Oracle) (env : Env) (c : Command) :
    env.events.paidRows sessionId +
        (if InsertsPaid sessionId c (answer config o env c).1 then 1 else 0) ≤
      (answer config o env c).2.events.paidRows sessionId := by
  split
  · next hG =>
    cases c with
    | insertEvent row =>
      obtain ⟨hid, hpaid, hanswer⟩ := hG
      rw [answer_insertEvent_events (fault_ne_lost_of_answer hanswer), SessionEvents.paidRows_insert,
        if_pos ⟨hid, hpaid⟩]
    | _ => cases hG
  · rcases answer_cases config o env c with henv | ⟨row, -, -, henv⟩
    · rw [henv]; exact Nat.le_refl _
    · rw [henv, SessionEvents.paidRows_insert]; exact Nat.le_add_right _ _

/-- In every interleaving, a session has no more tokens than `PAID` rows. -/
theorem tokens_le_paidRows (now : Instant) {mvs : List (System.Move (system config))}
    {cfg : System.Config (system config)} (h : System.run (start config now) mvs = some cfg)
    (sessionId : String) : tokens cfg sessionId ≤ cfg.env.events.paidRows sessionId := by
  have hpassed : System.passed (InsertsPaid sessionId)
      (fun reply => Reply.isTokenFor sessionId reply = true) cfg ≤
        cfg.env.events.paidRows sessionId := by
    refine System.run_invariant (I := fun cfg => System.passed (InsertsPaid sessionId)
      (fun reply => Reply.isTokenFor sessionId reply = true) cfg ≤
        cfg.env.events.paidRows sessionId) (fun hI hstep => ?_) h (Nat.zero_le _)
    refine System.step_passed_le (n := fun env => env.events.paidRows sessionId)
      (guarded_insertsPaid config sessionId) (answer_paidRows sessionId) (fun ev m env => ?_) hstep hI
    exact Nat.le_of_eq (congrArg (·.paidRows sessionId) (happen_events ev m).symm)
  exact Nat.le_trans (System.countP_replies_le_passed _ (fun _ => id) cfg) hpassed

/-- **One payment buys at most one session** in every state of a run exactly where no
    `INSERT` of `PAID` comes too late. -/
theorem one_session_iff (now : Instant) {mvs : List (System.Move (system config))}
    {cfg : System.Config (system config)} (h : System.run (start config now) mvs = some cfg) :
    (∀ sessionId, tokens cfg sessionId ≤ 1 ∧ cfg.env.events.paidRows sessionId ≤ 1) ↔
      System.AllMoves FreshPaid (start config now) mvs := by
  constructor
  · intro hone
    exact (System.allMoves_of_run (J := PaidOnce) step_keepingBegun
      (fun hI hstep hp => (step_paidOnce_iff hI hstep).mp hp) h (keepingBegun_start now)
      fun sessionId => (hone sessionId).2).2
  · intro hfresh sessionId
    have hpaid : PaidOnce cfg :=
      (System.run_invariant_of_allMoves (I := fun cfg => KeepingBegun cfg ∧ PaidOnce cfg)
        (fun hI hP hstep => ⟨step_keepingBegun hI.1 hstep, (step_paidOnce_iff hI.1 hstep).mpr ⟨hI.2, hP⟩⟩)
        h hfresh ⟨keepingBegun_start now, fun sessionId => Nat.zero_le _⟩).2
    exact ⟨Nat.le_trans (tokens_le_paidRows now h sessionId) (hpaid sessionId), hpaid sessionId⟩

/-- Two confirmations of one payment that run in step: each asks before the other's
    answer. -/
def Sample.inStep : List (System.Move (system Sample.config)) :=
  [.happen (.mine buy), .arrive confirm, .arrive confirm] ++
    (List.replicate 2 [answered 0, answered 1, resumed 0, resumed 1]).flatten ++
    (List.replicate 4 [answered 0, answered 1, answered 0, answered 1, resumed 0, resumed 1]).flatten

theorem Sample.run_inStep :
    (System.run (start Sample.config Sample.now) inStep).any (fun cfg =>
      tokens cfg "0" = 2 ∧ cfg.env.events.paidRows "0" = 2) = true := by
  decide +kernel

/-- Both get a token for session 0. -/
theorem two_sessions : ∃ cfg,
    System.run (start Sample.config Sample.now) Sample.inStep = some cfg ∧
      tokens cfg "0" = 2 ∧ cfg.env.events.paidRows "0" = 2 := by
  obtain ⟨cfg, hrun, hcfg⟩ := (Option.any_eq_true _ _).mp Sample.run_inStep
  exact ⟨cfg, hrun, of_decide_eq_true hcfg⟩

theorem one_session_iff_inStep : ∃ cfg,
    System.run (start Sample.config Sample.now) Sample.inStep = some cfg ∧
      ((∀ sessionId, tokens cfg sessionId ≤ 1 ∧ cfg.env.events.paidRows sessionId ≤ 1) ↔
        System.AllMoves FreshPaid (start Sample.config Sample.now) Sample.inStep) := by
  obtain ⟨cfg, hrun, -⟩ := (Option.any_eq_true _ _).mp Sample.run_inStep
  exact ⟨cfg, hrun, one_session_iff Sample.now hrun⟩

end DVoD.Orchestrator
