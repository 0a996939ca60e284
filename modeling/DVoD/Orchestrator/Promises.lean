import DVoD.Orchestrator.Server

/-!
# What every handler promises

`recordTransition` inserts only transitions of the table, from a state that the session
was in at some time.  This is all that survives the gap between its `SELECT` and its
`INSERT`; `tableProtocol` states it, and `system_observes` proves it for every route, so
that it holds in every interleaving.
-/

namespace DVoD.Orchestrator

open DVoD.Async DVoD.Async.Program DVoD.Session

/-! ### The protocol of the table -/

def SessionEvents.Reached (t : SessionEvents) (sessionId : String) (state : SessionState) : Prop :=
  ∃ row ∈ t.getSessionEvents sessionId, row.toState = state

/-- A transition of the table, from a state that the session has reached. -/
def NewRow.Grounded (t : SessionEvents) (row : NewRow) : Prop :=
  Allowed row.fromState row.toState ∧
    ∀ state, row.fromState = some state → t.Reached row.sessionId state

theorem SessionEvents.Reached.mono {t t' : SessionEvents} {sessionId : String}
    {state : SessionState} (h : t.Reached sessionId state) (ht : t.rows <+: t'.rows) :
    t'.Reached sessionId state := by
  obtain ⟨row, hrow, hstate⟩ := h
  exact ⟨row, (ht.filter _).subset hrow, hstate⟩

theorem SessionEvents.reached_of_getCurrentState {t : SessionEvents} {sessionId : String}
    {state : SessionState} (h : t.getCurrentState sessionId = some state) :
    t.Reached sessionId state := by
  obtain ⟨row, hrow, hstate⟩ := Option.map_eq_some_iff.mp h
  exact ⟨row, List.mem_of_getLast? hrow, hstate⟩

/-- The table only grows, and what is inserted is grounded in it. -/
def tableProtocol : Protocol Env Command Answer where
  rely e e' := e.events.rows <+: e'.events.rows
  pre e
    | .insertEvent row => row.Grounded e.events
    | _ => True
  post e
    | .selectToState sessionId, r => ∀ state, r = some (some state) → e.events.Reached sessionId state
    | _, _ => True
  refl _ := List.prefix_refl _
  trans := List.IsPrefix.trans

/-! ### The surroundings -/

theorem answer_rely (config : Config) (o : Oracle) (env : Env) (c : Command) :
    tableProtocol.rely env (answer config o env c).2 := by
  rcases answer_cases config o env c with h | ⟨row, -, -, h⟩
  · rw [h]; exact tableProtocol.refl env
  · rw [h]; exact List.prefix_append _ _

theorem answer_post (config : Config) (o : Oracle) (env : Env) (c : Command) :
    tableProtocol.post (answer config o env c).2 c (answer config o env c).1 := by
  cases c with
  | selectToState sessionId =>
    intro state hstate
    simp only [answer, Oracle.select] at hstate
    split at hstate
    · exact SessionEvents.reached_of_getCurrentState (Option.some.inj hstate)
    · cases hstate
  | _ => trivial

theorem happen_rely {config : Config} (event : Event config.escrow) (m : Memory) (env : Env) :
    tableProtocol.rely env (happen event (m, env)).2 := by
  simp only [tableProtocol, happen_events]
  exact List.prefix_refl _

/-! ### The handlers -/

section Keeps

variable {env : Env}

theorem keeps_awaitOr {thrown : Thrown} {c : Command}
    (hc : (Program.call c : Process (Answer c)).Keeps tableProtocol env) :
    (awaitOr thrown c).run.Keeps tableProtocol env := by
  apply hc.bind
  intro a _ _
  cases a <;> trivial

theorem keeps_call {c : Command} (hc : ∀ e, tableProtocol.pre e c) :
    (Program.call c : Process (Answer c)).Keeps tableProtocol env := by
  intro e _
  exact ⟨hc e, fun _ _ _ _ => trivial⟩

theorem keeps_getCurrentState (sessionId : String) :
    (getCurrentState sessionId).run.Keeps tableProtocol env :=
  keeps_awaitOr (keeps_call fun _ => trivial)

theorem keeps_getTier (sessionId : String) : (getTier sessionId).run.Keeps tableProtocol env :=
  keeps_awaitOr (keeps_call fun _ => trivial)

theorem keeps_getCurrentRelay (sessionId : String) :
    (getCurrentRelay sessionId).run.Keeps tableProtocol env :=
  keeps_awaitOr (keeps_call fun _ => trivial)

theorem keeps_transitionTier (sessionId : String) (options : TransitionOptions) :
    (transitionTier sessionId options).run.Keeps tableProtocol env := by
  rcases options with ⟨_, _ | tier, _, _⟩
  · exact keeps_getTier sessionId
  · trivial

theorem keeps_transitionFrom {sessionId : String} {toState : SessionState}
    {options : TransitionOptions} {current : Option SessionState}
    (hcurrent : ∀ state, current = some state → env.events.Reached sessionId state) :
    (transitionFrom sessionId toState options current).run.Keeps tableProtocol env := by
  simp only [transitionFrom, run_bind]
  rcases hcheck : checkTransition sessionId current toState with err | _
  · trivial
  · apply keeps_bind (keeps_transitionTier sessionId options)
    intro tier e he
    refine keeps_awaitOr fun e' he' => ⟨⟨checkTransition_eq_ok.mp hcheck, fun state hstate => ?_⟩,
      fun _ _ _ _ => trivial⟩
    -- the table has grown since the `SELECT`, and the row that was read is still in it
    exact (hcurrent state hstate).mono (tableProtocol.trans he he')

theorem keeps_recordTransition (sessionId : String) (toState : SessionState)
    (options : TransitionOptions) :
    (recordTransition sessionId toState options).run.Keeps tableProtocol env := by
  rw [recordTransition, run_bind]
  refine fun e₁ _ => ⟨trivial, fun e₂ current _ hcurrent => ?_⟩
  rcases current with _ | current
  · trivial
  · exact keeps_transitionFrom fun state hstate => hcurrent state (congrArg some hstate)

theorem keeps_broadcast (event : SessionEventRow) :
    (broadcast event).run.Keeps tableProtocol env := by
  intro _
  exact trivial

theorem keeps_recordAll (sessionId : String) (options : TransitionOptions)
    (transitions : List (SessionState × Option String)) :
    (recordAll sessionId options transitions).run.Keeps tableProtocol env := by
  induction transitions generalizing env with
  | nil => trivial
  | cons transition rest ih =>
    exact keeps_bind (keeps_recordTransition _ _ _) fun event _ _ =>
      keeps_bind (keeps_broadcast event) fun _ _ _ => ih

theorem keeps_confirmPurchase (config : Config) (txHash : String) (tier : Tier)
    (hours : SessionHours) (relay : CapabilityRecord) :
    (confirmPurchase config txHash tier hours relay).run.Keeps tableProtocol env := by
  refine keeps_bind (keeps_lift (keeps_call fun _ => trivial)) fun receipt _ _ => ?_
  split
  · trivial
  · exact keeps_bind (keeps_lift fun _ => trivial) fun _ _ _ =>
      keeps_bind (keeps_lift fun _ => trivial) fun m _ _ =>
      keeps_bind (keeps_recordAll _ _ _) fun _ _ _ => trivial

theorem keeps_sessionsRoute (config : Config) (tierParam hoursParam : String)
    (xSessionTx : Option String) :
    (sessionsRoute config tierParam hoursParam xSessionTx).run.Keeps tableProtocol env := by
  unfold sessionsRoute
  split
  · refine keeps_bind (keeps_awaitOr (keeps_call fun _ => trivial)) fun eligible _ _ => ?_
    split
    · trivial
    split
    · trivial
    · refine keeps_bind (keeps_lift fun _ => trivial) fun m _ _ => ?_
      split
      · trivial
      · apply keeps_tryCatch (keeps_confirmPurchase _ _ _ _ _)
        intro err _
        cases err <;> trivial
  · trivial

theorem keeps_conflict (err : Thrown) :
    (conflictOnInvalidTransition err).run.Keeps tableProtocol env := by
  cases err <;> trivial

theorem keeps_failover (sessionId : String) (tier : Tier) (failedRelay : String) :
    (failover sessionId tier failedRelay).run.Keeps tableProtocol env := by
  refine keeps_bind (keeps_recordTransition _ _ _) fun event _ _ =>
    keeps_bind (keeps_broadcast event) fun _ _ _ => ?_
  refine keeps_bind (keeps_recordTransition _ _ _) fun event _ _ =>
    keeps_bind (keeps_broadcast event) fun _ _ _ => ?_
  refine keeps_bind (keeps_awaitOr (keeps_call fun _ => trivial)) fun eligible _ _ => ?_
  split
  · trivial
  refine keeps_bind (keeps_recordTransition _ _ _) fun event _ _ =>
    keeps_bind (keeps_broadcast event) fun _ _ _ => ?_
  exact keeps_bind (keeps_recordTransition _ _ _) fun event _ _ =>
    keeps_bind (keeps_broadcast event) fun _ _ _ => trivial

theorem keeps_failoverRoute (sessionId : String) :
    (failoverRoute sessionId).run.Keeps tableProtocol env := by
  apply keeps_bind (keeps_getCurrentState sessionId)
  intro state _ _
  split
  · trivial
  refine keeps_bind (keeps_getTier sessionId) fun tier _ _ =>
    keeps_bind (keeps_getCurrentRelay sessionId) fun failedRelay _ _ => ?_
  split
  · exact keeps_tryCatch (keeps_failover _ _ _) fun err _ => keeps_conflict err
  · trivial

theorem keeps_endSessionRoute (sessionId : String) :
    (endSessionRoute sessionId).run.Keeps tableProtocol env := by
  apply keeps_bind (keeps_getCurrentState sessionId)
  intro state _ _
  split
  · trivial
  refine keeps_tryCatch ?_ fun err _ => keeps_conflict err
  exact keeps_bind (keeps_recordTransition _ _ _) fun event _ _ =>
    keeps_bind (keeps_broadcast event) fun _ _ _ => trivial

theorem keeps_sessionDetailRoute (sessionId : String) :
    (sessionDetailRoute sessionId).run.Keeps tableProtocol env := by
  refine keeps_bind (keeps_awaitOr (keeps_call fun _ => trivial)) fun events _ _ => ?_
  split
  · trivial
  · exact keeps_bind (keeps_getCurrentState sessionId) fun state _ _ =>
      keeps_bind (keeps_getCurrentRelay sessionId) fun relay _ _ =>
      keeps_bind (keeps_awaitOr (keeps_call fun _ => trivial)) fun expiresAt _ _ => trivial

end Keeps

/-- **Every route keeps the protocol of the table**, and so do the surroundings. -/
theorem system_observes (config : Config) : (system config).Observes tableProtocol where
  handler request env := by
    refine Program.Keeps.bind ?_ ?_
    · cases request with
      | sessions tier hours xSessionTx => exact keeps_sessionsRoute config tier hours xSessionTx
      | forceRelayFailure id => exact keeps_failoverRoute id
      | endSession id => exact keeps_endSessionRoute id
      | sessionDetail id => exact keeps_sessionDetailRoute id
    · intro reply _ _
      cases reply <;> trivial
  answer o env c := ⟨answer_rely config o env c, answer_post config o env c⟩
  happen event m env := happen_rely event m env

end DVoD.Orchestrator
