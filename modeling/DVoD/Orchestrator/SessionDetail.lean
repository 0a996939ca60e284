import DVoD.Async.History
import DVoD.Log.Latest
import DVoD.Orchestrator.Promises

/-!
# The detail of a session

`GET /sessions/:id` lists the rows of a session with its state, relay and expiry, which it
reads with four queries, one after the other.  `detail_projected_iff` says when the three
are those of the rows in the same reply.
-/

namespace DVoD.Orchestrator

open DVoD.Async DVoD.Async.Program DVoD.Async.System DVoD.Log DVoD.Session

section Detail

variable {config : Config} {β : Type} {f : SessionEventRow → Option β} {sessionId id : String}
  {t t' : SessionEvents} {status : ℕ} {state : Option SessionState} {relay : Option String}
  {expiresAt : Option ℕ} {events : List SessionEventRow}

/-- The state, the relay and the expiry are projections of the rows. -/
structure Projected (state : Option SessionState) (relay : Option String) (expiresAt : Option ℕ)
    (events : List SessionEventRow) : Prop where
  state : state = events.getLast?.map SessionEventRow.toState
  relay : relay = latest SessionEventRow.relay events
  expiresAt : expiresAt = latest SessionEventRow.expiresAt events

/-- The rows of the session that were inserted between. -/
def insertedBetween (sessionId : String) (t t' : SessionEvents) : List SessionEventRow :=
  (t'.getSessionEvents sessionId).drop (t.getSessionEvents sessionId).length

/-- What these rows say, if they say anything, the log has said before. -/
def Leaves (f : SessionEventRow → Option β) (sessionId : String) (t t' : SessionEvents) : Prop :=
  ∀ b, latest f (insertedBetween sessionId t t') = some b →
    latest f (t.getSessionEvents sessionId) = some b

/-- The tables at the four queries, and what was inserted since the first. -/
structure LeftAlone (sessionId : String) (t₁ t₂ t₃ t₄ : SessionEvents) : Prop where
  state : Leaves (fun row => some row.toState) sessionId t₁ t₂
  relay : Leaves SessionEventRow.relay sessionId t₁ t₃
  expiresAt : Leaves SessionEventRow.expiresAt sessionId t₁ t₄

/-- The tables that the queries of a handler have seen, in turn. -/
def tablesSeen (task : ℕ) (cfg : System.Config (system config)) (mvs : List (Move (system config))) :
    List SessionEvents :=
  (heard task cfg mvs).map fun x => x.env.events

/-! ### Two tables -/

theorem getSessionEvents_of_extends (h : t.rows <+: t'.rows) :
    t'.getSessionEvents sessionId =
      t.getSessionEvents sessionId ++ insertedBetween sessionId t t' := by
  obtain ⟨later, hlater⟩ := h.filter fun row => decide (row.sessionId = sessionId)
  have hevents : t'.getSessionEvents sessionId = t.getSessionEvents sessionId ++ later := hlater.symm
  rw [insertedBetween, hevents, List.drop_left]

theorem latest_eq_iff_leaves (h : t.rows <+: t'.rows) :
    latest f (t'.getSessionEvents sessionId) = latest f (t.getSessionEvents sessionId) ↔
      Leaves f sessionId t t' := by
  rw [getSessionEvents_of_extends h, latest_append, Leaves]
  cases hnew : latest f (insertedBetween sessionId t t') with
  | none => simp
  | some b => simp [eq_comm]

theorem latest_toState (rows : List SessionEventRow) :
    latest (fun row => some row.toState) rows = rows.getLast?.map SessionEventRow.toState := by
  rw [latest, List.getLast?_eq_head?_reverse]
  cases rows.reverse <;> rfl

/-! ### The four queries -/

theorem eq_of_select {o : Oracle} {a b : β} (h : some b = o.select a) : b = a :=
  Option.some.inj (Option.ite_none_right_eq_some.mp h.symm).2.symm

/-- A handler that goes on after a query has been told its answer. -/
theorem leads_respond_bind {thrown : Thrown} {c : Command} {f : Found c → Handler Reply}
    {hs : List (Heard Env Command Answer)} {reply : Reply}
    (h : Leads (respond (awaitOr thrown c >>= f)) hs (.done reply))
    (hreply : reply ≠ ⟨500, .uncaught thrown⟩) :
    ∃ e a hs', hs = ⟨e, c, some a⟩ :: hs' ∧ Leads (respond (f a)) hs' (.done reply) := by
  rw [respond, run_bind] at h
  obtain ⟨e, r, hs', rfl, hrest⟩ := Leads.of_await (c := c) h
  cases r with
  | none => exact absurd (Leads.of_done hrest).2.symm hreply
  | some a => exact ⟨e, a, hs', rfl, hrest⟩

theorem leads_sessionDetail (config : Config) {hs : List (Heard Env Command Answer)}
    (h : Leads (handle config (.sessionDetail id)) hs
      (.done ⟨status, .detail sessionId state relay expiresAt events⟩)) :
    events ≠ [] ∧ ∃ e₁ e₂ e₃ e₄, hs = [⟨e₁, .selectEvents id, some events⟩,
      ⟨e₂, .selectToState id, some state⟩, ⟨e₃, .selectRelay id, some relay⟩,
      ⟨e₄, .selectExpiresAt id, some expiresAt⟩] := by
  have hdetail : (⟨status, .detail sessionId state relay expiresAt events⟩ : Reply) ≠
      ⟨500, .uncaught .query⟩ := nofun
  obtain ⟨e₁, events', hs₁, rfl, h₁⟩ := leads_respond_bind h hdetail
  split at h₁
  · have hnone := (Leads.of_done h₁).2
    cases hnone
  next hevents =>
  obtain ⟨e₂, state', hs₂, rfl, h₂⟩ := leads_respond_bind h₁ hdetail
  obtain ⟨e₃, relay', hs₃, rfl, h₃⟩ := leads_respond_bind h₂ hdetail
  obtain ⟨e₄, expiresAt', hs₄, rfl, h₄⟩ := leads_respond_bind h₃ hdetail
  obtain ⟨rfl, hreply⟩ := Leads.of_done h₄
  cases hreply
  exact ⟨hevents, e₁, e₂, e₃, e₄, rfl⟩

/-- **When the detail of a session is a snapshot.**  In every interleaving, `GET /sessions/:id`
    answers with the state, the relay and the expiry of the very rows that it lists exactly
    where the rows that others insert between its first query and the one for the state
    (the relay, the expiry) leave the session's last state (relay, expiry) as it was. -/
theorem detail_projected_iff (config : Config) (m : Memory) (env : Env)
    {mvs : List (Move (system config))} {cfg : System.Config (system config)} {task : ℕ}
    (h : run ⟨m, env, []⟩ mvs = some cfg) (hreq : (requests mvs)[task]? = some (.sessionDetail id))
    (hreply : cfg.tasks[task]? =
      some (.done ⟨status, .detail sessionId state relay expiresAt events⟩)) :
    Projected state relay expiresAt events ↔
      ∃ t₁ t₂ t₃ t₄, tablesSeen task ⟨m, env, []⟩ mvs = [t₁, t₂, t₃, t₄] ∧ LeftAlone id t₁ t₂ t₃ t₄ := by
  obtain ⟨req, hreq', hlead⟩ := leads_heard h (Nat.zero_le task) hreply
  obtain rfl := Option.some.inj (hreq'.symm.trans hreq)
  obtain ⟨-, e₁, e₂, e₃, e₄, hheard⟩ := leads_sessionDetail config hlead
  have hspec (x : Heard Env Command Answer) (hx : x ∈ heard task ⟨m, env, []⟩ mvs) :
      ∃ o, x.answer = (answer config o x.env x.command).1 :=
    (heard_spec (system_observes config) h hx).2
  have hordered := heard_ordered (system_observes config) task h
  rw [hheard] at hspec hordered
  simp only [List.forall_mem_cons] at hspec
  obtain ⟨⟨o₁, h₁⟩, ⟨o₂, h₂⟩, ⟨o₃, h₃⟩, ⟨o₄, h₄⟩, -⟩ := hspec
  obtain rfl := eq_of_select h₁
  obtain rfl := eq_of_select h₂
  obtain rfl := eq_of_select h₃
  obtain rfl := eq_of_select h₄
  have hlater := (List.pairwise_cons.mp hordered).1
  simp only [List.forall_mem_cons] at hlater
  obtain ⟨hstate, hrelay, hexpiresAt, -⟩ := hlater
  have hleft : Projected (e₂.events.getCurrentState id) (e₃.events.getCurrentRelay id)
      (e₄.events.getExpiresAt id) (e₁.events.getSessionEvents id) ↔
      LeftAlone id e₁.events e₂.events e₃.events e₄.events := by
    constructor
    · intro hproj
      refine ⟨?_, (latest_eq_iff_leaves hrelay).mp hproj.relay,
        (latest_eq_iff_leaves hexpiresAt).mp hproj.expiresAt⟩
      apply (latest_eq_iff_leaves hstate).mp
      rw [latest_toState, latest_toState]
      exact hproj.state
    · intro halone
      refine ⟨?_, (latest_eq_iff_leaves hrelay).mpr halone.relay,
        (latest_eq_iff_leaves hexpiresAt).mpr halone.expiresAt⟩
      have := (latest_eq_iff_leaves hstate).mpr halone.state
      rwa [latest_toState, latest_toState] at this
  rw [hleft, tablesSeen, hheard]
  constructor
  · intro halone
    exact ⟨_, _, _, _, rfl, halone⟩
  · rintro ⟨t₁, t₂, t₃, t₄, htables, halone⟩
    cases htables
    exact halone

end Detail

/-! ### A session that is ended meanwhile -/

namespace Sample

/-- Task 1 asks for the detail of the session that task 0 has opened; after its first query
    task 2 ends the session. -/
def endedMeanwhile : List (Move (system config)) :=
  bought ++ [.arrive (.sessionDetail "0"), answered 1, .arrive (.endSession "0"), answered 2, answered 2,
    answered 2, answered 2, resumed 2, answered 1, answered 1, answered 1]

theorem run_endedMeanwhile : ∃ cfg state relay expiresAt events,
    run (start config now) endedMeanwhile = some cfg ∧
    cfg.tasks[1]? = some (.done ⟨200, .detail "0" state relay expiresAt events⟩) ∧
    state = some .expiredNormal ∧ events.getLast?.map SessionEventRow.toState = some .active := by
  have hany : (run (start config now) endedMeanwhile).any (fun cfg =>
      ((cfg.tasks[1]?).bind Program.result).any fun reply =>
        match reply.body with
        | .detail sessionId state _ _ events =>
            reply.status = 200 ∧ sessionId = "0" ∧ state = some .expiredNormal ∧
              events.getLast?.map SessionEventRow.toState = some .active
        | _ => False) = true := by
    decide +kernel
  obtain ⟨cfg, hrun, hcfg⟩ := (Option.any_eq_true ..).mp hany
  obtain ⟨⟨status, body⟩, hresult, hreply⟩ := (Option.any_eq_true ..).mp hcfg
  obtain ⟨process, htask, hdone⟩ := Option.bind_eq_some_iff.mp hresult
  obtain rfl := Program.result_eq_some.mp hdone
  split at hreply
  · next sessionId state relay expiresAt events hbody =>
    obtain ⟨rfl, rfl, hended⟩ := of_decide_eq_true hreply
    obtain rfl := hbody
    exact ⟨cfg, state, relay, expiresAt, events, hrun, htask, hended⟩
  · cases of_decide_eq_true hreply

end Sample

theorem detail_projected_iff_endedMeanwhile : ∃ cfg state relay expiresAt events,
    run (start Sample.config Sample.now) Sample.endedMeanwhile = some cfg ∧
    (Projected state relay expiresAt events ↔ ∃ t₁ t₂ t₃ t₄,
      tablesSeen 1 (start Sample.config Sample.now) Sample.endedMeanwhile = [t₁, t₂, t₃, t₄] ∧
      LeftAlone "0" t₁ t₂ t₃ t₄) := by
  obtain ⟨cfg, state, relay, expiresAt, events, hrun, htask, -⟩ := Sample.run_endedMeanwhile
  exact ⟨cfg, state, relay, expiresAt, events, hrun,
    detail_projected_iff Sample.config _ _ hrun rfl htask⟩

/-- The reply says that the session has ended, and lists it as active. -/
theorem detail_torn :
    ¬ ∀ (config : Config) (m : Memory) (env : Env) (mvs : List (Move (system config)))
        (cfg : System.Config (system config)) (task status : ℕ) (id sessionId : String)
        (state : Option SessionState) (relay : Option String) (expiresAt : Option ℕ)
        (events : List SessionEventRow), run ⟨m, env, []⟩ mvs = some cfg →
      (requests mvs)[task]? = some (.sessionDetail id) →
      cfg.tasks[task]? = some (.done ⟨status, .detail sessionId state relay expiresAt events⟩) →
      Projected state relay expiresAt events := by
  intro hall
  obtain ⟨cfg, state, relay, expiresAt, events, hrun, htask, hstate, hlast⟩ := Sample.run_endedMeanwhile
  have hproj := hall Sample.config _ _ _ cfg 1 200 "0" "0" state relay expiresAt events hrun rfl htask
  have hactive := hproj.state
  rw [hstate, hlast] at hactive
  cases hactive

end DVoD.Orchestrator
