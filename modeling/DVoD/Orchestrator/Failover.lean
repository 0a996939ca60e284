import DVoD.Log.Latest
import DVoD.Orchestrator.Retries
import DVoD.Relay.TunnelSafety

/-!
# Failover and the tokens of a session

A token names the relay that the purchase chose, and a failover moves the session to
another relay without issuing a token.  `usable_iff` says when the log, the tokens given
and the relays agree about a session that is active.
-/

namespace DVoD.Orchestrator

open DVoD.Async DVoD.Async.Program DVoD.Async.System DVoD.Arc DVoD.Evm DVoD.Log DVoD.Relay DVoD.Session
  Sample

variable {config : Config} {s s' : Memory × Env} {tr : Trace} {sessionId : String}

/-! ### What the other routes add to the log -/

def InsertsFor (sessionId : String) (tr : Trace) : Prop :=
  ∀ ans ∈ tr, ∀ new, ans.1 = .insertEvent new → new.sessionId = sessionId

theorem InsertsFor.append {tr' : Trace} (h : InsertsFor sessionId tr) (h' : InsertsFor sessionId tr') :
    InsertsFor sessionId (tr ++ tr') := List.forall_mem_append.mpr ⟨h, h'⟩

theorem InsertsOnly.insertsFor {toState : SessionState} (h : InsertsOnly sessionId toState tr) :
    InsertsFor sessionId tr := by
  intro ans hans new hnew
  rcases h ans hans with hselect | ⟨new', hnew', hid, -⟩
  · rw [hnew] at hselect
    cases hselect
  · rw [hnew] at hnew'
    exact Command.insertEvent.inj hnew' ▸ hid

/-- However it ends, the routine adds rows without an expiry to the log of the session,
    and touches nothing else in the table. -/
def AddsTo (config : Config) (sessionId : String) {α : Type} (h : Handler α) : Prop :=
  ∀ {s s' tr a}, Runs config h.run s tr a s' → ∃ new, Appends s.2.events s'.2.events sessionId new ∧
    InsertsFor sessionId tr ∧ ∀ row ∈ new, row.expiresAt = none

section AddsTo

variable {α β : Type} {h : Handler α} {f : α → Handler β}

theorem addsTo_bind (hh : AddsTo config sessionId h) (hf : ∀ a, AddsTo config sessionId (f a)) :
    AddsTo config sessionId (h >>= f) := by
  intro s s' tr a hrun
  rcases evaluates_bind_run.mp hrun with ⟨e, rfl, hfirst⟩ | ⟨tr₁, x, s₁, tr₂, hfirst, hrest, rfl⟩
  · exact hh hfirst
  · obtain ⟨new₁, happends₁, hinserts₁, hexpiry₁⟩ := hh hfirst
    obtain ⟨new₂, happends₂, hinserts₂, hexpiry₂⟩ := hf x hrest
    exact ⟨new₁ ++ new₂, happends₁.trans happends₂, hinserts₁.append hinserts₂,
      List.forall_mem_append.mpr ⟨hexpiry₁, hexpiry₂⟩⟩

theorem addsTo_done {p : Except Thrown α} : AddsTo config sessionId (ExceptT.mk (Program.done p)) := by
  intro s s' tr a hrun
  obtain ⟨rfl, rfl, rfl⟩ := evaluates_done.mp hrun
  exact ⟨[], Appends.refl .., fun _ h => (by cases h), by simp⟩

theorem addsTo_pure (x : α) : AddsTo config sessionId (pure x : Handler α) := addsTo_done

theorem addsTo_recordTransition {toState : SessionState} {options : TransitionOptions}
    (hexpiry : options.expiresAt = none) :
    AddsTo config sessionId (recordTransition sessionId toState options) := by
  intro s s' tr a hrun
  obtain ⟨-, hinserts, new, happends, houtcome⟩ := runs_recordTransition hrun
  refine ⟨new, happends, hinserts.insertsFor, ?_⟩
  have hrow {row : SessionEventRow}
      (hrow : RowOf (s.2.events.getSessionEvents sessionId) sessionId toState options row) :
      row.expiresAt = none := by rw [hrow.expiresAt, hexpiry]; rfl
  cases houtcome with
  | recorded row h _ => simpa using hrow h
  | unanswered row new h _ => simpa using hrow h
  | invalid => simp
  | failed => simp

theorem addsTo_broadcast (event : SessionEventRow) : AddsTo config sessionId (broadcast event) := by
  intro s s' tr a hrun
  obtain ⟨hunchanged, rfl, -⟩ := runs_broadcast hrun
  exact ⟨[], .of_unchanged hunchanged, fun _ h => (by cases h), by simp⟩

theorem addsTo_awaitOr {e : Thrown} {c : Command} (hc : ∀ new, c ≠ .insertEvent new) :
    AddsTo config sessionId (awaitOr e c) := by
  intro s s' tr a hrun
  obtain ⟨r, hcall, -⟩ := runs_awaitOr hrun
  obtain ⟨o, env, henv, -, rfl, hs', -⟩ := runs_call hcall
  refine ⟨[], ?_, ?_, by simp⟩
  · rcases answer_cases config o env c with hanswer | ⟨new, rfl, -⟩
    · rw [hs', hanswer, henv]
      exact Appends.refl ..
    · exact absurd rfl (hc new)
  · intro ans hans new hnew
    rw [List.mem_singleton.mp hans] at hnew
    exact absurd hnew (hc new)

end AddsTo

def NoActive (tr : Trace) : Prop :=
  ∀ ans ∈ tr, ∀ new, ans.1 = .insertEvent new → new.toState ≠ .active

theorem NoActive.append {tr' : Trace} (h : NoActive tr) (h' : NoActive tr') : NoActive (tr ++ tr') :=
  List.forall_mem_append.mpr ⟨h, h'⟩

theorem InsertsOnly.noActive {toState : SessionState} (h : InsertsOnly sessionId toState tr)
    (hne : toState ≠ .active) : NoActive tr := by
  intro ans hans new hnew
  rcases h ans hans with hselect | ⟨new', hnew', -, hstate⟩
  · rw [hnew] at hselect
    cases hselect
  · rw [hnew] at hnew'
    rw [Command.insertEvent.inj hnew', hstate]
    exact hne

theorem SelectsOnly.noActive (h : SelectsOnly tr) : NoActive tr := by
  intro ans hans new hnew
  have hselect := h ans hans
  rw [hnew] at hselect
  cases hselect

/-- What a route other than a confirmation adds to the log of its session: nothing, a
    failover of the active session from its relay, or its end. -/
inductive Addition (t : SessionEvents) (sessionId : String) (tr : Trace) :
    List SessionEventRow → Prop
  | nothing : NoActive tr → Addition t sessionId tr []
  | failover {first rest relay} : t.getCurrentState sessionId = some .active →
      t.getCurrentRelay sessionId = some relay → first.toState = .relayUnreachable →
      first.relay = some relay → Addition t sessionId tr (first :: rest)
  | ended {row} : t.getCurrentState sessionId = some .active → row.toState = .expiredNormal →
      NoActive tr → Addition t sessionId tr [row]

/-- Run alone from the table `t`, the routine adds to the log of its session so. -/
def Adds (config : Config) (sessionId : String) (t : SessionEvents) {α : Type} (h : Handler α) : Prop :=
  ∀ {s s' tr a}, Runs config h.run s tr a s' → s.2.events = t →
    ∃ new, Appends t s'.2.events sessionId new ∧ InsertsFor sessionId tr ∧
      (∀ row ∈ new, row.expiresAt = none) ∧ Addition t sessionId tr new

section Adds

variable {t : SessionEvents} {α : Type}

theorem adds_done {p : Except Thrown α} :
    Adds config sessionId t (ExceptT.mk (Program.done p)) := by
  rintro s s' tr a hrun rfl
  obtain ⟨rfl, rfl, rfl⟩ := evaluates_done.mp hrun
  exact ⟨[], Appends.refl .., fun _ h => (by cases h), by simp, .nothing fun _ h => (by cases h)⟩

/-- A `SELECT` leaves the table as it is for what comes next. -/
theorem adds_select {c : Command} {h : Handler (Found c)} {f : Found c → Handler α}
    (found : SessionEvents → Found c) (hc : IsSelect c)
    (hh : ∀ {s s' tr a}, Runs config h.run s tr a s' → Selects s s' tr (found s.2.events) a)
    (hf : Adds config sessionId t (f (found t))) : Adds config sessionId t (h >>= f) := by
  rintro s s' tr a hrun rfl
  have hselects {r : Answer c} : SelectsOnly [⟨c, r⟩] := selectsOnly_singleton r hc
  have hfor {tr : Trace} (hs : SelectsOnly tr) : InsertsFor sessionId tr := by
    have hinserts : InsertsOnly sessionId .paid tr := hs.insertsOnly
    exact hinserts.insertsFor
  rcases evaluates_bind_run.mp hrun with ⟨e, rfl, hfirst⟩ | ⟨tr₁, x, s₁, tr₂, hfirst, hrest, rfl⟩
  · have hsel := hh hfirst
    obtain ⟨r, rfl⟩ := hsel.trace
    exact ⟨[], .of_unchanged hsel.unchanged, hfor hselects, by simp, .nothing hselects.noActive⟩
  · have hsel := hh hfirst
    obtain ⟨r, rfl⟩ := hsel.trace
    obtain ⟨-, hx⟩ | ⟨-, herr⟩ := hsel.outcome
    swap
    · cases herr
    obtain rfl := Except.ok.inj hx
    obtain ⟨new, happends, hinserts, hexpiry, haddition⟩ := hf hrest hsel.unchanged.events
    refine ⟨new, happends, (hfor hselects).append hinserts, hexpiry, ?_⟩
    cases haddition with
    | nothing hno => exact .nothing (hselects.noActive.append hno)
    | failover hactive hrelay hstate hfirst' => exact .failover hactive hrelay hstate hfirst'
    | ended hactive hstate hno => exact .ended hactive hstate (hselects.noActive.append hno)

theorem adds_conflict {h : Handler Reply} (hh : Adds config sessionId t h) :
    Adds config sessionId t (tryCatch h conflictOnInvalidTransition) := by
  intro s s' tr a hrun ht
  rcases evaluates_tryCatch_run.mp hrun with ⟨x, rfl, hfirst⟩ | ⟨tr₁, e, s₁, tr₂, hfirst, hcatch, rfl⟩
  · exact hh hfirst ht
  · cases e <;> obtain ⟨rfl, rfl, rfl⟩ := evaluates_done.mp hcatch <;>
      exact (List.append_nil tr₁).symm ▸ hh hfirst ht

theorem adds_transition {toState : SessionState} {options : TransitionOptions}
    {f : SessionEventRow → Handler Reply} (hexpiry : options.expiresAt = none)
    (hstate : toState ≠ .active) (hf : ∀ row, AddsTo config sessionId (f row))
    (hrows : ∀ {tr first rest}, first.toState = toState → first.relay = options.relay →
      Addition t sessionId tr (first :: rest)) :
    Adds config sessionId t (recordTransition sessionId toState options >>= f) := by
  rintro s s' tr a h rfl
  obtain ⟨new', happends', hfor, hexpiry'⟩ := addsTo_bind (addsTo_recordTransition hexpiry) hf h
  refine ⟨new', happends', hfor, hexpiry', ?_⟩
  rcases evaluates_bind_run.mp h with ⟨e, rfl, hfirst⟩ | ⟨tr₁, row, s₁, tr₂, hfirst, hrest, rfl⟩
  · obtain ⟨-, hinserts, new, happends, houtcome⟩ := runs_recordTransition hfirst
    obtain rfl : new = new' := happends.unique happends'
    cases houtcome with
    | unanswered row _ hrow _ => exact hrows hrow.toState hrow.relay
    | invalid => exact .nothing (hinserts.noActive hstate)
    | failed => exact .nothing (hinserts.noActive hstate)
  · obtain ⟨-, -, new, happends, houtcome⟩ := runs_recordTransition hfirst
    obtain ⟨rest, happendsRest, -⟩ := hf row hrest
    obtain rfl : new ++ rest = new' :=
      (happends.trans happendsRest).unique happends'
    cases houtcome with
    | recorded row hrow _ => exact hrows hrow.toState hrow.relay

end Adds

section Routes

variable {t : SessionEvents}

theorem adds_failover {tier : Tier} {relay : String}
    (hactive : t.getCurrentState sessionId = some .active)
    (hrelay : t.getCurrentRelay sessionId = some relay) :
    Adds config sessionId t (failover sessionId tier relay) := by
  refine adds_transition rfl (by simp) (fun row => ?_) fun hstate hfirst =>
    .failover hactive hrelay hstate hfirst
  refine addsTo_bind (addsTo_broadcast row) fun _ => ?_
  refine addsTo_bind (addsTo_recordTransition rfl) fun event => ?_
  refine addsTo_bind (addsTo_broadcast event) fun _ => ?_
  refine addsTo_bind (addsTo_awaitOr (by simp)) fun eligible => ?_
  split
  · exact addsTo_pure _
  refine addsTo_bind (addsTo_recordTransition rfl) fun event => ?_
  refine addsTo_bind (addsTo_broadcast event) fun _ => ?_
  refine addsTo_bind (addsTo_recordTransition rfl) fun event => ?_
  exact addsTo_bind (addsTo_broadcast event) fun _ => addsTo_pure _

theorem adds_failoverRoute : Adds config sessionId t (failoverRoute sessionId) := by
  refine adds_select (c := .selectToState sessionId) (fun t => t.getCurrentState sessionId) trivial
    runs_getCurrentState ?_
  split
  · exact adds_done
  next hactive =>
  refine adds_select (c := .selectTier sessionId) (fun t => t.getTier sessionId) trivial
    runs_getTier ?_
  refine adds_select (c := .selectRelay sessionId) (fun t => t.getCurrentRelay sessionId) trivial
    runs_getCurrentRelay ?_
  split
  · next relay _ hrelay =>
    exact adds_conflict (adds_failover (not_not.mp hactive) (Option.filter_eq_some_iff.mp hrelay).1)
  · exact adds_done

theorem adds_endSession (hactive : t.getCurrentState sessionId = some .active) :
    Adds config sessionId t (endSession sessionId) := by
  rintro s s' tr a h rfl
  obtain ⟨new', happends', hfor, hexpiry⟩ := addsTo_bind (addsTo_recordTransition rfl) (fun row =>
    addsTo_bind (addsTo_broadcast row) fun _ => addsTo_pure _) h
  refine ⟨new', happends', hfor, hexpiry, ?_⟩
  rcases evaluates_bind_run.mp h with ⟨e, rfl, hfirst⟩ | ⟨tr₁, row, s₁, tr₂, hfirst, hrest, rfl⟩
  · obtain ⟨-, hinserts, new, happends, houtcome⟩ := runs_recordTransition hfirst
    obtain rfl : new = new' := happends.unique happends'
    have hno := hinserts.noActive (by simp)
    cases houtcome with
    | unanswered row _ hrow _ => exact .ended hactive hrow.toState hno
    | invalid => exact .nothing hno
    | failed => exact .nothing hno
  · obtain ⟨-, hinserts, new, happends, houtcome⟩ := runs_recordTransition hfirst
    rcases evaluates_bind_run.mp hrest with ⟨e, -, hbroadcast⟩ | ⟨tr₃, _, s₂, tr₄, hbroadcast, hdone, rfl⟩
    · cases (runs_broadcast hbroadcast).2.2
    obtain ⟨hunchanged, rfl, -⟩ := runs_broadcast hbroadcast
    obtain ⟨rfl, rfl, rfl⟩ := evaluates_done.mp hdone
    rw [hunchanged.events] at happends'
    obtain rfl : new = new' := happends.unique happends'
    have hno := hinserts.noActive (by simp)
    simp only [List.append_nil]
    cases houtcome with
    | recorded row hrow _ => exact .ended hactive hrow.toState hno

theorem adds_endSessionRoute : Adds config sessionId t (endSessionRoute sessionId) := by
  refine adds_select (c := .selectToState sessionId) (fun t => t.getCurrentState sessionId) trivial
    runs_getCurrentState ?_
  split
  · exact adds_done
  next hactive =>
  exact adds_conflict (adds_endSession (not_not.mp hactive))

theorem adds_sessionDetailRoute : Adds config sessionId t (sessionDetailRoute sessionId) := by
  refine adds_select (c := .selectEvents sessionId) (fun t => t.getSessionEvents sessionId) trivial
    (fun h => runs_select (fun t => t.getSessionEvents sessionId) (fun _ _ => rfl) h) ?_
  split
  · exact adds_done
  refine adds_select (c := .selectToState sessionId) (fun t => t.getCurrentState sessionId) trivial
    runs_getCurrentState ?_
  refine adds_select (c := .selectRelay sessionId) (fun t => t.getCurrentRelay sessionId) trivial
    runs_getCurrentRelay ?_
  exact adds_select (c := .selectExpiresAt sessionId) (fun t => t.getExpiresAt sessionId) trivial
    (fun h => runs_select (fun t => t.getExpiresAt sessionId) (fun _ _ => rfl) h) adds_done

end Routes

/-! ### What a request does to one session -/

def Reply.tokenFor (sessionId : String) (reply : Reply) : Option String :=
  match reply.body with
  | .session session =>
      if reply.status = 200 ∧ session.sessionId = sessionId then some session.token else none
  | _ => none

theorem tokenFor_eq_none {reply : Reply} (h : ¬ reply.body.IsSession) :
    reply.tokenFor sessionId = none := by
  rcases reply with ⟨status, _ | _ | _ | _ | _ | _ | _⟩ <;>
    simp_all [Reply.tokenFor, Body.IsSession]

def ActiveFailed (sessionId : String) (tr : Trace) : Prop :=
  ∃ new, ⟨.insertEvent new, none⟩ ∈ tr ∧ new.sessionId = sessionId ∧ new.toState = .active

theorem NoActive.not_activeFailed (h : NoActive tr) : ¬ ActiveFailed sessionId tr := by
  rintro ⟨new, hmem, _, hstate⟩
  exact h _ hmem new rfl hstate

theorem InsertsFor.not_activeFailed {id : String} (h : InsertsFor id tr) (hne : id ≠ sessionId) :
    ¬ ActiveFailed sessionId tr := by
  rintro ⟨new, hmem, hid, _⟩
  exact hne ((h _ hmem new rfl).symm.trans hid)

theorem Undisturbed.not_activeFailed (h : Undisturbed tr) : ¬ ActiveFailed sessionId tr := by
  rintro ⟨_, hmem, _, _⟩
  exact h _ hmem rfl

theorem activeFailed_cons {ans : Answered Answer} (h : ∀ new, ans.1 ≠ .insertEvent new) :
    ActiveFailed sessionId (ans :: tr) ↔ ActiveFailed sessionId tr := by
  apply exists_congr
  intro new
  apply and_congr_left
  intro _
  rw [List.mem_cons, or_iff_right_iff_imp]
  intro heq
  exact absurd (congrArg Sigma.fst heq).symm (h new)

def purchaseStates : List SessionState := [.paid, .tokenIssued, .tunnelOpen, .active]

/-- The rows are those of a confirmed purchase, as far as they were recorded. -/
structure BoughtRows (c : Confirmation) (rows : List SessionEventRow) : Prop where
  states : rows.map SessionEventRow.toState <+: purchaseStates
  values : ∀ row ∈ rows, row.relay = some c.relay.operator ∧ row.expiresAt = some c.expiresAt

def Confirmation.token (config : Config) (c : Confirmation) : String :=
  issueSessionToken config.sign c.payload config.secret

/-- What a request does to the log of a session, and what token it gives for it. -/
inductive Effect (config : Config) (t : SessionEvents) (sessionId : String) (tr : Trace)
    (token : Option String) : List SessionEventRow → Prop
  | quiet : token = none → ¬ ActiveFailed sessionId tr → Effect config t sessionId tr token []
  | failover {first rest relay} : token = none → t.getCurrentState sessionId = some .active →
      t.getCurrentRelay sessionId = some relay → first.toState = .relayUnreachable →
      first.relay = some relay → (∀ row ∈ first :: rest, row.expiresAt = none) →
      Effect config t sessionId tr token (first :: rest)
  | ended {row} : token = none → t.getCurrentState sessionId = some .active →
      row.toState = .expiredNormal → Effect config t sessionId tr token [row]
  | bought (c : Confirmation) {new} : t.getSessionEvents sessionId = [] → BoughtRows c new →
      new.map SessionEventRow.toState = purchaseStates → token = some (c.token config) →
      ¬ ActiveFailed sessionId tr → Effect config t sessionId tr token new
  | unfinished (c : Confirmation) {new} : t.getSessionEvents sessionId = [] → BoughtRows c new →
      new ≠ [] → token = none →
      (new.map SessionEventRow.toState = purchaseStates → ActiveFailed sessionId tr) →
      Effect config t sessionId tr token new

theorem Addition.effect {t t' : SessionEvents} {id : String} {new : List SessionEventRow}
    (happends : Appends t t' id new) (hfor : InsertsFor id tr)
    (hexpiry : ∀ row ∈ new, row.expiresAt = none) (h : Addition t id tr new) (sessionId : String) :
    ∃ new', t'.getSessionEvents sessionId = t.getSessionEvents sessionId ++ new' ∧
      Effect config t sessionId tr none new' := by
  by_cases hid : id = sessionId
  · subst hid
    refine ⟨new, happends.self, ?_⟩
    cases h with
    | nothing hno => exact .quiet rfl hno.not_activeFailed
    | failover hactive hrelay hstate hfirst => exact .failover rfl hactive hrelay hstate hfirst hexpiry
    | ended hactive hstate _ => exact .ended rfl hactive hstate
  · refine ⟨[], ?_, .quiet rfl (hfor.not_activeFailed hid)⟩
    rw [happends.others sessionId (Ne.symm hid), List.append_nil]

theorem Outcomes.insertsFor {options : TransitionOptions} {rows new : List SessionEventRow}
    {transitions : List (SessionState × Option String)} {a : Except Thrown Unit}
    (h : Outcomes sessionId options rows transitions tr a new) : InsertsFor sessionId tr := by
  induction h with
  | nil rows => exact fun _ h => by cases h
  | next hinserts _ _ ih => exact hinserts.insertsFor.append ih
  | stop hinserts _ => exact hinserts.insertsFor

theorem expiresAt_ne_zero (c : Confirmation) : c.expiresAt ≠ 0 := by
  have hhours := c.hours.2.1
  simp only [Confirmation.expiresAt, expiryOf]
  omega

theorem Confirms.effect {request : Request} {c : Confirmation} {a : Except Thrown Unit}
    {new : List SessionEventRow} (h : Confirms config request c s s' tr a new)
    (hbegun : s.2.events.Begun) (sessionId : String) :
    ∃ new', s'.2.events.getSessionEvents sessionId =
        s.2.events.getSessionEvents sessionId ++ new' ∧
      Effect config s.2.events sessionId tr ((c.reply config a).tokenFor sessionId) new' := by
  obtain ⟨eligible, tr', rfl, houtcomes⟩ := h.trace
  have hfailed : ActiveFailed sessionId (⟨.eligibleOperators c.tier, some eligible⟩ ::
      ⟨.getTransactionReceipt c.txHash, c.receipt⟩ :: tr') ↔ ActiveFailed sessionId tr' :=
    (activeFailed_cons (by simp)).trans (activeFailed_cons (by simp))
  by_cases hid : c.sessionId = sessionId
  · subst hid
    refine ⟨new, h.appends.self, ?_⟩
    have hrows : BoughtRows c new := by
      obtain ⟨hstates, hvalues⟩ := houtcomes.added
      refine ⟨hstates, fun row hrow => ⟨(hvalues row hrow).1, ?_⟩⟩
      rw [(hvalues row hrow).2]
      exact Option.filter_eq_some_iff.mpr ⟨rfl, by simpa using expiresAt_ne_zero c⟩
    have hnone (ha : a ≠ .ok ()) : (c.reply config a).tokenFor c.sessionId = none := by
      rcases a with e | _
      · rfl
      · exact absurd rfl ha
    have hquiet (hnew : new = []) : Effect config s.2.events c.sessionId
        (⟨.eligibleOperators c.tier, some eligible⟩ ::
          ⟨.getTransactionReceipt c.txHash, c.receipt⟩ :: tr')
        ((c.reply config a).tokenFor c.sessionId) new := by
      subst hnew
      obtain ⟨hinserts, ha⟩ := houtcomes.of_nothing
      exact .quiet (hnone ha) (mt hfailed.mp (hinserts.noActive (by simp)).not_activeFailed)
    by_cases hrows₀ : s.2.events.getSessionEvents c.sessionId = []
    · by_cases hnew : new = []
      · exact hquiet hnew
      by_cases ha : a = .ok ()
      · subst ha
        obtain ⟨hun, hstates⟩ := houtcomes.of_ok rfl
        exact .bought c hrows₀ hrows hstates (by simp [Reply.tokenFor, Confirmation.reply, Confirmation.token])
          (mt hfailed.mp hun.not_activeFailed)
      · refine .unfinished c hrows₀ hrows hnew (hnone ha) fun hstates => hfailed.mpr ?_
        obtain ⟨row, hmem, hrow, hlast⟩ := houtcomes.unanswered ha hstates
        exact ⟨row, hmem, hrow, (Option.some.inj hlast).symm⟩
    · have hnot := hbegun.not_allowed_paid hrows₀
      rw [← lastState_getSessionEvents] at hnot
      exact hquiet (houtcomes.of_not_allowed hnot).1
  · refine ⟨[], ?_, .quiet ?_ (mt hfailed.mp (houtcomes.insertsFor.not_activeFailed hid))⟩
    · rw [h.appends.others sessionId (Ne.symm hid), List.append_nil]
    · rcases a with e | _
      · rfl
      · simp [Reply.tokenFor, Confirmation.reply, hid]

theorem not_isSession {request : Request} {reply : Reply}
    (h : Runs config (handle config request) s tr reply s')
    (hrequest : ∀ tierParam hoursParam xSessionTx, request ≠ .sessions tierParam hoursParam xSessionTx) :
    ¬ reply.body.IsSession := by
  intro hsession
  have hguarded : (handle config request).Guarded (fun _ _ => False) fun reply => reply.body.IsSession :=
    guarded_handle (fun _ => id) fun _ _ _ _ _ _ heq => absurd heq (hrequest _ _ _)
  obtain ⟨-, -, hfalse⟩ := h.guarded hguarded hsession
  exact hfalse

/-- **What a request does to one session.** -/
theorem runs_effect {request : Request} {reply : Reply}
    (h : Runs config (handle config request) s tr reply s') (hbegun : s.2.events.Begun)
    (sessionId : String) : ∃ new, s'.2.events.getSessionEvents sessionId =
        s.2.events.getSessionEvents sessionId ++ new ∧
      Effect config s.2.events sessionId tr (reply.tokenFor sessionId) new := by
  have hother {id : String} {handler : Handler Reply} {a : Except Thrown Reply}
      (hreply : ¬ reply.body.IsSession) (hadds : Adds config id s.2.events handler)
      (hr : Runs config handler.run s tr a s') : ∃ new, s'.2.events.getSessionEvents sessionId =
        s.2.events.getSessionEvents sessionId ++ new ∧
      Effect config s.2.events sessionId tr (reply.tokenFor sessionId) new := by
    rw [tokenFor_eq_none hreply]
    obtain ⟨new, happends, hfor, hexpiry, haddition⟩ := hadds hr rfl
    exact haddition.effect happends hfor hexpiry sessionId
  cases request with
  | sessions tierParam hoursParam xSessionTx =>
    rcases runs_sessions h with ⟨hdeclines, hreply⟩ | ⟨c, a, new, hconfirms, -, rfl⟩
    · refine ⟨[], by rw [hdeclines.unchanged.events, List.append_nil], .quiet (tokenFor_eq_none hreply) ?_⟩
      rintro ⟨new, hmem, _, _⟩
      exact hdeclines.noInserts _ hmem new rfl
    · exact hconfirms.effect hbegun sessionId
  | forceRelayFailure id =>
    obtain ⟨a, hr, -⟩ := runs_respond h
    exact hother (not_isSession h (by simp)) adds_failoverRoute hr
  | endSession id =>
    obtain ⟨a, hr, -⟩ := runs_respond h
    exact hother (not_isSession h (by simp)) adds_endSessionRoute hr
  | sessionDetail id =>
    obtain ⟨a, hr, -⟩ := runs_respond h
    exact hother (not_isSession h (by simp)) adds_sessionDetailRoute hr

/-! ### The life of a session -/

/-- How far a session has come: its log, the tokens given for it, and whether the
    `INSERT` of an `ACTIVE` row of it has failed. -/
inductive Phase (config : Config) : List SessionEventRow → List String → Prop → Prop
  | unknown {failed} : ¬ failed → Phase config [] [] failed
  | unfinished (c : Confirmation) {rows failed} : BoughtRows c rows → rows ≠ [] →
      rows.map SessionEventRow.toState ≠ purchaseStates → Phase config rows [] failed
  | opened (c : Confirmation) {rows failed} : BoughtRows c rows →
      rows.map SessionEventRow.toState = purchaseStates → ¬ failed →
      Phase config rows [c.token config] failed
  | tokenless (c : Confirmation) {rows failed} : BoughtRows c rows →
      rows.map SessionEventRow.toState = purchaseStates → failed → Phase config rows [] failed
  | finished {rows tokens failed} : lastState none rows = some .expiredNormal →
      Phase config rows tokens failed
  | moved (c : Confirmation) {rows first rest tokens failed} : BoughtRows c rows →
      rows.map SessionEventRow.toState = purchaseStates → first.toState = .relayUnreachable →
      first.relay = some c.relay.operator → (∀ row ∈ first :: rest, row.expiresAt = none) →
      (∀ token ∈ tokens, token = c.token config) → Phase config (rows ++ first :: rest) tokens failed

section Phase

variable {t : SessionEvents} {token : Option String} {tokens : List String} {failed : Prop}
  {rows new : List SessionEventRow} {c : Confirmation}

theorem lastState_map (rows : List SessionEventRow) :
    lastState none rows = (rows.map SessionEventRow.toState).getLast? := by
  rw [lastState_eq, Option.or_none, List.getLast?_map]

theorem BoughtRows.lastState_ne_active (h : BoughtRows c rows)
    (hne : rows.map SessionEventRow.toState ≠ purchaseStates) : lastState none rows ≠ some .active := by
  rw [lastState_map]
  have hmem : rows.map SessionEventRow.toState ∈ purchaseStates.inits := (List.mem_inits _ _).mpr h.states
  generalize rows.map SessionEventRow.toState = states at hne hmem
  simp only [purchaseStates, List.inits, List.map_cons, List.map_nil, List.mem_cons,
    List.not_mem_nil, or_false] at hmem hne
  rcases hmem with rfl | rfl | rfl | rfl | rfl <;> simp at hne ⊢

theorem BoughtRows.currentRelay (h : BoughtRows c rows) (hne : rows ≠ []) :
    latest SessionEventRow.relay rows = some c.relay.operator := by
  apply latest_of_forall _ hne
  intro row hrow
  exact (h.values row hrow).1

theorem BoughtRows.currentExpiry (h : BoughtRows c rows) (hne : rows ≠ []) :
    latest SessionEventRow.expiresAt rows = some c.expiresAt := by
  apply latest_of_forall _ hne
  intro row hrow
  exact (h.values row hrow).2

theorem ne_nil_of_states (h : rows.map SessionEventRow.toState = purchaseStates) : rows ≠ [] := by
  rintro rfl
  cases h

theorem Phase.congr {tokens' : List String} {failed' : Prop} (h : Phase config rows tokens failed)
    (htokens : tokens = tokens') (hfailed : failed ↔ failed') : Phase config rows tokens' failed' :=
  htokens ▸ propext hfailed ▸ h

/-- A session that is active was opened, and may have been moved since. -/
theorem Phase.of_active (h : Phase config rows tokens failed) (hactive : lastState none rows = some .active) :
    (∃ c, BoughtRows c rows ∧ rows.map SessionEventRow.toState = purchaseStates ∧
      ((tokens = [c.token config] ∧ ¬ failed) ∨ (tokens = [] ∧ failed))) ∨
    ∃ c bought first rest, rows = bought ++ first :: rest ∧ BoughtRows c bought ∧
      bought.map SessionEventRow.toState = purchaseStates ∧ first.toState = .relayUnreachable ∧
      first.relay = some c.relay.operator ∧ (∀ row ∈ first :: rest, row.expiresAt = none) ∧
      ∀ token ∈ tokens, token = c.token config := by
  cases h with
  | unknown => cases hactive
  | unfinished c hrows _ hne => exact absurd hactive (hrows.lastState_ne_active hne)
  | opened c hrows hstates hno => exact Or.inl ⟨c, hrows, hstates, Or.inl ⟨rfl, hno⟩⟩
  | tokenless c hrows hstates hfailed => exact Or.inl ⟨c, hrows, hstates, Or.inr ⟨rfl, hfailed⟩⟩
  | finished hlast =>
    rw [hlast] at hactive
    cases hactive
  | moved c hrows hstates hfirst hrelay hexpiry htokens =>
    exact Or.inr ⟨c, _, _, _, rfl, hrows, hstates, hfirst, hrelay, hexpiry, htokens⟩

theorem Phase.of_nil (h : Phase config [] tokens failed) : tokens = [] ∧ ¬ failed := by
  generalize hrows : ([] : List SessionEventRow) = rows at h
  cases h with
  | unknown hno => exact ⟨rfl, hno⟩
  | unfinished c _ hne => exact absurd hrows.symm hne
  | opened c _ hstates => exact absurd hrows.symm (ne_nil_of_states hstates)
  | tokenless c _ hstates => exact absurd hrows.symm (ne_nil_of_states hstates)
  | finished hlast =>
    subst hrows
    cases hlast
  | moved c => simp at hrows

theorem Phase.step (h : Phase config (t.getSessionEvents sessionId) tokens failed)
    (heffect : Effect config t sessionId tr token new) :
    Phase config (t.getSessionEvents sessionId ++ new) (tokens ++ token.toList)
      (failed ∨ ActiveFailed sessionId tr) := by
  have hstate := lastState_getSessionEvents t sessionId
  cases heffect with
  | quiet htoken hno => simpa [htoken, hno] using h
  | @failover first rest relay htoken hactive hrelay hfirst hfirstRelay hexpiry =>
    rw [hactive] at hstate
    subst htoken
    rw [Option.toList_none, List.append_nil]
    rcases h.of_active hstate with ⟨c, hrows, hstates, htokens⟩ |
      ⟨c, bought, first', rest', hsplit, hrows, hstates, hfirst', hrelay', hexpiry', htokens⟩
    · -- the relay that failed is the one of the purchase
      have hcurrent := hrows.currentRelay (ne_nil_of_states hstates)
      rw [← hcurrent.symm.trans hrelay] at hfirstRelay
      refine .moved c hrows hstates hfirst hfirstRelay hexpiry ?_
      rcases htokens with ⟨rfl, -⟩ | ⟨rfl, -⟩ <;> simp
    · rw [hsplit, List.append_assoc, List.cons_append]
      refine .moved c hrows hstates hfirst' hrelay' ?_ htokens
      rw [← List.cons_append]
      exact List.forall_mem_append.mpr ⟨hexpiry', hexpiry⟩
  | @ended row htoken hactive hended =>
    exact .finished (by rw [lastState_concat, hended])
  | bought c hnone hrows hstates htoken hno =>
    rw [hnone] at h ⊢
    obtain ⟨rfl, hnot⟩ := h.of_nil
    subst htoken
    exact .opened c hrows hstates (by simp [hnot, hno])
  | unfinished c hnone hrows hne htoken hfailed =>
    rw [hnone] at h ⊢
    obtain ⟨rfl, -⟩ := h.of_nil
    subst htoken
    by_cases hstates : new.map SessionEventRow.toState = purchaseStates
    · exact .tokenless c hrows hstates (Or.inr (hfailed hstates))
    · exact .unfinished c hrows hne hstates

end Phase

/-! ### Runs -/

section Runs

variable {now : Instant} {requests : List (Request × Trace × Reply)}

def tokensGiven (requests : List (Request × Trace × Reply)) (sessionId : String) : List String :=
  requests.filterMap fun handled => handled.2.2.tokenFor sessionId

def AnyActiveFailed (requests : List (Request × Trace × Reply)) (sessionId : String) : Prop :=
  ∃ handled ∈ requests, ActiveFailed sessionId handled.2.1

theorem tokensGiven_cons (request : Request) (tr : Trace) (reply : Reply)
    (requests : List (Request × Trace × Reply)) (sessionId : String) :
    tokensGiven ((request, tr, reply) :: requests) sessionId =
      (reply.tokenFor sessionId).toList ++ tokensGiven requests sessionId := by
  simp only [tokensGiven, List.filterMap_cons]
  cases reply.tokenFor sessionId <;> rfl

theorem anyActiveFailed_nil (sessionId : String) : ¬ AnyActiveFailed [] sessionId := by
  simp [AnyActiveFailed]

theorem anyActiveFailed_cons (request : Request) (tr : Trace) (reply : Reply)
    (requests : List (Request × Trace × Reply)) (sessionId : String) :
    AnyActiveFailed ((request, tr, reply) :: requests) sessionId ↔
      ActiveFailed sessionId tr ∨ AnyActiveFailed requests sessionId := by
  simp [AnyActiveFailed]

theorem runs_begun {request : Request} {reply : Reply}
    (h : Runs config (handle config request) s tr reply s') (hbegun : s.2.events.Begun) :
    s'.2.events.Begun := by
  obtain ⟨mvs, hrun⟩ := h.run []
  refine (System.run_invariant step_keepingBegun hrun ⟨?_, hbegun⟩).2
  intro p hp
  rw [List.mem_singleton.mp hp]
  exact (system_observes config).handler request s.2

theorem Phase.run {requests : List ((system config).Request × Trace × (system config).Reply)}
    {tokens : List String} {failed : Prop} (h : Serial (system config) s requests s')
    (hbegun : s.2.events.Begun)
    (hphase : Phase config (s.2.events.getSessionEvents sessionId) tokens failed) :
    Phase config (s'.2.events.getSessionEvents sessionId) (tokens ++ tokensGiven requests sessionId)
      (failed ∨ AnyActiveFailed requests sessionId) := by
  induction h generalizing tokens failed with
  | nil s =>
    exact hphase.congr (List.append_nil tokens).symm (or_iff_left (anyActiveFailed_nil sessionId)).symm
  | @happen s event s' requests _ ih =>
    have hevents := (happen_unchanged event s).events
    apply ih
    · exact hevents ▸ hbegun
    · exact hevents ▸ hphase
  | @request s request tr reply s₁ s' requests h _ ih =>
    obtain ⟨new, hnew, heffect⟩ := runs_effect h hbegun sessionId
    apply (ih (runs_begun h hbegun) (hnew ▸ hphase.step heffect)).congr
    · rw [List.append_assoc]
      exact congrArg (tokens ++ ·) (tokensGiven_cons request tr reply requests sessionId).symm
    · exact or_assoc.trans
        (or_congr_right (anyActiveFailed_cons request tr reply requests sessionId).symm)

theorem SerialRun.phase (h : SerialRun config now requests s) (sessionId : String) :
    Phase config (s.2.events.getSessionEvents sessionId) (tokensGiven requests sessionId)
      (AnyActiveFailed requests sessionId) := by
  have hstart : Phase config ((genesis now).2.events.getSessionEvents sessionId) [] False :=
    .unknown id
  have hbegun : KeepingBegun (start config now) := keepingBegun_start now
  simpa using Phase.run h hbegun.2 hstart

/-- The tokens given for the session open a tunnel at its relay, and at no relay that it
    was moved away from. -/
structure Usable (config : Config) (s : Memory × Env) (tokens : List String) (sessionId relay : String) :
    Prop where
  accepted : ∃ token ∈ tokens,
    TunnelServer.Accepts ⟨config.secret, relay⟩ config.sign s.1.now.ms token
  rejected : ∀ token ∈ tokens, ∀ row ∈ s.2.events.getSessionEvents sessionId,
    row.toState = .relayUnreachable → ∀ left, row.relay = some left →
      ¬ TunnelServer.Accepts ⟨config.secret, left⟩ config.sign s.1.now.ms token

/-- **Failover and the paid session.**  Where the log says that a session is active on a
    relay and has not expired, the tokens given for it are good for that relay and for no
    relay it left, exactly where it was never moved, and the `INSERT` of its `ACTIVE` row
    was answered. -/
theorem usable_iff (hne : ∀ body secret, config.sign body secret ≠ "")
    (hdot : ∀ body secret, '.' ∉ (config.sign body secret).toList)
    (hrun : SerialRun config now requests s) {relay : String} {expiresAt : ℕ}
    (hactive : s.2.events.getCurrentState sessionId = some .active)
    (hrelay : s.2.events.getCurrentRelay sessionId = some relay)
    (hexpiry : s.2.events.getExpiresAt sessionId = some expiresAt)
    (hnow : s.1.now.ms ≤ expiresAt * 1000) :
    Usable config s (tokensGiven requests sessionId) sessionId relay ↔
      (∀ row ∈ s.2.events.getSessionEvents sessionId, row.toState ≠ .relayUnreachable) ∧
        ¬ AnyActiveFailed requests sessionId := by
  have haccepts (c : Confirmation) (hc : c.expiresAt = expiresAt) (name : String) :
      TunnelServer.Accepts ⟨config.secret, name⟩ config.sign s.1.now.ms (c.token config) ↔
        c.relay.operator = name := by
    have hunexpired : ((s.1.now.ms / 1000 : ℕ) : ℤ) ≤ c.payload.expiresAt.val := by
      have hval : c.payload.expiresAt.val = (c.expiresAt : ℤ) := rfl
      rw [hval, hc]
      omega
    exact (accepts_issue_iff hne hdot c.payload config.secret name s.1.now.ms).trans
      (and_iff_left hunexpired)
  have hstate := lastState_getSessionEvents s.2.events sessionId
  rw [hactive] at hstate
  simp only [SessionEvents.getCurrentRelay, SessionEvents.getExpiresAt] at hrelay hexpiry
  rcases (hrun.phase sessionId).of_active hstate with ⟨c, hrows, hstates, htokens⟩ |
    ⟨c, bought, first, rest, hsplit, hrows, hstates, hfirst, hfirstRelay, hexpiries, htokens⟩
  · have hcrelay := Option.some.inj ((hrows.currentRelay (ne_nil_of_states hstates)).symm.trans hrelay)
    have hcexpiry := Option.some.inj ((hrows.currentExpiry (ne_nil_of_states hstates)).symm.trans hexpiry)
    have hstay : ∀ row ∈ s.2.events.getSessionEvents sessionId, row.toState ≠ .relayUnreachable := by
      intro row hrow heq
      have hmem : row.toState ∈ purchaseStates := hstates ▸ List.mem_map_of_mem hrow
      simp [heq, purchaseStates] at hmem
    rcases htokens with ⟨htokens, hno⟩ | ⟨htokens, hfailed⟩
    · refine iff_of_true ⟨⟨c.token config, by simp [htokens], (haccepts c hcexpiry relay).mpr hcrelay⟩, ?_⟩
        ⟨hstay, hno⟩
      intro token _ row hrow heq
      exact absurd heq (hstay row hrow)
    · refine iff_of_false ?_ fun h => h.2 hfailed
      intro husable
      obtain ⟨token, htoken, -⟩ := husable.accepted
      rw [htokens] at htoken
      cases htoken
  · have hmem : first ∈ s.2.events.getSessionEvents sessionId := by
      rw [hsplit]
      exact List.mem_append_right _ List.mem_cons_self
    -- the rows of failovers carry no expiry, so the one of the purchase is still the last
    have hcexpiry : c.expiresAt = expiresAt := by
      have hlatest : latest SessionEventRow.expiresAt (bought ++ first :: rest) = some expiresAt := by
        rw [← hsplit]
        exact hexpiry
      rw [latest_append_of_none hexpiries, hrows.currentExpiry (ne_nil_of_states hstates)] at hlatest
      exact Option.some.inj hlatest
    refine iff_of_false ?_ fun h => h.1 first hmem hfirst
    intro husable
    obtain ⟨token, htoken, -⟩ := husable.accepted
    have hrejected := husable.rejected token htoken first hmem hfirst _ hfirstRelay
    rw [htokens token htoken] at hrejected
    exact hrejected ((haccepts c hcexpiry _).mpr rfl)

end Runs

/-! ### A run -/

section Sample

theorem Sample.sign_ne (body secret : String) : Sample.config.sign body secret ≠ "" := by
  simp only [Sample.config, Sample.sign]
  split <;> decide

theorem Sample.sign_no_dot (body secret : String) :
    '.' ∉ (Sample.config.sign body secret).toList := by
  simp only [Sample.config, Sample.sign]
  split <;> decide

def Sample.token : String :=
  issueSessionToken Sample.config.sign (tokenPayload 0 carol .lite oneHour now)
    Sample.config.secret

theorem Sample.token_accepts_iff (relayName : String) :
    TunnelServer.Accepts ⟨Sample.config.secret, relayName⟩ Sample.config.sign now.ms token ↔
      carol.operator = relayName :=
  (accepts_issue_iff sign_ne sign_no_dot _ _ relayName now.ms).trans
    (and_iff_left (by decide +kernel))

def Sample.evaluated (request : Request) (s : Memory × Env) (queries : ℕ) :
    Option (Trace × Reply × (Memory × Env)) :=
  (system Sample.config).evaluate (handle Sample.config request) s (List.replicate queries ([], oracle))

/-- Session 0 is active on the relay until 1000003600, and it is not later than `now`. -/
def Sample.ActiveOn (relay : CapabilityRecord) (s : Memory × Env) : Bool :=
  s.2.events.getCurrentState "0" = some .active &&
    s.2.events.getCurrentRelay "0" = some relay.operator &&
    s.2.events.getExpiresAt "0" = some 1000003600 && s.1.now.ms = now.ms

theorem Sample.of_activeOn {relay : CapabilityRecord} {s : Memory × Env} (h : ActiveOn relay s = true) :
    s.2.events.getCurrentState "0" = some .active ∧
      s.2.events.getCurrentRelay "0" = some relay.operator ∧
      s.2.events.getExpiresAt "0" = some 1000003600 ∧ s.1.now.ms = now.ms := by
  simpa [ActiveOn, and_assoc] using h

def Sample.opened : Option (Trace × Reply × (Memory × Env)) := evaluated confirm paid 10

theorem Sample.exists_opened : ∃ tr reply s, opened = some (tr, reply, s) ∧
    SerialRun Sample.config now [(confirm, tr, reply)] s ∧ reply.tokenFor "0" = some token ∧
    ActiveOn carol s = true ∧ Undisturbed tr ∧
    ∀ row ∈ s.2.events.getSessionEvents "0", row.toState ≠ .relayUnreachable := by
  have heval : opened.any (fun result => result.2.1.tokenFor "0" = some token &&
      ActiveOn carol result.2.2 && (result.1.all fun ans => ans.2.isSome) &&
      (result.2.2.2.events.getSessionEvents "0").all fun row => row.toState ≠ .relayUnreachable)
      = true := by
    decide +kernel
  obtain ⟨⟨tr, reply, s⟩, hopened, hresult⟩ := (Option.any_eq_true _ _).mp heval
  simp only [Bool.and_eq_true, decide_eq_true_eq, List.all_eq_true] at hresult
  obtain ⟨⟨⟨htoken, hactive⟩, hsome⟩, hrows⟩ := hresult
  refine ⟨tr, reply, s, hopened, ?_, htoken, hactive, ?_, hrows⟩
  · exact System.Serial.happen (S := system Sample.config) (e := Event.mine buy)
      (.request (evaluates_of_evaluate hopened) (.nil s))
  · intro ans hans hnone
    have hisSome := hsome ans hans
    rw [hnone] at hisSome
    cases hisSome

theorem usable_iff_opened : ∃ requests s, SerialRun Sample.config now requests s ∧
    Usable Sample.config s (tokensGiven requests "0") "0" carol.operator := by
  obtain ⟨tr, reply, s, -, hrun, -, hactive, hun, hrows⟩ := Sample.exists_opened
  obtain ⟨hstate, hrelay, hexpiry, hnow⟩ := Sample.of_activeOn hactive
  refine ⟨_, s, hrun, (usable_iff Sample.sign_ne Sample.sign_no_dot hrun hstate hrelay hexpiry
    (by rw [hnow]; decide)).mpr ⟨hrows, ?_⟩⟩
  rintro ⟨handled, hhandled, hfailed⟩
  obtain rfl := List.mem_singleton.mp hhandled
  exact hun.not_activeFailed hfailed

/-- Session 0 moved from carol to dave: its one token is still good for carol, and no
    good for dave. -/
theorem unusable_moved : ∃ requests s, SerialRun Sample.config now requests s ∧
    s.2.events.getCurrentState "0" = some .active ∧
    s.2.events.getCurrentRelay "0" = some dave.operator ∧
    s.2.events.getExpiresAt "0" = some 1000003600 ∧ s.1.now.ms ≤ 1000003600 * 1000 ∧
    tokensGiven requests "0" = [Sample.token] ∧
    ¬ TunnelServer.Accepts ⟨Sample.config.secret, dave.operator⟩ Sample.config.sign s.1.now.ms
      Sample.token ∧
    (∃ row ∈ s.2.events.getSessionEvents "0", row.toState = .relayUnreachable ∧
      row.relay = some carol.operator) ∧
    TunnelServer.Accepts ⟨Sample.config.secret, carol.operator⟩ Sample.config.sign s.1.now.ms
      Sample.token := by
  have heval : Sample.opened.any (fun first => (Sample.evaluated (.forceRelayFailure "0") first.2.2 14).any
      fun second => second.2.1.tokenFor "0" = none && Sample.ActiveOn dave second.2.2 &&
        (second.2.2.2.events.getSessionEvents "0").any fun row =>
          row.toState = .relayUnreachable && row.relay = some carol.operator) = true := by
    decide +kernel
  obtain ⟨first, hfirst, hsecond⟩ := (Option.any_eq_true _ _).mp heval
  obtain ⟨tr₁, reply₁, s₁, hopened, -, htoken, -⟩ := Sample.exists_opened
  obtain rfl := Option.some.inj (hopened.symm.trans hfirst)
  obtain ⟨⟨tr₂, reply₂, s₂⟩, hmoved, hresult⟩ := (Option.any_eq_true _ _).mp hsecond
  simp only [Bool.and_eq_true, decide_eq_true_eq, List.any_eq_true] at hresult
  obtain ⟨⟨hnone, hactive⟩, hleft⟩ := hresult
  obtain ⟨hstate, hrelay, hexpiry, hnow⟩ := Sample.of_activeOn hactive
  refine ⟨[(confirm, tr₁, reply₁), (.forceRelayFailure "0", tr₂, reply₂)], s₂, ?_, hstate, hrelay,
    hexpiry, by rw [hnow]; decide, ?_, ?_, hleft, ?_⟩
  · exact System.Serial.happen (S := system Sample.config) (e := Event.mine buy)
      (.request (evaluates_of_evaluate hopened) (.request (evaluates_of_evaluate hmoved) (.nil s₂)))
  · simp [tokensGiven, htoken, hnone]
  · rw [hnow, Sample.token_accepts_iff]
    decide
  · rw [hnow, Sample.token_accepts_iff]

end Sample

end DVoD.Orchestrator
