import DVoD.Log.Latest
import DVoD.Orchestrator.Failover

/-!
# The rows that the routes record

`runs_change` says row by row what a request that is handled alone records: the rows of a
purchase, of a failover or of an end, as far as they come, with their tier, relay and
expiry.
-/

namespace DVoD.Orchestrator

open DVoD.Async DVoD.Async.Program DVoD.Async.System DVoD.Arc DVoD.Evm DVoD.Log DVoD.Session

variable {config : Config} {s s' : Memory × Env} {tr : Trace} {sessionId : String}

theorem lastState_append {rows new : List SessionEventRow} (hne : new ≠ []) :
    lastState none (rows ++ new) = (new.map SessionEventRow.toState).getLast? := by
  rw [lastState_eq, Option.or_none, List.getLast?_append, List.getLast?_map]
  rcases hlast : new.getLast? with _ | row
  · exact absurd (List.getLast?_eq_none_iff.mp hlast) hne
  · rfl

/-- A session whose state is known has a row. -/
theorem ne_nil_of_getCurrentState {t : SessionEvents} {state : SessionState}
    (h : t.getCurrentState sessionId = some state) : t.getSessionEvents sessionId ≠ [] := by
  intro hnone
  rw [← lastState_getSessionEvents, hnone] at h
  cases h

/-! ### The tier of a row -/

section Tiers

variable {toState : SessionState} {options : TransitionOptions} {tier : Tier}
  {rows new : List SessionEventRow} {transitions : List (SessionState × Option String)}

theorem tier_transitionTier {x : Option Tier}
    (h : Runs config (transitionTier sessionId options).run s tr (.ok x) s')
    (htier : options.tier.or (s.2.events.getTier sessionId) = some tier) : x = some tier := by
  unfold transitionTier at h
  split at h
  · next given hgiven =>
    rw [hgiven, Option.some_or] at htier
    rw [Except.ok.inj (evaluates_done.mp h).2.1, Option.some.inj htier]
  · next hnone =>
    rw [hnone, Option.none_or] at htier
    rcases (runs_getTier h).outcome with ⟨-, hx⟩ | ⟨-, herr⟩
    · rw [Except.ok.inj hx, htier]
    · cases herr

/-- A row is given the tier of the transition, or else the one of the session so far. -/
theorem tiers_recordTransition {a : Except Thrown SessionEventRow}
    (h : Runs config (recordTransition sessionId toState options).run s tr a s')
    (htier : options.tier.or (s.2.events.getTier sessionId) = some tier)
    (happends : Appends s.2.events s'.2.events sessionId new) : ∀ row ∈ new, row.tier = some tier := by
  have hnone (hunchanged : Unchanged s s') : ∀ row ∈ new, row.tier = some tier := by
    rw [happends.unique (.of_unchanged hunchanged)]
    simp
  rcases evaluates_bind_run.mp h with ⟨e, rfl, hselect⟩ | ⟨tr₁, current, s₁, tr', hselect, hfrom, rfl⟩
  · exact hnone (runs_getCurrentState hselect).unchanged
  have hunchanged := (runs_getCurrentState hselect).unchanged
  unfold transitionFrom at hfrom
  rcases evaluates_bind_run.mp hfrom with ⟨e, rfl, hcheck⟩ | ⟨tr₂, _, s₂, tr₃, hcheck, hrest, rfl⟩
  · obtain ⟨rfl, -, -⟩ := runs_checkTransition hcheck
    exact hnone hunchanged
  obtain ⟨rfl, -, -⟩ := runs_checkTransition hcheck
  rw [← hunchanged.events] at htier
  rcases evaluates_bind_run.mp hrest with ⟨e, rfl, hread⟩ | ⟨tr₄, x, s₃, tr₅, hread, hinsert, rfl⟩
  · exact hnone (hunchanged.trans (runs_transitionTier hread).1)
  obtain rfl := tier_transitionTier hread htier
  have hevents := (hunchanged.trans (runs_transitionTier hread).1).events
  obtain ⟨-, -, houtcome⟩ := runs_insertRow hinsert
  rw [hevents] at houtcome
  rcases houtcome with ⟨id, createdAt, hrow, -⟩ | ⟨hempty, -, -⟩
  · rw [happends.unique hrow]
    simp [TransitionOptions.row, NewRow.toRow]
  · rw [happends.unique hempty]
    simp

theorem Outcomes.tiers {a : Except Thrown Unit}
    (h : Outcomes sessionId options rows transitions tr a new) (htier : options.tier = some tier) :
    ∀ row ∈ new, row.tier = some tier := by
  induction h with
  | nil rows => simp
  | next _ houtcome _ ih =>
    cases houtcome with
    | recorded row hrow _ => exact List.forall_mem_cons.mpr ⟨hrow.tier tier htier, ih⟩
  | stop _ houtcome =>
    cases houtcome with
    | unanswered row _ hrow _ => simpa using hrow.tier tier htier
    | invalid => simp
    | failed => simp

theorem Outcomes.not_invalid {a : Except Thrown Unit}
    (h : Outcomes sessionId options rows transitions tr a new)
    (hc : Chained (lastState none rows) transitions) (message : String) :
    a ≠ .error (.invalidTransition message) := by
  induction h with
  | nil rows => simp
  | next _ houtcome _ ih =>
    cases houtcome with
    | recorded row hrow _ =>
      apply ih
      rw [lastState_concat, hrow.toState]
      exact hc.2
  | stop _ houtcome =>
    cases houtcome with
    | unanswered => simp
    | invalid _ hnot _ => exact absurd hc.1 hnot
    | failed => simp

theorem tier_append {t t' : SessionEvents} (happends : Appends t t' sessionId new)
    (hnew : ∀ row ∈ new, row.tier = some tier)
    (htier : options.tier.or (t.getTier sessionId) = some tier) :
    options.tier.or (t'.getTier sessionId) = some tier := by
  rcases hgiven : options.tier with _ | given
  · rw [hgiven, Option.none_or] at htier
    rw [Option.none_or]
    change latest SessionEventRow.tier (t'.getSessionEvents sessionId) = some tier
    rw [happends.self]
    by_cases hne : new = []
    · rw [hne, List.append_nil]
      exact htier
    · exact latest_append_of_some (latest_of_forall hnew hne)
  · rw [hgiven] at htier
    exact htier

theorem tiers_recordAll {a : Except Thrown Unit}
    (h : Runs config (recordAll sessionId options transitions).run s tr a s')
    (htier : options.tier.or (s.2.events.getTier sessionId) = some tier)
    (happends : Appends s.2.events s'.2.events sessionId new) : ∀ row ∈ new, row.tier = some tier := by
  induction transitions generalizing s tr new with
  | nil =>
    obtain ⟨rfl, rfl, rfl⟩ := evaluates_done.mp h
    rw [happends.unique (Appends.refl ..)]
    simp
  | cons transition transitions ih =>
    obtain ⟨toState, detail⟩ := transition
    rcases evaluates_bind_run.mp h with ⟨e, rfl, hrecord⟩ | ⟨tr₁, row, s₁, tr', hrecord, hrest, rfl⟩
    · exact tiers_recordTransition hrecord htier happends
    obtain ⟨-, -, new₁, happends₁, -⟩ := runs_recordTransition hrecord
    have hnew₁ := tiers_recordTransition hrecord htier happends₁
    rcases evaluates_bind_run.mp hrest with ⟨e, rfl, hbroadcast⟩ |
      ⟨tr₂, _, s₂, tr₃, hbroadcast, hrecords, rfl⟩
    · cases (runs_broadcast hbroadcast).2.2
    have hevents := (runs_broadcast hbroadcast).1.events
    obtain ⟨-, new₂, happends₂, -⟩ := runs_recordAll hrecords
    have hnew₂ := ih hrecords (by rw [hevents]; exact tier_append happends₁ hnew₁ htier) happends₂
    rw [hevents] at happends₂
    rw [happends.unique (happends₁.trans happends₂)]
    exact List.forall_mem_append.mpr ⟨hnew₁, hnew₂⟩

end Tiers

/-! ### The failover and the end as lists of transitions -/

/-- The transitions away from the relay that failed. -/
def failureTransitions : List (SessionState × Option String) :=
  [(.relayUnreachable, some "forced by demo control (brief §9.3)"), (.failoverSelect, none)]

def moveTransitions : List (SessionState × Option String) := [(.tunnelOpen, none), (.active, none)]

/-- The rest of a failover, once discovery has answered. -/
def moveTo (sessionId : String) (tier : Tier) (failedRelay : String)
    (eligible : List CapabilityRecord) : Handler Reply :=
  match eligible.find? fun op => op.operator ≠ failedRelay with
  | none =>
      pure ⟨503, .error ("no other active relay currently supports tier \"" ++ tier.name ++ "\"")⟩
  | some nextRelay => do
      recordAll sessionId ⟨some nextRelay.operator, some tier, none, none⟩ moveTransitions
      pure ⟨200, .failover sessionId failedRelay nextRelay.operator⟩

theorem failover_eq (sessionId : String) (tier : Tier) (failedRelay : String) :
    failover sessionId tier failedRelay = (do
      recordAll sessionId ⟨some failedRelay, none, none, none⟩ failureTransitions
      let eligible ← awaitOr .discovery (.eligibleOperators tier)
      moveTo sessionId tier failedRelay eligible) := by
  simp only [failureTransitions, recordAll, bind_assoc, pure_bind]
  unfold failover
  congr 1
  funext _
  congr 1
  funext _
  congr 1
  funext _
  congr 1
  funext _
  congr 1
  funext eligible
  unfold moveTo
  cases eligible.find? fun op => op.operator ≠ failedRelay with
  | none => rfl
  | some nextRelay => simp only [moveTransitions, recordAll, bind_assoc, pure_bind]

theorem endSession_eq (sessionId : String) :
    endSession sessionId = (do
      recordAll sessionId {} [(.expiredNormal, some "ended by user")]
      pure ⟨200, .ended sessionId .expiredNormal⟩) := by
  simp only [endSession, recordAll, bind_assoc, pure_bind]

/-! ### A failover -/

def failoverStates : List SessionState := [.relayUnreachable, .failoverSelect, .tunnelOpen, .active]

/-- The relay that a row of a failover from `failed` to `next` names. -/
def failoverRelay (failed next : String) (state : SessionState) : String :=
  if state = .tunnelOpen ∨ state = .active then next else failed

/-- The rows are those of a failover, as far as they were recorded. -/
structure FailoverRows (tier : Tier) (failed next : String) (rows : List SessionEventRow) : Prop where
  states : rows.map SessionEventRow.toState <+: failoverStates
  values : ∀ row ∈ rows, row.tier = some tier ∧ row.expiresAt = none ∧
    row.relay = some (failoverRelay failed next row.toState)

/-- Discovery named the relay `next`, and it is not the one that failed. -/
structure Chosen (tier : Tier) (failed next : String) (tr : Trace) : Prop where
  ne : next ≠ failed
  eligible : ∃ eligible op, ⟨.eligibleOperators tier, some eligible⟩ ∈ tr ∧ op ∈ eligible ∧
    op.operator = next

/-- Whenever discovery was asked, it named a relay other than the one that failed. -/
def FindsAnother (failed : String) (tr : Trace) : Prop :=
  ∀ tier eligible, ⟨.eligibleOperators tier, some eligible⟩ ∈ tr → ∃ op ∈ eligible, op.operator ≠ failed

section Failover

variable {tier : Tier} {failed next : String} {rows rows' new new' : List SessionEventRow}

theorem failoverRows_of_failure {a : Except Thrown Unit}
    (h : Outcomes sessionId ⟨some failed, none, none, none⟩ rows failureTransitions tr a new)
    (htiers : ∀ row ∈ new, row.tier = some tier) (next : String) :
    FailoverRows tier failed next new := by
  obtain ⟨hstates, hvalues⟩ := h.added
  constructor
  · exact hstates.trans ⟨[.tunnelOpen, .active], rfl⟩
  · intro row hrow
    have hstate : row.toState ∈ failureTransitions.map Prod.fst :=
      hstates.subset (List.mem_map_of_mem hrow)
    refine ⟨htiers row hrow, (hvalues row hrow).2, ?_⟩
    rw [(hvalues row hrow).1]
    rcases List.mem_pair.mp hstate with heq | heq <;> rw [heq] <;> rfl

theorem FailoverRows.append (h : FailoverRows tier failed next rows)
    (hstates : rows.map SessionEventRow.toState = [.relayUnreachable, .failoverSelect])
    {a : Except Thrown Unit}
    (hmove : Outcomes sessionId ⟨some next, some tier, none, none⟩ rows' moveTransitions tr a new) :
    FailoverRows tier failed next (rows ++ new) := by
  obtain ⟨hadded, hvalues⟩ := hmove.added
  constructor
  · rw [List.map_append, hstates]
    exact (List.prefix_append_right_inj [SessionState.relayUnreachable, .failoverSelect]).mpr hadded
  · intro row hrow
    rcases List.mem_append.mp hrow with hrow | hrow
    · exact h.values row hrow
    · have hstate : row.toState ∈ moveTransitions.map Prod.fst :=
        hadded.subset (List.mem_map_of_mem hrow)
      refine ⟨hmove.tiers rfl row hrow, (hvalues row hrow).2, ?_⟩
      rw [(hvalues row hrow).1]
      rcases List.mem_pair.mp hstate with heq | heq <;> rw [heq] <;> rfl

theorem chained_failure (hactive : lastState none rows = some .active) :
    Chained (lastState none rows) failureTransitions := by
  rw [hactive]
  exact ⟨rfl, rfl, trivial⟩

theorem chained_move (hselected : lastState none rows = some .failoverSelect) :
    Chained (lastState none rows) moveTransitions := by
  rw [hselected]
  exact ⟨rfl, rfl, trivial⟩

/-- What a failover of an active session records: it stops only where something that it
    awaits fails, or where discovery names no other relay. -/
structure FailsOver (tier : Tier) (failed : String) (tr : Trace) (a : Except Thrown Reply)
    (next : String) (new : List SessionEventRow) : Prop where
  rows : FailoverRows tier failed next new
  chosen : .tunnelOpen ∈ new.map SessionEventRow.toState → Chosen tier failed next tr
  not_invalid : ∀ message, a ≠ .error (.invalidTransition message)
  complete : Undisturbed tr → FindsAnother failed tr → new.map SessionEventRow.toState = failoverStates

theorem runs_moveTo {eligible : List CapabilityRecord} {a : Except Thrown Reply} {tr' : Trace}
    (h : Runs config (moveTo sessionId tier failed eligible).run s tr a s')
    (hselected : s.2.events.getCurrentState sessionId = some .failoverSelect)
    (hrows : ∀ next, FailoverRows tier failed next rows)
    (hstates : rows.map SessionEventRow.toState = [.relayUnreachable, .failoverSelect])
    (heligible : ⟨.eligibleOperators tier, some eligible⟩ ∈ tr') :
    ∃ next new, Appends s.2.events s'.2.events sessionId new ∧
      FailsOver tier failed (tr' ++ tr) a next (rows ++ new) := by
  unfold moveTo at h
  split at h
  · next hnone =>
    obtain ⟨rfl, rfl, rfl⟩ := evaluates_done.mp h
    refine ⟨"", [], Appends.refl .., ?_⟩
    rw [List.append_nil, List.append_nil]
    refine ⟨hrows _, ?_, by simp, ?_⟩
    · intro hopened
      rw [hstates] at hopened
      simp at hopened
    · intro _ hfinds
      obtain ⟨op, hop, hne⟩ := hfinds tier eligible heligible
      exact absurd (List.find?_eq_none.mp hnone op hop) (by simpa using hne)
  · next op hfind =>
    have hchosen (tr : Trace) : Chosen tier failed op.operator (tr' ++ tr) := by
      constructor
      · simpa using List.find?_some hfind
      · exact ⟨eligible, op, List.mem_append_left _ heligible, List.mem_of_find?_eq_some hfind, rfl⟩
    have hlast := lastState_getSessionEvents s.2.events sessionId
    rw [hselected] at hlast
    rcases evaluates_bind_run.mp h with ⟨e, rfl, hrecord⟩ | ⟨tr₁, _, s₁, tr₂, hrecord, hdone, rfl⟩
    · obtain ⟨-, new, happends, houtcomes⟩ := runs_recordAll hrecord
      refine ⟨op.operator, new, happends, (hrows _).append hstates houtcomes, fun _ => hchosen _, ?_, ?_⟩
      · intro message heq
        exact houtcomes.not_invalid (chained_move hlast) message (by simpa using heq)
      · intro hun _
        have hok := houtcomes.ok_of_chained (undisturbed_append.mp hun).2 (chained_move hlast)
        cases hok
    · obtain ⟨-, new, happends, houtcomes⟩ := runs_recordAll hrecord
      obtain ⟨rfl, rfl, rfl⟩ := evaluates_done.mp hdone
      refine ⟨op.operator, new, happends, (hrows _).append hstates houtcomes, fun _ => hchosen _,
        by simp, ?_⟩
      intro _ _
      rw [List.map_append, hstates, (houtcomes.of_ok rfl).2]
      rfl

theorem runs_failover {a : Except Thrown Reply}
    (h : Runs config (failover sessionId tier failed).run s tr a s')
    (hactive : s.2.events.getCurrentState sessionId = some .active)
    (htier : s.2.events.getTier sessionId = some tier) :
    ∃ next new, Appends s.2.events s'.2.events sessionId new ∧ FailsOver tier failed tr a next new := by
  rw [failover_eq] at h
  have hlast := lastState_getSessionEvents s.2.events sessionId
  rw [hactive] at hlast
  have hnotOpened {new : List SessionEventRow}
      (hadded : new.map SessionEventRow.toState <+: failureTransitions.map Prod.fst) :
      .tunnelOpen ∉ new.map SessionEventRow.toState := by
    intro hopened
    have hmem := hadded.subset hopened
    simp [failureTransitions] at hmem
  rcases evaluates_bind_run.mp h with ⟨e, rfl, hrecord⟩ | ⟨tr₁, _, s₁, tr', hrecord, hrest, rfl⟩
  · obtain ⟨-, new, happends, houtcomes⟩ := runs_recordAll hrecord
    have htiers := tiers_recordAll hrecord htier happends
    refine ⟨"", new, happends, failoverRows_of_failure houtcomes htiers _, ?_, ?_, ?_⟩
    · intro hopened
      exact absurd hopened (hnotOpened houtcomes.added.1)
    · intro message heq
      exact houtcomes.not_invalid (chained_failure hlast) message (by simpa using heq)
    · intro hun _
      have hok := houtcomes.ok_of_chained hun (chained_failure hlast)
      cases hok
  obtain ⟨-, new, happends, houtcomes⟩ := runs_recordAll hrecord
  have hrows := failoverRows_of_failure houtcomes (tiers_recordAll hrecord htier happends)
  obtain ⟨hun₁, hstates⟩ := houtcomes.of_ok rfl
  rcases evaluates_bind_run.mp hrest with ⟨e, rfl, hask⟩ | ⟨tr₂, eligible, s₂, tr₃, hask, hmove, rfl⟩
  · obtain ⟨hunchanged, r, rfl, ⟨x, -, herr⟩ | ⟨rfl, he⟩⟩ := runs_eligibleOperators hask
    · cases herr
    obtain rfl := Except.error.inj he
    refine ⟨"", new, hunchanged.events ▸ happends, hrows _, ?_, by simp, ?_⟩
    · intro hopened
      exact absurd hopened (hnotOpened houtcomes.added.1)
    · intro hun _
      exact absurd (undisturbed_append.mp hun).2 not_undisturbed_none
  obtain ⟨hunchanged, r, rfl, ⟨x, rfl, hx⟩ | ⟨-, herr⟩⟩ := runs_eligibleOperators hask
  swap
  · cases herr
  obtain rfl := Except.ok.inj hx
  have hselected : s₂.2.events.getCurrentState sessionId = some .failoverSelect := by
    rw [hunchanged.events, ← lastState_getSessionEvents, happends.self, lastState_eq, Option.or_none,
      ← List.getLast?_map, List.map_append, hstates]
    simp [failureTransitions]
  have hasked : ⟨.eligibleOperators tier, some eligible⟩ ∈
      tr₁ ++ [(⟨.eligibleOperators tier, some eligible⟩ : Answered Answer)] :=
    List.mem_append_right _ (List.mem_singleton_self _)
  obtain ⟨next, new', happends', hfails⟩ := runs_moveTo hmove hselected hrows hstates hasked
  rw [hunchanged.events] at happends'
  refine ⟨next, new ++ new', happends.trans happends', ?_⟩
  rwa [List.append_assoc] at hfails

end Failover

/-! ### The other routes -/

theorem runs_awaitOr_trace {e : Thrown} {c : Command} {x : Found c}
    (h : Runs config (awaitOr e c).run s tr (.ok x) s') : tr = [⟨c, some x⟩] := by
  obtain ⟨r, hcall, ⟨y, rfl, hy⟩ | ⟨-, herr⟩⟩ := runs_awaitOr h
  · obtain ⟨-, -, -, -, htr, -⟩ := runs_call hcall
    rw [htr, Except.ok.inj hy]
  · cases herr

/-- A `SELECT` fails, or what comes next goes on with what it found. -/
theorem runs_select_bind {α : Type} {c : Command} {f : Found c → Handler α} {a : Except Thrown α}
    (found : SessionEvents → Found c)
    (hh : ∀ {s s' tr a}, Runs config (awaitOr .query c).run s tr a s' →
      Selects s s' tr (found s.2.events) a)
    (hr : Runs config (awaitOr .query c >>= f).run s tr a s') :
    (Unchanged s s' ∧ a = .error .query ∧ ¬ Undisturbed tr) ∨
    ∃ s₁ tr', Unchanged s s₁ ∧ tr = ⟨c, some (found s.2.events)⟩ :: tr' ∧
      Runs config (f (found s.2.events)).run s₁ tr' a s' := by
  rcases evaluates_bind_run.mp hr with ⟨e, rfl, hfirst⟩ | ⟨tr₁, x, s₁, tr₂, hfirst, hrest, rfl⟩
  · have hselects := hh hfirst
    obtain ⟨-, herr⟩ | ⟨hdisturbed, he⟩ := hselects.outcome
    · cases herr
    · obtain rfl := Except.error.inj he
      exact Or.inl ⟨hselects.unchanged, rfl, hdisturbed⟩
  · have hselects := hh hfirst
    obtain ⟨-, hx⟩ | ⟨-, herr⟩ := hselects.outcome
    · obtain rfl := Except.ok.inj hx
      rw [runs_awaitOr_trace hfirst]
      exact Or.inr ⟨s₁, tr₂, hselects.unchanged, rfl, hrest⟩
    · cases herr

/-- The request is answered with an `InvalidTransitionError`: with a 409, or uncaught. -/
def Reply.Conflicts (reply : Reply) : Prop :=
  reply.status = 409 ∨ ∃ message, reply.body = .uncaught (.invalidTransition message)

/-- The route ends with such a reply, or throws the error. -/
def Clashes : Except Thrown Reply → Prop
  | .ok reply => reply.Conflicts
  | .error e => ∃ message, e = .invalidTransition message

theorem not_clashes_query : ¬ Clashes (.error .query) := by
  rintro ⟨message, h⟩
  cases h

/-- Without an `InvalidTransitionError`, catching it changes nothing. -/
theorem runs_conflict {h : Handler Reply} {a : Except Thrown Reply}
    (hr : Runs config (tryCatch h conflictOnInvalidTransition).run s tr a s') :
    ∃ b, Runs config h.run s tr b s' ∧
      ((∀ message, b ≠ .error (.invalidTransition message)) → a = b) := by
  rcases evaluates_tryCatch_run.mp hr with ⟨x, rfl, hfirst⟩ | ⟨tr₁, e, s₁, tr₂, hfirst, hcatch, rfl⟩
  · exact ⟨_, hfirst, fun _ => rfl⟩
  · refine ⟨.error e, ?_, ?_⟩
    · cases e <;> obtain ⟨rfl, rfl, rfl⟩ := evaluates_done.mp hcatch <;>
        rwa [List.append_nil]
    · intro hne
      cases e with
      | invalidTransition message => exact absurd rfl (hne message)
      | _ =>
        obtain ⟨rfl, rfl, rfl⟩ := evaluates_done.mp hcatch
        rfl

section Others

variable {a : Except Thrown Reply}

theorem not_conflicts_moveTo {tier : Tier} {failed : String} {eligible : List CapabilityRecord}
    {reply : Reply} (h : Runs config (moveTo sessionId tier failed eligible).run s tr (.ok reply) s') :
    ¬ reply.Conflicts := by
  unfold moveTo at h
  split at h
  · obtain ⟨-, hreply, -⟩ := evaluates_done.mp h
    rw [Except.ok.inj hreply]
    simp [Reply.Conflicts]
  · rcases evaluates_bind_run.mp h with ⟨e, herr, -⟩ | ⟨tr₁, _, s₁, tr₂, -, hdone, rfl⟩
    · cases herr
    · obtain ⟨-, hreply, -⟩ := evaluates_done.mp hdone
      rw [Except.ok.inj hreply]
      simp [Reply.Conflicts]

theorem not_conflicts_failover {tier : Tier} {failed : String} {reply : Reply}
    (h : Runs config (failover sessionId tier failed).run s tr (.ok reply) s') : ¬ reply.Conflicts := by
  rw [failover_eq] at h
  rcases evaluates_bind_run.mp h with ⟨e, herr, -⟩ | ⟨tr₁, _, s₁, tr', -, hrest, rfl⟩
  · cases herr
  rcases evaluates_bind_run.mp hrest with ⟨e, herr, -⟩ | ⟨tr₂, eligible, s₂, tr₃, -, hmove, rfl⟩
  · cases herr
  exact not_conflicts_moveTo hmove

/-- What a route does first that is for active sessions only. -/
theorem runs_ifActive {f : Handler Reply}
    (h : Runs config (getCurrentState sessionId >>= fun state =>
      if state ≠ some .active then pure (notActive sessionId state) else f).run s tr a s') :
    (¬ Clashes a ∧ Unchanged s s') ∨ (s.2.events.getCurrentState sessionId = some .active ∧
      ∃ s₁ tr₁, Unchanged s s₁ ∧
        tr = ⟨.selectToState sessionId, some (s.2.events.getCurrentState sessionId)⟩ :: tr₁ ∧
        Runs config f.run s₁ tr₁ a s') := by
  rcases runs_select_bind (c := .selectToState sessionId) (fun t => t.getCurrentState sessionId)
    runs_getCurrentState h with ⟨hunchanged, rfl, -⟩ | ⟨s₁, tr₁, hunchanged, rfl, hrest⟩
  · exact Or.inl ⟨not_clashes_query, hunchanged⟩
  split at hrest
  · obtain ⟨rfl, rfl, rfl⟩ := evaluates_done.mp hrest
    exact Or.inl ⟨by simp [Clashes, Reply.Conflicts, notActive], hunchanged⟩
  · next hactive => exact Or.inr ⟨not_not.mp hactive, s₁, tr₁, hunchanged, rfl, hrest⟩

/-- A request to fail over changes nothing, or fails over the active session. -/
theorem runs_failoverRoute (h : Runs config (failoverRoute sessionId).run s tr a s') :
    ¬ Clashes a ∧ (Unchanged s s' ∨ ∃ tier failed next new before tr' b,
      s.2.events.getCurrentState sessionId = some .active ∧
      s.2.events.getTier sessionId = some tier ∧
      s.2.events.getCurrentRelay sessionId = some failed ∧
      ⟨.selectRelay sessionId, some (some failed)⟩ ∈ before ∧
      Appends s.2.events s'.2.events sessionId new ∧ tr = before ++ tr' ∧
      FailsOver tier failed tr' b next new) := by
  rcases runs_ifActive h with ⟨hclash, hunchanged⟩ | ⟨hactive, s₁, tr₁, hunchanged, rfl, hrest⟩
  · exact ⟨hclash, Or.inl hunchanged⟩
  rcases runs_select_bind (c := .selectTier sessionId) (fun t => t.getTier sessionId)
    runs_getTier hrest with ⟨hunchanged₁, rfl, -⟩ | ⟨s₂, tr₂, hunchanged₁, rfl, hrest₁⟩
  · exact ⟨not_clashes_query, Or.inl (hunchanged.trans hunchanged₁)⟩
  rcases runs_select_bind (c := .selectRelay sessionId) (fun t => t.getCurrentRelay sessionId)
    runs_getCurrentRelay hrest₁ with ⟨hunchanged₂, rfl, -⟩ | ⟨s₃, tr₃, hunchanged₂, rfl, hrest₂⟩
  · exact ⟨not_clashes_query, Or.inl ((hunchanged.trans hunchanged₁).trans hunchanged₂)⟩
  have hunchanged₃ := (hunchanged.trans hunchanged₁).trans hunchanged₂
  rw [(hunchanged.trans hunchanged₁).events, hunchanged.events] at hrest₂
  split at hrest₂
  swap
  · obtain ⟨rfl, rfl, rfl⟩ := evaluates_done.mp hrest₂
    exact ⟨by simp [Clashes, Reply.Conflicts], Or.inl hunchanged₃⟩
  next tier failed htier hfailed =>
  obtain ⟨b, hfailover, hb⟩ := runs_conflict hrest₂
  obtain ⟨next, new, happends, hfails⟩ := runs_failover hfailover
    (by rw [hunchanged₃.events]; exact hactive) (by rw [hunchanged₃.events]; exact htier)
  obtain rfl := hb hfails.not_invalid
  constructor
  · intro hclash
    rcases a with e | reply
    · obtain ⟨message, rfl⟩ := hclash
      exact hfails.not_invalid message rfl
    · exact not_conflicts_failover hfailover hclash
  · have hrelay := (Option.filter_eq_some_iff.mp hfailed).1
    refine Or.inr ⟨tier, failed, next, new, [_, _, _], tr₃, a, hactive, htier, hrelay, ?_,
      hunchanged₃.events ▸ happends, rfl, hfails⟩
    have hread : s₂.2.events.getCurrentRelay sessionId = some failed := by
      rw [(hunchanged.trans hunchanged₁).events]
      exact hrelay
    rw [hread]
    simp

/-- A request to end a session changes nothing, or ends the active session. -/
theorem runs_endSessionRoute (h : Runs config (endSessionRoute sessionId).run s tr a s') :
    ¬ Clashes a ∧ (Unchanged s s' ∨ ∃ new, s.2.events.getCurrentState sessionId = some .active ∧
      Appends s.2.events s'.2.events sessionId new ∧
      new.map SessionEventRow.toState <+: [.expiredNormal] ∧ (∀ row ∈ new, row.expiresAt = none) ∧
      ∀ tier, s.2.events.getTier sessionId = some tier → ∀ row ∈ new, row.tier = some tier) := by
  rcases runs_ifActive h with ⟨hclash, hunchanged⟩ | ⟨hactive, s₁, tr₁, hunchanged, rfl, hrest⟩
  · exact ⟨hclash, Or.inl hunchanged⟩
  obtain ⟨b, hend, hb⟩ := runs_conflict hrest
  rw [endSession_eq] at hend
  have hlast := lastState_getSessionEvents s₁.2.events sessionId
  rw [hunchanged.events, hactive] at hlast
  have hrows {s₂ : Memory × Env} {tr₂ : Trace} {x : Except Thrown Unit} (hs : s₂.2.events = s'.2.events)
      (hrecord : Runs config (recordAll sessionId {} [(.expiredNormal, some "ended by user")]).run s₁ tr₂
        x s₂) : ∃ new, Appends s.2.events s'.2.events sessionId new ∧
      new.map SessionEventRow.toState <+: [.expiredNormal] ∧ (∀ row ∈ new, row.expiresAt = none) ∧
      ∀ tier, s.2.events.getTier sessionId = some tier → ∀ row ∈ new, row.tier = some tier := by
    obtain ⟨-, new, happends, houtcomes⟩ := runs_recordAll hrecord
    refine ⟨new, ?_, houtcomes.added.1, fun row hrow => (houtcomes.added.2 row hrow).2, ?_⟩
    · rw [← hs, ← hunchanged.events]
      exact happends
    · intro tier htier
      rw [← hunchanged.events] at htier
      exact tiers_recordAll hrecord htier happends
  rcases evaluates_bind_run.mp hend with ⟨e, rfl, hrecord⟩ | ⟨tr₂, _, s₂, tr₃, hrecord, hdone, rfl⟩
  · obtain ⟨-, _, -, houtcomes⟩ := runs_recordAll hrecord
    have hnot : ∀ message, (.error e : Except Thrown Reply) ≠ .error (.invalidTransition message) := by
      intro message heq
      refine houtcomes.not_invalid ?_ message (by simpa using heq)
      rw [hunchanged.events, hlast]
      exact ⟨rfl, trivial⟩
    obtain rfl := hb hnot
    constructor
    · rintro ⟨message, rfl⟩
      exact hnot message rfl
    · obtain ⟨new, hnew⟩ := hrows rfl hrecord
      exact Or.inr ⟨new, hactive, hnew⟩
  · obtain ⟨rfl, rfl, rfl⟩ := evaluates_done.mp hdone
    obtain rfl := hb (by simp)
    obtain ⟨new, hnew⟩ := hrows rfl hrecord
    exact ⟨by simp [Clashes, Reply.Conflicts], Or.inr ⟨new, hactive, hnew⟩⟩

theorem runs_sessionDetailRoute (h : Runs config (sessionDetailRoute sessionId).run s tr a s') :
    ¬ Clashes a ∧ Unchanged s s' := by
  rcases runs_select_bind (c := .selectEvents sessionId) (fun t => t.getSessionEvents sessionId)
    (fun h => runs_select (fun t => t.getSessionEvents sessionId) (fun _ _ => rfl) h) h with
    ⟨hunchanged, rfl, -⟩ | ⟨s₁, tr₁, hunchanged, rfl, hrest⟩
  · exact ⟨not_clashes_query, hunchanged⟩
  split at hrest
  · obtain ⟨rfl, rfl, rfl⟩ := evaluates_done.mp hrest
    exact ⟨by simp [Clashes, Reply.Conflicts], hunchanged⟩
  rcases runs_select_bind (c := .selectToState sessionId) (fun t => t.getCurrentState sessionId)
    runs_getCurrentState hrest with ⟨hunchanged₁, rfl, -⟩ | ⟨s₂, tr₂, hunchanged₁, rfl, hrest₁⟩
  · exact ⟨not_clashes_query, hunchanged.trans hunchanged₁⟩
  rcases runs_select_bind (c := .selectRelay sessionId) (fun t => t.getCurrentRelay sessionId)
    runs_getCurrentRelay hrest₁ with ⟨hunchanged₂, rfl, -⟩ | ⟨s₃, tr₃, hunchanged₂, rfl, hrest₂⟩
  · exact ⟨not_clashes_query, (hunchanged.trans hunchanged₁).trans hunchanged₂⟩
  rcases runs_select_bind (c := .selectExpiresAt sessionId) (fun t => t.getExpiresAt sessionId)
    (fun h => runs_select (fun t => t.getExpiresAt sessionId) (fun _ _ => rfl) h) hrest₂ with
    ⟨hunchanged₃, rfl, -⟩ | ⟨s₄, tr₄, hunchanged₃, rfl, hrest₃⟩
  · exact ⟨not_clashes_query, ((hunchanged.trans hunchanged₁).trans hunchanged₂).trans hunchanged₃⟩
  obtain ⟨rfl, rfl, rfl⟩ := evaluates_done.mp hrest₃
  exact ⟨by simp [Clashes, Reply.Conflicts], ((hunchanged.trans hunchanged₁).trans hunchanged₂).trans hunchanged₃⟩

end Others

/-! ### What a request records -/

/-- The rows are those of a purchase that is confirmed by `c`, as far as they were
    recorded. -/
structure PurchaseRows (c : Confirmation) (tr : Trace) (rows : List SessionEventRow) : Prop where
  states : rows.map SessionEventRow.toState <+: purchaseStates
  values : ∀ row ∈ rows, row.tier = some c.tier ∧ row.expiresAt = some c.expiresAt ∧
    row.relay = some c.relay.operator
  eligible : ∃ rest, ⟨.eligibleOperators c.tier, some (c.relay :: rest)⟩ ∈ tr
  complete : Undisturbed tr → rows.map SessionEventRow.toState = purchaseStates

/-- What a request adds to the log of a session, and the token that it gives for it. -/
inductive Change (config : Config) (t : SessionEvents) (sessionId : String) (request : Request)
    (tr : Trace) (token : Option String) : List SessionEventRow → Prop
  | nothing : token = none → Change config t sessionId request tr token []
  | purchase (c : Confirmation) {new} : t.getSessionEvents sessionId = [] → c.Passes config request →
      c.sessionId = sessionId → PurchaseRows c tr new →
      (∀ given ∈ token, given = c.token config ∧ new ≠ []) →
      Change config t sessionId request tr token new
  | failover {tier failed next new before tr' b} : request = .forceRelayFailure sessionId →
      t.getCurrentState sessionId = some .active → t.getTier sessionId = some tier →
      t.getCurrentRelay sessionId = some failed →
      ⟨.selectRelay sessionId, some (some failed)⟩ ∈ before → tr = before ++ tr' →
      FailsOver tier failed tr' b next new → token = none →
      Change config t sessionId request tr token new
  | ended {new} : request = .endSession sessionId → t.getCurrentState sessionId = some .active →
      new.map SessionEventRow.toState <+: [.expiredNormal] → (∀ row ∈ new, row.expiresAt = none) →
      (∀ tier, t.getTier sessionId = some tier → ∀ row ∈ new, row.tier = some tier) → token = none →
      Change config t sessionId request tr token new

section Change

variable {request : Request} {reply : Reply}

theorem Confirms.purchaseRows {c : Confirmation} {a : Except Thrown Unit} {new : List SessionEventRow}
    (h : Confirms config request c s s' tr a new)
    (hrelay : ∃ rest, ⟨.eligibleOperators c.tier, some (c.relay :: rest)⟩ ∈ tr)
    (hrows : s.2.events.getSessionEvents c.sessionId = []) : PurchaseRows c tr new := by
  obtain ⟨eligible, tr', rfl, houtcomes⟩ := h.trace
  obtain ⟨hstates, hvalues⟩ := houtcomes.added
  refine ⟨hstates, ?_, hrelay, ?_⟩
  · intro row hrow
    refine ⟨houtcomes.tiers rfl row hrow, ?_, (hvalues row hrow).1⟩
    rw [(hvalues row hrow).2]
    exact Option.filter_eq_some_iff.mpr ⟨rfl, by simpa using expiresAt_ne_zero c⟩
  · intro hun
    have hrest : Undisturbed tr' := by
      intro ans hans
      exact hun ans (List.mem_cons_of_mem _ (List.mem_cons_of_mem _ hans))
    have hok := houtcomes.ok_of_chained hrest (by rw [hrows]; exact c.chained)
    exact (houtcomes.of_ok hok).2

theorem Confirms.change {c : Confirmation} {a : Except Thrown Unit} {new : List SessionEventRow}
    (h : Confirms config request c s s' tr a new)
    (hrelay : ∃ rest, ⟨.eligibleOperators c.tier, some (c.relay :: rest)⟩ ∈ tr)
    (hbegun : s.2.events.Begun) (sessionId : String) :
    ∃ new', s'.2.events.getSessionEvents sessionId = s.2.events.getSessionEvents sessionId ++ new' ∧
      Change config s.2.events sessionId request tr ((c.reply config a).tokenFor sessionId) new' := by
  by_cases hid : c.sessionId = sessionId
  swap
  · refine ⟨[], ?_, .nothing ?_⟩
    · rw [h.appends.others sessionId (Ne.symm hid), List.append_nil]
    · rcases a with e | _
      · rfl
      · simp [Reply.tokenFor, Confirmation.reply, hid]
  subst hid
  refine ⟨new, h.appends.self, ?_⟩
  obtain ⟨eligible, tr', htr, houtcomes⟩ := h.trace
  by_cases hrows : s.2.events.getSessionEvents c.sessionId = []
  · refine .purchase c hrows h.passes rfl (h.purchaseRows hrelay hrows) ?_
    rcases a with e | _
    · simp [Reply.tokenFor, Confirmation.reply]
    · have hne := ne_nil_of_states (houtcomes.of_ok rfl).2
      simpa [Reply.tokenFor, Confirmation.reply, Confirmation.token] using hne
  · have hnot := hbegun.not_allowed_paid hrows
    rw [← lastState_getSessionEvents] at hnot
    obtain ⟨rfl, ha, -⟩ := houtcomes.of_not_allowed hnot
    refine .nothing ?_
    rcases a with e | _
    · rfl
    · exact absurd rfl ha

/-- **What a request adds to the log of one session.** -/
theorem runs_change (h : Runs config (handle config request) s tr reply s')
    (hbegun : s.2.events.Begun) (sessionId : String) :
    ∃ new, s'.2.events.getSessionEvents sessionId = s.2.events.getSessionEvents sessionId ++ new ∧
      Change config s.2.events sessionId request tr (reply.tokenFor sessionId) new := by
  have hnothing (htoken : reply.tokenFor sessionId = none)
      (hlog : s'.2.events.getSessionEvents sessionId = s.2.events.getSessionEvents sessionId) :
      ∃ new, s'.2.events.getSessionEvents sessionId = s.2.events.getSessionEvents sessionId ++ new ∧
        Change config s.2.events sessionId request tr (reply.tokenFor sessionId) new :=
    ⟨[], by rw [hlog, List.append_nil], .nothing htoken⟩
  cases request with
  | sessions tierParam hoursParam xSessionTx =>
    rcases runs_sessions h with ⟨hdeclines, hreply⟩ | ⟨c, a, new, hconfirms, hrelay, rfl⟩
    · exact hnothing (tokenFor_eq_none hreply) (by rw [hdeclines.unchanged.events])
    · exact hconfirms.change hrelay hbegun sessionId
  | forceRelayFailure id =>
    have htoken : reply.tokenFor sessionId = none := tokenFor_eq_none (not_isSession h (by simp))
    obtain ⟨a, hr, -⟩ := runs_respond h
    obtain ⟨-, hunchanged | ⟨tier, failed, next, new, before, tr', b, hactive, htier, hfailed,
      hread, happends, rfl, hfails⟩⟩ := runs_failoverRoute hr
    · exact hnothing htoken (by rw [hunchanged.events])
    · by_cases hid : id = sessionId
      · subst hid
        exact ⟨new, happends.self, .failover rfl hactive htier hfailed hread rfl hfails htoken⟩
      · exact hnothing htoken (happends.others sessionId (Ne.symm hid))
  | endSession id =>
    have htoken : reply.tokenFor sessionId = none := tokenFor_eq_none (not_isSession h (by simp))
    obtain ⟨a, hr, -⟩ := runs_respond h
    obtain ⟨-, hunchanged | ⟨new, hactive, happends, hstates, hexpiry, htier⟩⟩ := runs_endSessionRoute hr
    · exact hnothing htoken (by rw [hunchanged.events])
    · by_cases hid : id = sessionId
      · subst hid
        exact ⟨new, happends.self, .ended rfl hactive hstates hexpiry htier htoken⟩
      · exact hnothing htoken (happends.others sessionId (Ne.symm hid))
  | sessionDetail id =>
    have htoken : reply.tokenFor sessionId = none := tokenFor_eq_none (not_isSession h (by simp))
    obtain ⟨a, hr, -⟩ := runs_respond h
    exact hnothing htoken (by rw [(runs_sessionDetailRoute hr).2.events])

end Change

end DVoD.Orchestrator
