import DVoD.Orchestrator.Interleaving

/-!
# One request after another

What the routines of the handlers do when a request is run alone: the rows that it
adds to the log of its session (`Appends`), and how its outcome goes with them.
-/

namespace DVoD.Orchestrator

open DVoD.Async DVoD.Async.Program DVoD.Async.System DVoD.Arc DVoD.Evm DVoD.Session

abbrev Trace := List (Answered Answer)

/-- The routine `p`, run alone from `s`, ends in `s'` with `a`. -/
abbrev Runs (config : Config) {α : Type} (p : Process α) (s : Memory × Env) (tr : Trace) (a : α)
    (s' : Memory × Env) : Prop :=
  Evaluates (system config) p s tr a s'

/-- No promise that was awaited was rejected. -/
def Undisturbed (tr : Trace) : Prop := ∀ ans ∈ tr, ans.2 ≠ none

theorem undisturbed_append {tr tr' : Trace} :
    Undisturbed (tr ++ tr') ↔ Undisturbed tr ∧ Undisturbed tr' := List.forall_mem_append

theorem undisturbed_some {c : Command} (x : Found c) : Undisturbed [⟨c, some x⟩] := by
  intro ans hans
  rw [List.mem_singleton.mp hans]
  exact Option.some_ne_none x

theorem not_undisturbed_none {c : Command} : ¬ Undisturbed [⟨c, none⟩] := by
  intro h
  exact h _ (List.mem_singleton_self _) rfl

/-! ### Rows added to one log -/

/-- The rows `new` were added to the log of the session, and no others to any log. -/
structure Appends (t t' : SessionEvents) (sessionId : String) (new : List SessionEventRow) : Prop where
  self : t'.getSessionEvents sessionId = t.getSessionEvents sessionId ++ new
  others : ∀ id, id ≠ sessionId → t'.getSessionEvents id = t.getSessionEvents id

theorem Appends.refl (t : SessionEvents) (sessionId : String) : Appends t t sessionId [] :=
  ⟨(List.append_nil _).symm, fun _ _ => rfl⟩

theorem Appends.trans {t₁ t₂ t₃ : SessionEvents} {sessionId : String}
    {new₁ new₂ : List SessionEventRow} (h₁ : Appends t₁ t₂ sessionId new₁)
    (h₂ : Appends t₂ t₃ sessionId new₂) : Appends t₁ t₃ sessionId (new₁ ++ new₂) :=
  ⟨by rw [h₂.self, h₁.self, List.append_assoc], fun id hid => (h₂.others id hid).trans (h₁.others id hid)⟩

theorem Appends.unique {t t' : SessionEvents} {new new' : List SessionEventRow}
    (h : Appends t t' sessionId new) (h' : Appends t t' sessionId new') : new = new' :=
  List.append_cancel_left (h.self.symm.trans h'.self)

theorem Appends.insert (t : SessionEvents) (row : NewRow) (createdAt : ℕ) :
    Appends t (t.insert row createdAt) row.sessionId [row.toRow t.nextId createdAt] :=
  ⟨SessionEvents.getSessionEvents_insert_self, fun _ hid =>
    SessionEvents.getSessionEvents_insert_of_ne (Ne.symm hid)⟩

/-! ### Commands -/

section Commands

variable {config : Config} {s s' : Memory × Env} {tr : Trace}

structure Unchanged (s s' : Memory × Env) : Prop where
  events : s'.2.events = s.2.events
  used : s'.1.usedTxHashes = s.1.usedTxHashes

theorem Unchanged.trans {s₁ s₂ s₃ : Memory × Env} (h₁ : Unchanged s₁ s₂) (h₂ : Unchanged s₂ s₃) :
    Unchanged s₁ s₃ :=
  ⟨h₂.events.trans h₁.events, h₂.used.trans h₁.used⟩

theorem happen_unchanged {D : Deployment} (event : Event D) (s : Memory × Env) :
    Unchanged s (happen event s) := by
  cases event <;> exact ⟨rfl, rfl⟩

theorem happenAll_unchanged (events : List (Event config.escrow)) (s : Memory × Env) :
    Unchanged s ((system config).happenAll events s) := by
  induction events generalizing s with
  | nil => exact ⟨rfl, rfl⟩
  | cons event events ih => exact (happen_unchanged event s).trans (ih (happen event s))

theorem runs_call {c : Command} {r : Answer c} (h : Runs config (Program.call c) s tr r s') :
    ∃ o env, env.events = s.2.events ∧ (answer config o env c).1 = r ∧ tr = [⟨c, r⟩] ∧
      s'.2 = (answer config o env c).2 ∧ s'.1.usedTxHashes = s.1.usedTxHashes := by
  cases h with
  | await events o hes hans hk =>
    obtain ⟨rfl, rfl, rfl⟩ := evaluates_done.mp hk
    have hunchanged := happenAll_unchanged events s
    rw [hes] at hunchanged
    exact ⟨o, _, hunchanged.events, congrArg Prod.fst hans, rfl, (congrArg Prod.snd hans).symm,
      hunchanged.used⟩

theorem runs_awaitOr {e : Thrown} {c : Command} {a : Except Thrown (Found c)}
    (h : Runs config (awaitOr e c).run s tr a s') : ∃ r, Runs config (Program.call c) s tr r s' ∧
      ((∃ x, r = some x ∧ a = .ok x) ∨ (r = none ∧ a = .error e)) := by
  obtain ⟨tr₁, r, s₁, tr₂, h₁, h₂, rfl⟩ := evaluates_bind.mp h
  rcases r with _ | x <;> obtain ⟨rfl, rfl, rfl⟩ := evaluates_done.mp h₂ <;>
    rw [List.append_nil]
  · exact ⟨none, h₁, Or.inr ⟨rfl, rfl⟩⟩
  · exact ⟨some x, h₁, Or.inl ⟨x, rfl, rfl⟩⟩

/-- A `SELECT` found `x`, or failed. -/
structure Selects {c : Command} (s s' : Memory × Env) (tr : Trace) (x : Found c)
    (a : Except Thrown (Found c)) : Prop where
  unchanged : Unchanged s s'
  outcome : (Undisturbed tr ∧ a = .ok x) ∨ (¬ Undisturbed tr ∧ a = .error .query)
  trace : ∃ r, tr = [⟨c, r⟩]

theorem runs_select {c : Command} (found : SessionEvents → Found c) {a : Except Thrown (Found c)}
    (hc : ∀ o env, answer config o env c = (o.select (found env.events), env))
    (h : Runs config (awaitOr .query c).run s tr a s') : Selects s s' tr (found s.2.events) a := by
  obtain ⟨r, hcall, hr⟩ := runs_awaitOr h
  obtain ⟨o, env, henv, hanswer, rfl, hs', hused⟩ := runs_call hcall
  rw [hc] at hanswer hs'
  refine ⟨⟨by rw [hs', henv], hused⟩, ?_, r, rfl⟩
  rcases hr with ⟨x, rfl, rfl⟩ | ⟨rfl, rfl⟩
  · unfold Oracle.select at hanswer
    split at hanswer
    · exact Or.inl ⟨undisturbed_some x, by rw [← henv, Option.some.inj hanswer]⟩
    · cases hanswer
  · exact Or.inr ⟨not_undisturbed_none, rfl⟩

variable {sessionId : String}

theorem runs_getCurrentState {a : Except Thrown (Option SessionState)}
    (h : Runs config (getCurrentState sessionId).run s tr a s') :
    Selects (c := .selectToState sessionId) s s' tr (s.2.events.getCurrentState sessionId) a :=
  runs_select (fun t => t.getCurrentState sessionId) (fun _ _ => rfl) h

theorem runs_getTier {a : Except Thrown (Option Tier)}
    (h : Runs config (getTier sessionId).run s tr a s') :
    Selects (c := .selectTier sessionId) s s' tr (s.2.events.getTier sessionId) a :=
  runs_select (fun t => t.getTier sessionId) (fun _ _ => rfl) h

theorem runs_getCurrentRelay {a : Except Thrown (Option String)}
    (h : Runs config (getCurrentRelay sessionId).run s tr a s') :
    Selects (c := .selectRelay sessionId) s s' tr (s.2.events.getCurrentRelay sessionId) a :=
  runs_select (fun t => t.getCurrentRelay sessionId) (fun _ _ => rfl) h

end Commands

/-! ### One transition -/

section Transition

variable {config : Config} {s s' : Memory × Env} {tr : Trace} {sessionId : String}
  {toState : SessionState} {options : TransitionOptions}

/-- The row records the transition from the end of the log `rows`. -/
structure RowOf (rows : List SessionEventRow) (sessionId : String) (toState : SessionState)
    (options : TransitionOptions) (row : SessionEventRow) : Prop where
  allowed : Allowed (lastState none rows) toState
  toState : row.toState = toState
  relay : row.relay = options.relay
  tier : ∀ tier, options.tier = some tier → row.tier = some tier
  expiresAt : row.expiresAt = options.expiresAt.filter (· ≠ 0)

/-- The outcomes of one transition that is recorded alone, with the rows it adds. -/
inductive Outcome (rows : List SessionEventRow) (sessionId : String) (toState : SessionState)
    (options : TransitionOptions) (tr : Trace) :
    Except Thrown SessionEventRow → List SessionEventRow → Prop
  | recorded (row : SessionEventRow) : RowOf rows sessionId toState options row → Undisturbed tr →
      Outcome rows sessionId toState options tr (.ok row) [row]
  | unanswered (row : SessionEventRow) (new : NewRow) : RowOf rows sessionId toState options row →
      ⟨.insertEvent new, none⟩ ∈ tr → Outcome rows sessionId toState options tr (.error .query) [row]
  | invalid (message : String) : ¬ Allowed (lastState none rows) toState → Undisturbed tr →
      Outcome rows sessionId toState options tr (.error (.invalidTransition message)) []
  | failed : ¬ Undisturbed tr → Outcome rows sessionId toState options tr (.error .query) []

def IsSelect : Command → Prop
  | .selectToState _ | .selectTier _ | .selectRelay _ | .selectExpiresAt _ | .selectEvents _ => True
  | _ => False

def SelectsOnly (tr : Trace) : Prop := ∀ ans ∈ tr, IsSelect ans.1

/-- The commands of a transition: `SELECT`s, and the `INSERT` of such a row. -/
def InsertsOnly (sessionId : String) (toState : SessionState) (tr : Trace) : Prop :=
  ∀ ans ∈ tr, IsSelect ans.1 ∨
    ∃ new, ans.1 = .insertEvent new ∧ new.sessionId = sessionId ∧ new.toState = toState

theorem SelectsOnly.insertsOnly (h : SelectsOnly tr) : InsertsOnly sessionId toState tr := by
  intro ans hmem
  exact Or.inl (h ans hmem)

theorem selectsOnly_nil : SelectsOnly [] := by
  intro _ h
  cases h

theorem selectsOnly_singleton {c : Command} (r : Answer c) (hc : IsSelect c) :
    SelectsOnly [⟨c, r⟩] := by
  intro ans hmem
  rwa [List.mem_singleton.mp hmem]

theorem InsertsOnly.append {tr' : Trace} (h : InsertsOnly sessionId toState tr)
    (h' : InsertsOnly sessionId toState tr') : InsertsOnly sessionId toState (tr ++ tr') :=
  List.forall_mem_append.mpr ⟨h, h'⟩

theorem insertsOnly_singleton (row : NewRow) (r : Answer (.insertEvent row)) :
    InsertsOnly row.sessionId row.toState [⟨.insertEvent row, r⟩] := by
  intro ans hmem
  rw [List.mem_singleton.mp hmem]
  exact Or.inr ⟨row, rfl, rfl, rfl⟩

theorem checkTransition_eq_error (sessionId : String) {current : Option SessionState}
    (h : ¬ Allowed current toState) :
    ∃ message, checkTransition sessionId current toState = .error (.invalidTransition message) := by
  cases current <;> simp_all [checkTransition, Allowed]

theorem runs_transitionTier {a : Except Thrown (Option Tier)}
    (h : Runs config (transitionTier sessionId options).run s tr a s') :
    Unchanged s s' ∧ SelectsOnly tr ∧
      ((Undisturbed tr ∧ ∃ tier, a = .ok tier ∧ ∀ t, options.tier = some t → tier = some t) ∨
        (¬ Undisturbed tr ∧ a = .error .query)) := by
  unfold transitionTier at h
  split at h
  · next tier htier =>
    obtain ⟨rfl, rfl, rfl⟩ := evaluates_done.mp h
    exact ⟨⟨rfl, rfl⟩, selectsOnly_nil, Or.inl ⟨by simp [Undisturbed], some tier, rfl, by simp [htier]⟩⟩
  · next htier =>
    have hselect := runs_getTier h
    obtain ⟨r, rfl⟩ := hselect.trace
    refine ⟨hselect.unchanged, selectsOnly_singleton r trivial, ?_⟩
    refine hselect.outcome.imp_left ?_
    rintro ⟨hun, ha⟩
    exact ⟨hun, _, ha, by simp [htier]⟩

theorem runs_insertRow {row : NewRow} {a : Except Thrown SessionEventRow}
    (h : Runs config (insertRow row).run s tr a s') : s'.1.usedTxHashes = s.1.usedTxHashes ∧
      (∃ r, tr = [⟨.insertEvent row, r⟩]) ∧
      ((∃ id createdAt, Appends s.2.events s'.2.events row.sessionId [row.toRow id createdAt] ∧
        ((a = .ok (row.toRow id createdAt) ∧ Undisturbed tr) ∨
          (a = .error .query ∧ ⟨.insertEvent row, none⟩ ∈ tr))) ∨
      (Appends s.2.events s'.2.events row.sessionId [] ∧ a = .error .query ∧ ¬ Undisturbed tr)) := by
  obtain ⟨r, hcall, hr⟩ := runs_awaitOr h
  obtain ⟨o, env, henv, hanswer, rfl, hs', hused⟩ := runs_call hcall
  refine ⟨hused, ⟨r, rfl⟩, ?_⟩
  have hinserted (hevents : s'.2.events = env.events.insert row o.createdAt) :
      Appends s.2.events s'.2.events row.sessionId [row.toRow env.events.nextId o.createdAt] := by
    rw [hevents, ← henv]
    exact Appends.insert ..
  rcases hfault : o.fault with _ | _ | _ <;> simp only [answer, hfault] at hanswer hs' <;>
    subst hanswer
  · obtain ⟨x, hx, rfl⟩ | ⟨hnone, -⟩ := hr
    · obtain rfl := Option.some.inj hx
      exact Or.inl ⟨_, _, hinserted (by rw [hs']), Or.inl ⟨rfl, undisturbed_some _⟩⟩
    · cases hnone
  · obtain ⟨x, hx, -⟩ | ⟨-, rfl⟩ := hr
    · cases hx
    · refine Or.inr ⟨?_, rfl, not_undisturbed_none⟩
      rw [hs', henv]
      exact Appends.refl ..
  · obtain ⟨x, hx, -⟩ | ⟨-, rfl⟩ := hr
    · cases hx
    · exact Or.inl ⟨_, _, hinserted (by rw [hs']), Or.inr ⟨rfl, List.mem_singleton_self _⟩⟩

theorem runs_checkTransition {current : Option SessionState} {a : Except Thrown Unit}
    (h : Runs config (ExceptT.mk (Program.done (checkTransition sessionId current toState)) :
      Handler Unit).run s tr a s') :
    s' = s ∧ tr = [] ∧ a = checkTransition sessionId current toState := by
  obtain ⟨rfl, rfl, rfl⟩ := evaluates_done.mp h
  exact ⟨rfl, rfl, rfl⟩

theorem Appends.of_unchanged (h : Unchanged s s') : Appends s.2.events s'.2.events sessionId [] := by
  rw [h.events]
  exact Appends.refl ..

theorem runs_transitionFrom {a : Except Thrown SessionEventRow}
    (h : Runs config (transitionFrom sessionId toState options
      (s.2.events.getCurrentState sessionId)).run s tr a s') :
    s'.1.usedTxHashes = s.1.usedTxHashes ∧ InsertsOnly sessionId toState tr ∧
      ∃ new, Appends s.2.events s'.2.events sessionId new ∧
        Outcome (s.2.events.getSessionEvents sessionId) sessionId toState options tr a new := by
  have hlast := lastState_getSessionEvents s.2.events sessionId
  rcases evaluates_bind_run.mp h with ⟨e, rfl, herror⟩ | ⟨tr₁, _, s₁, tr', hok, hrest, rfl⟩
  · obtain ⟨rfl, rfl, hcheck⟩ := runs_checkTransition herror
    have hallowed : ¬ Allowed (s'.2.events.getCurrentState sessionId) toState := fun hallowed => by
      rw [checkTransition_eq_ok.mpr hallowed] at hcheck
      cases hcheck
    obtain ⟨message, hmessage⟩ := checkTransition_eq_error sessionId hallowed
    obtain rfl : e = .invalidTransition message := Except.error.inj (hcheck.trans hmessage)
    exact ⟨rfl, selectsOnly_nil.insertsOnly, [], Appends.refl .., .invalid message (hlast ▸ hallowed)
      (by simp [Undisturbed])⟩
  obtain ⟨rfl, rfl, hcheck⟩ := runs_checkTransition hok
  have hallowed := checkTransition_eq_ok.mp hcheck.symm
  rw [List.nil_append]
  rcases evaluates_bind_run.mp hrest with ⟨e, rfl, htier⟩ | ⟨tr₁, tier, s₂, tr₂, htier, hinsert, rfl⟩
  · obtain ⟨hunchanged, hno, ⟨-, _, herr, -⟩ | ⟨hdisturbed, he⟩⟩ := runs_transitionTier htier
    · cases herr
    · obtain rfl := Except.error.inj he
      exact ⟨hunchanged.used, hno.insertsOnly, [], .of_unchanged hunchanged, .failed hdisturbed⟩
  obtain ⟨hunchanged, hno, ⟨hun, tier', htier', htierOf⟩ | ⟨-, herr⟩⟩ := runs_transitionTier htier
  swap
  · cases herr
  obtain rfl := Except.ok.inj htier'
  obtain ⟨hused, ⟨r, rfl⟩, houtcome⟩ := runs_insertRow hinsert
  have hinserts := hno.insertsOnly.append (insertsOnly_singleton
    (options.row sessionId (s₁.2.events.getCurrentState sessionId) toState tier) r)
  refine ⟨hused.trans hunchanged.used, hinserts, ?_⟩
  rw [hunchanged.events] at houtcome
  rcases houtcome with ⟨id, createdAt, happends, hresult⟩ | ⟨happends, rfl, hdisturbed⟩
  · have hrow : RowOf (s₁.2.events.getSessionEvents sessionId) sessionId toState options
        ((options.row sessionId (s₁.2.events.getCurrentState sessionId) toState tier).toRow id createdAt) :=
      ⟨hlast ▸ hallowed, rfl, rfl, htierOf, rfl⟩
    refine ⟨_, happends, ?_⟩
    rcases hresult with ⟨rfl, hun'⟩ | ⟨rfl, hnone⟩
    · exact .recorded _ hrow (undisturbed_append.mpr ⟨hun, hun'⟩)
    · exact .unanswered _ _ hrow (List.mem_append_right _ hnone)
  · exact ⟨[], happends, .failed fun hun => hdisturbed (undisturbed_append.mp hun).2⟩

/-- What a transition recorded alone does. -/
theorem runs_recordTransition {a : Except Thrown SessionEventRow}
    (h : Runs config (recordTransition sessionId toState options).run s tr a s') :
    s'.1.usedTxHashes = s.1.usedTxHashes ∧ InsertsOnly sessionId toState tr ∧
      ∃ new, Appends s.2.events s'.2.events sessionId new ∧
        Outcome (s.2.events.getSessionEvents sessionId) sessionId toState options tr a new := by
  rcases evaluates_bind_run.mp h with ⟨e, rfl, hselect⟩ |
    ⟨tr₁, current, s₁, tr', hselect, hfrom, rfl⟩
  · have hselects := runs_getCurrentState hselect
    obtain ⟨r, rfl⟩ := hselects.trace
    obtain ⟨-, herr⟩ | ⟨hdisturbed, he⟩ := hselects.outcome
    · cases herr
    · obtain rfl := Except.error.inj he
      exact ⟨hselects.unchanged.used, (selectsOnly_singleton r trivial).insertsOnly, [],
        .of_unchanged hselects.unchanged, .failed hdisturbed⟩
  · have hselects := runs_getCurrentState hselect
    obtain ⟨r, rfl⟩ := hselects.trace
    obtain ⟨hun, hcurrent⟩ | ⟨-, herr⟩ := hselects.outcome
    swap
    · cases herr
    have hevents := hselects.unchanged.events
    rw [Except.ok.inj hcurrent, ← hevents] at hfrom
    obtain ⟨hused, hinserts, new, happends, houtcome⟩ := runs_transitionFrom hfrom
    rw [hevents] at happends houtcome
    refine ⟨hused.trans hselects.unchanged.used,
      (selectsOnly_singleton r trivial).insertsOnly.append hinserts, new, happends, ?_⟩
    cases houtcome with
    | recorded row hrow hun' => exact .recorded row hrow (undisturbed_append.mpr ⟨hun, hun'⟩)
    | unanswered row new hrow hnone => exact .unanswered row new hrow (List.mem_append_right _ hnone)
    | invalid message hnot hun' => exact .invalid message hnot (undisturbed_append.mpr ⟨hun, hun'⟩)
    | failed hdisturbed => exact .failed fun hun' => hdisturbed (undisturbed_append.mp hun').2

end Transition

/-! ### Transitions one after another -/

section Transitions

variable {config : Config} {s s' : Memory × Env} {tr : Trace} {sessionId : String}
  {options : TransitionOptions} {rows new : List SessionEventRow}
  {transitions : List (SessionState × Option String)} {a : Except Thrown Unit}

/-- The outcomes of transitions recorded one after another, with the rows they add. -/
inductive Outcomes (sessionId : String) (options : TransitionOptions) :
    List SessionEventRow → List (SessionState × Option String) → Trace → Except Thrown Unit →
      List SessionEventRow → Prop
  | nil (rows : List SessionEventRow) : Outcomes sessionId options rows [] [] (.ok ()) []
  | next {rows toState detail transitions row tr₁ tr₂ a new} :
      InsertsOnly sessionId toState tr₁ →
      Outcome rows sessionId toState { options with detail := detail } tr₁ (.ok row) [row] →
      Outcomes sessionId options (rows ++ [row]) transitions tr₂ a new →
      Outcomes sessionId options rows ((toState, detail) :: transitions) (tr₁ ++ tr₂) a (row :: new)
  | stop {rows toState detail transitions tr e new} : InsertsOnly sessionId toState tr →
      Outcome rows sessionId toState { options with detail := detail } tr (.error e) new →
      Outcomes sessionId options rows ((toState, detail) :: transitions) tr (.error e) new

theorem runs_broadcast {event : SessionEventRow} {a : Except Thrown Unit}
    (h : Runs config (broadcast event).run s tr a s') : Unchanged s s' ∧ tr = [] ∧ a = .ok () := by
  cases h with
  | sync h =>
    obtain ⟨rfl, rfl, rfl⟩ := evaluates_done.mp h
    exact ⟨⟨rfl, rfl⟩, rfl, rfl⟩

theorem runs_recordAll (h : Runs config (recordAll sessionId options transitions).run s tr a s') :
    s'.1.usedTxHashes = s.1.usedTxHashes ∧ ∃ new, Appends s.2.events s'.2.events sessionId new ∧
      Outcomes sessionId options (s.2.events.getSessionEvents sessionId) transitions tr a new := by
  induction transitions generalizing s tr with
  | nil =>
    obtain ⟨rfl, rfl, rfl⟩ := evaluates_done.mp h
    exact ⟨rfl, [], Appends.refl .., .nil _⟩
  | cons transition transitions ih =>
    obtain ⟨toState, detail⟩ := transition
    rcases evaluates_bind_run.mp h with ⟨e, rfl, hrecord⟩ | ⟨tr₁, row, s₁, tr', hrecord, hrest, rfl⟩
    · obtain ⟨hused, hinserts, new, happends, houtcome⟩ := runs_recordTransition hrecord
      exact ⟨hused, new, happends, .stop hinserts houtcome⟩
    obtain ⟨hused, hinserts, new, happends, houtcome⟩ := runs_recordTransition hrecord
    rcases evaluates_bind_run.mp hrest with ⟨e, rfl, hbroadcast⟩ |
      ⟨tr₂, _, s₂, tr₃, hbroadcast, hrecords, rfl⟩
    · cases (runs_broadcast hbroadcast).2.2
    obtain ⟨hunchanged, rfl, -⟩ := runs_broadcast hbroadcast
    obtain ⟨hused', new', happends', houtcomes⟩ := ih hrecords
    rw [hunchanged.events] at happends' houtcomes
    obtain ⟨row, hrow, hun⟩ : ∃ r, new = [r] ∧ row = r := by
      cases houtcome with
      | recorded row hrow hun => exact ⟨row, rfl, rfl⟩
    subst hrow hun
    rw [happends.self] at houtcomes
    exact ⟨(hused'.trans hunchanged.used).trans hused, _, happends.trans happends',
      .next hinserts houtcome houtcomes⟩

def Chained : Option SessionState → List (SessionState × Option String) → Prop
  | _, [] => True
  | state, (toState, _) :: transitions => Allowed state toState ∧ Chained (some toState) transitions

variable (h : Outcomes sessionId options rows transitions tr a new)

include h

theorem Outcomes.of_ok (ha : a = .ok ()) :
    Undisturbed tr ∧ new.map SessionEventRow.toState = transitions.map Prod.fst := by
  induction h with
  | nil rows => exact ⟨by simp [Undisturbed], rfl⟩
  | next _ houtcome _ ih =>
    obtain ⟨hun', hstates⟩ := ih ha
    cases houtcome with
    | recorded row hrow hun =>
      exact ⟨undisturbed_append.mpr ⟨hun, hun'⟩, by simp [hstates, hrow.toState]⟩
  | stop => cases ha

theorem Outcomes.ok_of_chained (hun : Undisturbed tr) (hc : Chained (lastState none rows) transitions) :
    a = .ok () := by
  induction h with
  | nil rows => rfl
  | next _ houtcome _ ih =>
    obtain ⟨hun₁, hun₂⟩ := undisturbed_append.mp hun
    cases houtcome with
    | recorded row hrow _ =>
      apply ih hun₂
      rw [lastState_concat, hrow.toState]
      exact hc.2
  | stop _ houtcome =>
    cases houtcome with
    | unanswered row new' _ hnone => exact absurd rfl (hun _ hnone)
    | invalid message hnot _ => exact absurd hc.1 hnot
    | failed hdisturbed => exact absurd hun hdisturbed

theorem Outcomes.added : new.map SessionEventRow.toState <+: transitions.map Prod.fst ∧
    ∀ row ∈ new, row.relay = options.relay ∧ row.expiresAt = options.expiresAt.filter (· ≠ 0) := by
  induction h with
  | nil rows => exact ⟨List.prefix_refl _, by simp⟩
  | next _ houtcome _ ih =>
    cases houtcome with
    | recorded row hrow _ =>
      refine ⟨?_, List.forall_mem_cons.mpr ⟨⟨hrow.relay, hrow.expiresAt⟩, ih.2⟩⟩
      rw [List.map_cons, List.map_cons, hrow.toState]
      exact (List.prefix_cons_inj _).mpr ih.1
  | stop _ houtcome =>
    cases houtcome with
    | unanswered row new' hrow _ =>
      refine ⟨?_, List.forall_mem_singleton.mpr ⟨hrow.relay, hrow.expiresAt⟩⟩
      simp [hrow.toState]
    | invalid => exact ⟨List.nil_prefix, by simp⟩
    | failed => exact ⟨List.nil_prefix, by simp⟩

omit h in
theorem Outcomes.queries (h : Outcomes sessionId options rows transitions tr a new) :
    ∀ ans ∈ tr, IsSelect ans.1 ∨ ∃ row, ans.1 = .insertEvent row := by
  have hqueries {toState tr} (hinserts : InsertsOnly sessionId toState tr) :
      ∀ ans ∈ tr, IsSelect ans.1 ∨ ∃ row, ans.1 = .insertEvent row := fun ans hans =>
    (hinserts ans hans).imp_right fun ⟨row, hrow, _⟩ => ⟨row, hrow⟩
  induction h with
  | nil rows => simp
  | next hinserts _ _ ih => exact List.forall_mem_append.mpr ⟨hqueries hinserts, ih⟩
  | stop hinserts _ => exact hqueries hinserts

omit h in
theorem Outcomes.of_nothing {toState : SessionState} {detail : Option String}
    (h : Outcomes sessionId options rows ((toState, detail) :: transitions) tr a []) :
    InsertsOnly sessionId toState tr ∧ a ≠ .ok () := by
  cases h with
  | stop hinserts _ => exact ⟨hinserts, by simp⟩

omit h in
/-- Where all was recorded and yet something was thrown, the last `INSERT` was executed
    and not answered. -/
theorem Outcomes.unanswered (h : Outcomes sessionId options rows transitions tr a new)
    (ha : a ≠ .ok ()) (hstates : new.map SessionEventRow.toState = transitions.map Prod.fst) :
    ∃ row, ⟨.insertEvent row, none⟩ ∈ tr ∧ row.sessionId = sessionId ∧
      (transitions.map Prod.fst).getLast? = some row.toState := by
  induction h with
  | nil rows => exact absurd rfl ha
  | @next rows toState detail transitions row tr₁ tr₂ a new _ _ houtcomes ih =>
    obtain ⟨row', hmem, hid, hlast⟩ := ih ha (List.cons.inj hstates).2
    refine ⟨row', List.mem_append_right _ hmem, hid, ?_⟩
    rw [List.map_cons, List.getLast?_cons, hlast]
    rfl
  | @stop rows toState detail transitions tr e new hinserts houtcome =>
    cases houtcome with
    | unanswered row row' hrow hnone =>
      obtain hselect | ⟨row'', heq, hid, hstate⟩ := hinserts _ hnone
      · cases hselect
      · obtain rfl := Command.insertEvent.inj heq
        obtain rfl : transitions = [] := by
          have := (List.cons.inj hstates).2
          cases transitions <;> simp_all
        exact ⟨row', hnone, hid, by simp [hstate]⟩
    | invalid => cases hstates
    | failed => cases hstates

omit h in
theorem Outcomes.of_not_allowed {toState : SessionState} {detail : Option String}
    (h : Outcomes sessionId options rows ((toState, detail) :: transitions) tr a new)
    (hnot : ¬ Allowed (lastState none rows) toState) :
    new = [] ∧ a ≠ .ok () ∧ InsertsOnly sessionId toState tr := by
  cases h with
  | next _ houtcome _ =>
    cases houtcome with
    | recorded row hrow _ => exact absurd hrow.allowed hnot
  | stop hinserts houtcome =>
    refine ⟨?_, by simp, hinserts⟩
    cases houtcome with
    | unanswered row new' hrow _ => exact absurd hrow.allowed hnot
    | invalid => rfl
    | failed => rfl

end Transitions

/-! ### Confirmations -/

section Confirmation

variable {config : Config} {s s' : Memory × Env} {tr : Trace}

/-- What a confirmed purchase depends on: what was asked, the relay chosen, the receipt
    read, what it verifies to, and the time. -/
structure Confirmation where
  txHash : String
  tier : Tier
  hours : SessionHours
  relay : CapabilityRecord
  receipt : Option Receipt
  id : Word
  payer : Address
  now : Instant

namespace Confirmation

variable (c : Confirmation)

def sessionId : String := toString c.id.toNat
def expiresAt : ℕ := expiryOf c.now c.hours
def options : TransitionOptions := ⟨some c.relay.operator, some c.tier, none, some c.expiresAt⟩
def transitions : List (SessionState × Option String) := purchaseTransitions c.txHash c.relay
def payload : SessionTokenPayload := tokenPayload c.id c.relay c.tier c.hours c.now

def reply (config : Config) : Except Thrown Unit → Reply
  | .ok () => ⟨200, .session ⟨issueSessionToken config.sign c.payload config.secret,
      c.relay.operator, c.tier, c.hours, c.sessionId, c.payer, c.txHash, c.expiresAt⟩⟩
  | .error e => ⟨500, .uncaught e⟩

structure Passes (config : Config) (request : Request) : Prop where
  request : ∃ tierParam hoursParam, request = .sessions tierParam hoursParam (some c.txHash) ∧
    Tier.safeParse tierParam = some c.tier ∧ parseHours hoursParam = some c.hours
  verified : verifySessionPurchase config.escrow.address config.decodeEventLog c.receipt c.txHash
    (order c.tier c.hours) = .ok (c.id, c.payer)

end Confirmation

/-- The receipt in the answers passes the check for the session. -/
def Verified (config : Config) (request : Request) (tr : Trace) (sessionId : String) : Prop :=
  ∃ ans ∈ tr, VerifiesReceipt config sessionId request ans.1 ans.2

/-- The confirmation `c` of the request was recorded alone with the outcome `a`. -/
structure Confirms (config : Config) (request : Request) (c : Confirmation) (s s' : Memory × Env)
    (tr : Trace) (a : Except Thrown Unit) (new : List SessionEventRow) : Prop where
  passes : c.Passes config request
  txHash_ne : c.txHash ≠ ""
  unused : c.txHash ∉ s.1.usedTxHashes
  used : s'.1.usedTxHashes = c.txHash :: s.1.usedTxHashes
  appends : Appends s.2.events s'.2.events c.sessionId new
  trace : ∃ eligible tr', tr = ⟨.eligibleOperators c.tier, some eligible⟩ ::
    ⟨.getTransactionReceipt c.txHash, c.receipt⟩ :: tr' ∧
    Outcomes c.sessionId c.options (s.2.events.getSessionEvents c.sessionId) c.transitions tr' a new

def NoInserts (tr : Trace) : Prop := ∀ ans ∈ tr, ∀ new, ans.1 ≠ .insertEvent new

theorem noInserts_nil : NoInserts [] := by
  intro _ h
  cases h

structure Declines (config : Config) (request : Request) (s s' : Memory × Env) (tr : Trace) : Prop where
  unchanged : Unchanged s s'
  noInserts : NoInserts tr
  unverified : ∀ sessionId, ¬ Verified config request tr sessionId

theorem runs_eligibleOperators {tier : Tier} {a : Except Thrown (List CapabilityRecord)}
    (h : Runs config (awaitOr .discovery (.eligibleOperators tier)).run s tr a s') :
    Unchanged s s' ∧ ∃ r, tr = [⟨.eligibleOperators tier, r⟩] ∧
      ((∃ x, r = some x ∧ a = .ok x) ∨ (r = none ∧ a = .error .discovery)) := by
  obtain ⟨r, hcall, hr⟩ := runs_awaitOr h
  obtain ⟨o, env, henv, -, rfl, hs', hused⟩ := runs_call hcall
  exact ⟨⟨by rw [hs', ← henv]; rfl, hused⟩, r, rfl, hr⟩

theorem runs_getTransactionReceipt {txHash : String} {a : Except Thrown (Option Receipt)}
    (h : Runs config (ExceptT.lift (Program.call (Command.getTransactionReceipt txHash)) :
      Handler (Option Receipt)).run s tr a s') :
    Unchanged s s' ∧ ∃ r, tr = [⟨.getTransactionReceipt txHash, r⟩] ∧ a = .ok r := by
  obtain ⟨tr₁, r, s₁, tr₂, hcall, hdone, rfl⟩ := evaluates_bind.mp h
  obtain ⟨o, env, henv, -, rfl, hs', hused⟩ := runs_call hcall
  obtain ⟨rfl, rfl, rfl⟩ := evaluates_done.mp hdone
  exact ⟨⟨by rw [hs', ← henv]; rfl, hused⟩, r, rfl, rfl⟩

theorem runs_read {a : Except Thrown Memory}
    (h : Runs config (ExceptT.lift Program.read : Handler Memory).run s tr a s') :
    s' = s ∧ tr = [] ∧ a = .ok s.1 := by
  cases h with
  | sync h =>
    obtain ⟨rfl, rfl, rfl⟩ := evaluates_done.mp h
    exact ⟨rfl, rfl, rfl⟩

theorem runs_modify {update : Memory → Memory} {a : Except Thrown Unit}
    (h : Runs config (ExceptT.lift (Program.modify update) : Handler Unit).run s tr a s') :
    s' = (update s.1, s.2) ∧ tr = [] ∧ a = .ok () := by
  cases h with
  | sync h =>
    obtain ⟨rfl, rfl, rfl⟩ := evaluates_done.mp h
    exact ⟨rfl, rfl, rfl⟩

/-- `confirmPurchase` fails the check and leaves everything as it is, or passes it and
    records the session. -/
theorem runs_confirmPurchase {txHash : String} {tier : Tier} {hours : SessionHours}
    {relay : CapabilityRecord} {a : Except Thrown Reply}
    (h : Runs config (confirmPurchase config txHash tier hours relay).run s tr a s') :
    ∃ receipt tr', tr = ⟨.getTransactionReceipt txHash, receipt⟩ :: tr' ∧
      ((∃ error, verifySessionPurchase config.escrow.address config.decodeEventLog receipt txHash
          (order tier hours) = .error error ∧ a = .error (.paymentVerification error) ∧ tr' = [] ∧
          Unchanged s s') ∨
        ∃ id payer now, let c : Confirmation := ⟨txHash, tier, hours, relay, receipt, id, payer, now⟩
          verifySessionPurchase config.escrow.address config.decodeEventLog receipt txHash
            (order tier hours) = .ok (id, payer) ∧
          s'.1.usedTxHashes = txHash :: s.1.usedTxHashes ∧
          ∃ b new, Appends s.2.events s'.2.events c.sessionId new ∧
            Outcomes c.sessionId c.options (s.2.events.getSessionEvents c.sessionId) c.transitions
              tr' b new ∧ a = b.map fun _ => c.reply config (.ok ())) := by
  rcases evaluates_bind_run.mp h with ⟨e, -, hreceipt⟩ | ⟨tr₁, receipt, s₁, tr', hreceipt, hcheck, rfl⟩
  · obtain ⟨-, r, -, herr⟩ := runs_getTransactionReceipt hreceipt
    cases herr
  obtain ⟨hunchanged, r, rfl, hr⟩ := runs_getTransactionReceipt hreceipt
  obtain rfl := Except.ok.inj hr
  refine ⟨receipt, tr', rfl, ?_⟩
  split at hcheck
  next error hverify =>
    obtain ⟨rfl, rfl, rfl⟩ := evaluates_done.mp hcheck
    exact Or.inl ⟨error, hverify, rfl, rfl, hunchanged⟩
  next id payer hverify =>
  rcases evaluates_bind_run.mp hcheck with ⟨e, -, hmodify⟩ | ⟨tr₂, _, s₂, tr₃, hmodify, hused, rfl⟩
  · cases (runs_modify hmodify).2.2
  obtain ⟨rfl, rfl, -⟩ := runs_modify hmodify
  rcases evaluates_bind_run.mp hused with ⟨e, -, hread⟩ | ⟨tr₂, m, s₃, tr₄, hread, hnow, rfl⟩
  · cases (runs_read hread).2.2
  obtain ⟨rfl, rfl, hm⟩ := runs_read hread
  obtain rfl := Except.ok.inj hm
  refine Or.inr ⟨id, payer, s₁.1.now, hverify, ?_⟩
  rcases evaluates_bind_run.mp hnow with ⟨e, rfl, hrecord⟩ | ⟨tr₂, _, s₂, tr₃, hrecord, hreply, rfl⟩
  · obtain ⟨hused', new, happends, houtcomes⟩ := runs_recordAll hrecord
    rw [hunchanged.events] at happends houtcomes
    exact ⟨hused'.trans (congrArg _ hunchanged.used), _, new, happends, houtcomes, rfl⟩
  · obtain ⟨hused', new, happends, houtcomes⟩ := runs_recordAll hrecord
    rw [hunchanged.events] at happends houtcomes
    obtain ⟨rfl, rfl, rfl⟩ := evaluates_done.mp hreply
    simp only [List.nil_append, List.append_nil]
    exact ⟨hused'.trans (congrArg _ hunchanged.used), _, new, happends, houtcomes, rfl⟩

theorem Outcomes.error_cases {sessionId : String} {options : TransitionOptions}
    {rows new : List SessionEventRow} {transitions : List (SessionState × Option String)}
    {a : Except Thrown Unit} (h : Outcomes sessionId options rows transitions tr a new) :
    a = .ok () ∨ a = .error .query ∨ ∃ message, a = .error (.invalidTransition message) := by
  induction h with
  | nil rows => exact Or.inl rfl
  | next _ _ _ ih => exact ih
  | stop _ houtcome =>
    cases houtcome with
    | unanswered => exact Or.inr (Or.inl rfl)
    | invalid message => exact Or.inr (Or.inr ⟨message, rfl⟩)
    | failed => exact Or.inr (Or.inl rfl)

theorem runs_respond {h : Handler Reply} {reply : Reply}
    (hr : Runs config (respond h) s tr reply s') : ∃ a, Runs config h.run s tr a s' ∧
      ((a = .ok reply) ∨ ∃ e, a = .error e ∧ reply = ⟨500, .uncaught e⟩) := by
  obtain ⟨tr₁, a, s₁, tr₂, h₁, h₂, rfl⟩ := evaluates_bind.mp hr
  rcases a with e | reply' <;> obtain ⟨rfl, rfl, rfl⟩ := evaluates_done.mp h₂ <;>
    rw [List.append_nil]
  · exact ⟨_, h₁, Or.inr ⟨e, rfl, rfl⟩⟩
  · exact ⟨_, h₁, Or.inl rfl⟩

section Verified

variable {request : Request} {sessionId : String}

theorem not_verified_nil : ¬ Verified config request [] sessionId := by
  rintro ⟨_, h, _⟩
  cases h

theorem verified_cons {c : Command} {r : Answer c} :
    Verified config request (⟨c, r⟩ :: tr) sessionId ↔
      VerifiesReceipt config sessionId request c r ∨ Verified config request tr sessionId := by
  simp only [Verified, List.mem_cons, exists_eq_or_imp]

theorem not_verified_of_error {tierParam hoursParam txHash : String} {tier : Tier}
    {hours : SessionHours} {receipt : Option Receipt} {error : PaymentVerificationError}
    (htier : Tier.safeParse tierParam = some tier) (hhours : parseHours hoursParam = some hours)
    (h : verifySessionPurchase config.escrow.address config.decodeEventLog receipt txHash
      (order tier hours) = .error error) :
    ¬ VerifiesReceipt config sessionId (.sessions tierParam hoursParam (some txHash))
      (.getTransactionReceipt txHash) receipt := by
  rintro ⟨_, _, tier', hours', id, payer, hrequest, htier', hhours', hverify, -⟩
  cases hrequest
  cases htier.symm.trans htier'
  cases hhours.symm.trans hhours'
  cases h.symm.trans hverify

end Verified

theorem Declines.done (request : Request) {a b : Except Thrown Reply}
    (h : Runs config (Program.done b) s tr a s') : Declines config request s s' tr ∧ a = b := by
  obtain ⟨rfl, rfl, rfl⟩ := evaluates_done.mp h
  exact ⟨⟨⟨rfl, rfl⟩, noInserts_nil, fun _ => not_verified_nil⟩, rfl⟩

theorem Declines.cons {request : Request} {c : Command} {r : Answer c} {s₁ : Memory × Env}
    (h : Declines config request s₁ s' tr) (hunchanged : Unchanged s s₁)
    (hc : ∀ new, c ≠ .insertEvent new) (hr : ∀ sessionId, ¬ VerifiesReceipt config sessionId request c r) :
    Declines config request s s' (⟨c, r⟩ :: tr) where
  unchanged := hunchanged.trans h.unchanged
  noInserts := List.forall_mem_cons.mpr ⟨hc, h.noInserts⟩
  unverified sessionId hv := (verified_cons.mp hv).elim (hr sessionId) (h.unverified sessionId)

theorem runs_sessionsRoute {tierParam hoursParam : String} {xSessionTx : Option String}
    {a : Except Thrown Reply}
    (h : Runs config (sessionsRoute config tierParam hoursParam xSessionTx).run s tr a s') :
    (Declines config (.sessions tierParam hoursParam xSessionTx) s s' tr ∧
      ∀ reply, a = .ok reply → ¬ reply.body.IsSession) ∨
    ∃ c b new, Confirms config (.sessions tierParam hoursParam xSessionTx) c s s' tr b new ∧
      (∃ rest, ⟨.eligibleOperators c.tier, some (c.relay :: rest)⟩ ∈ tr) ∧
      a = b.map fun _ => c.reply config (.ok ()) := by
  have hdone {s tr} {result : Except Thrown Reply} (hr : Runs config (Program.done result) s tr a s')
      (hresult : ∀ reply, result = .ok reply → ¬ reply.body.IsSession) :
      Declines config (.sessions tierParam hoursParam xSessionTx) s s' tr ∧
        ∀ reply, a = .ok reply → ¬ reply.body.IsSession := by
    obtain ⟨hdeclines, rfl⟩ := Declines.done (.sessions tierParam hoursParam xSessionTx) hr
    exact ⟨hdeclines, hresult⟩
  unfold sessionsRoute at h
  split at h
  swap
  · exact Or.inl (hdone h (by simp [Body.IsSession]))
  next tier hours htier hhours =>
  rcases evaluates_bind_run.mp h with ⟨e, rfl, heligible⟩ | ⟨tr₁, eligible, s₁, tr', heligible, hrest, rfl⟩
  · obtain ⟨hunchanged, r, rfl, -⟩ := runs_eligibleOperators heligible
    refine Or.inl ⟨?_, by simp⟩
    exact Declines.cons ⟨⟨rfl, rfl⟩, noInserts_nil, fun _ => not_verified_nil⟩ hunchanged (by simp)
      fun _ => id
  obtain ⟨hunchanged, r, rfl, hr⟩ := runs_eligibleOperators heligible
  obtain ⟨x, rfl, hx⟩ | ⟨-, herr⟩ := hr
  swap
  · cases herr
  obtain rfl := Except.ok.inj hx
  have hcons (hd : Declines config (.sessions tierParam hoursParam xSessionTx) s₁ s' tr' ∧
      ∀ reply, a = .ok reply → ¬ reply.body.IsSession) :
      Declines config (.sessions tierParam hoursParam xSessionTx) s s'
        (⟨.eligibleOperators tier, some eligible⟩ :: tr') ∧
      ∀ reply, a = .ok reply → ¬ reply.body.IsSession :=
    ⟨hd.1.cons hunchanged (by simp) fun _ => id, hd.2⟩
  split at hrest
  · exact Or.inl (hcons (hdone hrest (by simp [Body.IsSession])))
  next relay _ =>
  split at hrest
  · exact Or.inl (hcons (hdone hrest (by simp [Body.IsSession])))
  next txHash hheader =>
  obtain ⟨rfl, htxHash⟩ := Option.filter_eq_some_iff.mp hheader
  replace htxHash : txHash ≠ "" := of_decide_eq_true htxHash
  rcases evaluates_bind_run.mp hrest with ⟨e, -, hread⟩ | ⟨tr₂, m, s₂, tr₃, hread, hused, rfl⟩
  · cases (runs_read hread).2.2
  obtain ⟨rfl, rfl, hm⟩ := runs_read hread
  obtain rfl := Except.ok.inj hm
  split at hused
  · exact Or.inl (hcons (hdone hused (by simp [Body.IsSession])))
  next hunused =>
  rcases evaluates_tryCatch_run.mp hused with ⟨reply, rfl, hconfirm⟩ |
    ⟨tr₁, e, s₃, tr₂, hconfirm, hcatch, rfl⟩
  · obtain ⟨receipt, tr', rfl, ⟨error, -, herr, -⟩ | ⟨id, payer, now, hverify, hused', b, new, happends,
      houtcomes, hb⟩⟩ := runs_confirmPurchase hconfirm
    · cases herr
    · refine Or.inr ⟨_, b, new, ⟨⟨⟨tierParam, hoursParam, rfl, htier, hhours⟩, hverify⟩,
        htxHash, hunchanged.used ▸ hunused, hused'.trans (congrArg _ hunchanged.used),
        hunchanged.events ▸ happends, _, tr', rfl, hunchanged.events ▸ houtcomes⟩,
        ⟨_, List.mem_cons_self⟩, hb⟩
  · obtain ⟨receipt, tr', rfl, ⟨error, hverify, herr, rfl, hunchanged'⟩ | ⟨id, payer, now, hverify,
      hused', b, new, happends, houtcomes, hb⟩⟩ := runs_confirmPurchase hconfirm
    · obtain rfl := Except.error.inj herr
      obtain ⟨hdeclines, hreply⟩ := hdone hcatch (by simp [Body.IsSession])
      exact Or.inl (hcons ⟨hdeclines.cons hunchanged' (by simp) fun _ =>
        not_verified_of_error htier hhours hverify, hreply⟩)
    · rcases b with e' | _
      swap
      · cases hb
      obtain rfl : e = e' := Except.error.inj hb
      -- the block throws what its transitions threw, which is not caught
      have hthrow : a = .error e ∧ s' = s₃ ∧ tr₂ = [] := by
        obtain herr | herr | ⟨message, herr⟩ := houtcomes.error_cases
        · cases herr
        · obtain rfl := Except.error.inj herr
          obtain ⟨rfl, rfl, rfl⟩ := evaluates_done.mp hcatch
          exact ⟨rfl, rfl, rfl⟩
        · obtain rfl := Except.error.inj herr
          obtain ⟨rfl, rfl, rfl⟩ := evaluates_done.mp hcatch
          exact ⟨rfl, rfl, rfl⟩
      obtain ⟨rfl, rfl, rfl⟩ := hthrow
      simp only [List.append_nil]
      refine Or.inr ⟨_, .error e, new, ⟨⟨⟨tierParam, hoursParam, rfl, htier, hhours⟩, hverify⟩,
        htxHash, hunchanged.used ▸ hunused, hused'.trans (congrArg _ hunchanged.used),
        hunchanged.events ▸ happends, _, tr', rfl, hunchanged.events ▸ houtcomes⟩,
        ⟨_, List.mem_cons_self⟩, rfl⟩

/-- **A confirmation alone** declines, or passes the check and records the session. -/
theorem runs_sessions {tierParam hoursParam : String} {xSessionTx : Option String} {reply : Reply}
    (h : Runs config (handle config (.sessions tierParam hoursParam xSessionTx)) s tr reply s') :
    (Declines config (.sessions tierParam hoursParam xSessionTx) s s' tr ∧ ¬ reply.body.IsSession) ∨
      ∃ c a new, Confirms config (.sessions tierParam hoursParam xSessionTx) c s s' tr a new ∧
        (∃ rest, ⟨.eligibleOperators c.tier, some (c.relay :: rest)⟩ ∈ tr) ∧
        reply = c.reply config a := by
  obtain ⟨a, h, ha⟩ := runs_respond h
  rcases runs_sessionsRoute h with ⟨hdeclines, hreply⟩ | ⟨c, b, new, hconfirms, hrelay, rfl⟩
  · obtain rfl | ⟨e, -, rfl⟩ := ha
    · exact Or.inl ⟨hdeclines, hreply reply rfl⟩
    · exact Or.inl ⟨hdeclines, id⟩
  · refine Or.inr ⟨c, b, new, hconfirms, hrelay, ?_⟩
    rcases b with e | _
    · obtain ha | ⟨e', he, rfl⟩ := ha
      · cases ha
      · obtain rfl := Except.error.inj he
        rfl
    · obtain ha | ⟨e', he, -⟩ := ha
      · exact (Except.ok.inj ha).symm
      · cases he

end Confirmation

end DVoD.Orchestrator
