import DVoD.Session.SessionState

/-!
# The session event log

The table `session_events` and the queries of `session-state.ts` on it.  Rows are kept
in the order of their ids, which `SessionEvents` carries as a field, so that the log of
a session ordered by id is its rows in the order of the list.

`ValidPath` is what the log of a session should be: a run of the state machine.
-/

namespace DVoD.Orchestrator

open DVoD.Session

/-- A row of the table; times are in milliseconds (`createdAt`) and seconds. -/
structure SessionEventRow where
  id : ℕ
  sessionId : String
  fromState : Option SessionState
  toState : SessionState
  relay : Option String
  tier : Option Tier
  detail : Option String
  createdAt : ℕ
  expiresAt : Option ℕ
deriving DecidableEq

structure NewRow where
  sessionId : String
  fromState : Option SessionState
  toState : SessionState
  relay : Option String
  tier : Option Tier
  detail : Option String
  expiresAt : Option ℕ
deriving DecidableEq

def NewRow.toRow (row : NewRow) (id createdAt : ℕ) : SessionEventRow :=
  ⟨id, row.sessionId, row.fromState, row.toState, row.relay, row.tier, row.detail, createdAt,
    row.expiresAt⟩

/-- The table, with the next value of the sequence behind `id`. -/
structure SessionEvents where
  rows : List SessionEventRow
  nextId : ℕ
  ordered : rows.Pairwise fun a b => a.id < b.id
  id_lt : ∀ row ∈ rows, row.id < nextId

namespace SessionEvents

def empty : SessionEvents := ⟨[], 1, List.Pairwise.nil, by simp⟩

/-- `INSERT … RETURNING …`. -/
def insert (t : SessionEvents) (row : NewRow) (createdAt : ℕ) : SessionEvents where
  rows := t.rows ++ [row.toRow t.nextId createdAt]
  nextId := t.nextId + 1
  ordered := List.pairwise_append.mpr ⟨t.ordered, List.pairwise_singleton _ _, fun a ha b hb => by
    rw [List.mem_singleton.mp hb]; exact t.id_lt a ha⟩
  id_lt := fun r hr => by
    rcases List.mem_append.mp hr with hr | hr
    · exact Nat.lt_succ_of_lt (t.id_lt r hr)
    · rw [List.mem_singleton.mp hr]; exact Nat.lt_succ_self _

variable (t : SessionEvents) (sessionId : String)

def getSessionEvents : List SessionEventRow := t.rows.filter fun row => row.sessionId = sessionId

def getCurrentState : Option SessionState :=
  ((t.getSessionEvents sessionId).getLast?).map SessionEventRow.toState

/-- `getTier`: the last one that is not null. -/
def getTier : Option Tier := (t.getSessionEvents sessionId).reverse.findSome? SessionEventRow.tier

/-- `getCurrentRelay`. -/
def getCurrentRelay : Option String :=
  (t.getSessionEvents sessionId).reverse.findSome? SessionEventRow.relay

def getExpiresAt : Option ℕ :=
  (t.getSessionEvents sessionId).reverse.findSome? SessionEventRow.expiresAt

variable {t sessionId} {row : NewRow} {createdAt : ℕ}

theorem getSessionEvents_insert_self :
    (t.insert row createdAt).getSessionEvents row.sessionId =
      t.getSessionEvents row.sessionId ++ [row.toRow t.nextId createdAt] := by
  simp [getSessionEvents, insert, NewRow.toRow]

theorem getSessionEvents_insert_of_ne (h : row.sessionId ≠ sessionId) :
    (t.insert row createdAt).getSessionEvents sessionId = t.getSessionEvents sessionId := by
  simp [getSessionEvents, insert, NewRow.toRow, h]

theorem getCurrentState_eq_none :
    t.getCurrentState sessionId = none ↔ t.getSessionEvents sessionId = [] := by
  simp [getCurrentState]

end SessionEvents

/-! ### Runs of the state machine -/

/-- The rows continue a run of the state machine that is in `state`. -/
def ValidPath : Option SessionState → List SessionEventRow → Prop
  | _, [] => True
  | state, row :: rows =>
      row.fromState = state ∧ Allowed state row.toState ∧ ValidPath (some row.toState) rows

instance decidableValidPath : (state : Option SessionState) → (rows : List SessionEventRow) →
    Decidable (ValidPath state rows)
  | _, [] => isTrue trivial
  | state, row :: rows =>
      have := decidableValidPath (some row.toState) rows
      inferInstanceAs (Decidable (row.fromState = state ∧ Allowed state row.toState ∧ _))

def lastState : Option SessionState → List SessionEventRow → Option SessionState
  | state, [] => state
  | _, row :: rows => lastState (some row.toState) rows

theorem validPath_append (state : Option SessionState) (rows rows' : List SessionEventRow) :
    ValidPath state (rows ++ rows') ↔
      ValidPath state rows ∧ ValidPath (lastState state rows) rows' := by
  induction rows generalizing state with
  | nil => simp [ValidPath, lastState]
  | cons row rows ih => simp only [List.cons_append, ValidPath, lastState, ih, and_assoc]

theorem lastState_eq (state : Option SessionState) (rows : List SessionEventRow) :
    lastState state rows = (rows.getLast?.map SessionEventRow.toState).or state := by
  induction rows generalizing state with
  | nil => rfl
  | cons row rows ih =>
    rw [lastState, ih, List.getLast?_cons]
    cases rows.getLast? <;> rfl

@[simp] theorem lastState_concat (state : Option SessionState) (rows : List SessionEventRow)
    (row : SessionEventRow) : lastState state (rows ++ [row]) = some row.toState := by
  simp [lastState_eq]

theorem lastState_getSessionEvents (t : SessionEvents) (sessionId : String) :
    lastState none (t.getSessionEvents sessionId) = t.getCurrentState sessionId := by
  rw [lastState_eq, Option.or_none, SessionEvents.getCurrentState]

theorem ValidPath.of_expiredNormal {rows : List SessionEventRow}
    (h : ValidPath (some .expiredNormal) rows) : ∀ row ∈ rows, row.toState = .sessionComplete := by
  rcases rows with _ | ⟨row, _ | ⟨row', rows⟩⟩
  · simp
  · simpa using eq_sessionComplete_of_allowed h.2.1
  · obtain ⟨-, hrow, hrest⟩ := h
    rw [eq_sessionComplete_of_allowed hrow] at hrest
    exact absurd hrest.2.1 (not_allowed_sessionComplete _)

end DVoD.Orchestrator
