import DVoD.Async.Emission
import DVoD.Machine.Run
import DVoD.Orchestrator.Server

/-!
# The live stream

`ws-hub.ts` and the six places that call `broadcast`, each after its own awaited `INSERT`.
`stream_is_log` says what a client of `WS /stream` sees of the table, in every interleaving
of the handlers and whatever the other clients do.
-/

namespace DVoD.Orchestrator

open DVoD.Async DVoD.Async.Program DVoD.Session

/-! ### Inserted rows are broadcast -/

def streamEmission : Emission Memory Command Answer SessionEventRow where
  given
    | .insertEvent _, row => row
    | _, _ => none
  log m := m.broadcasts

section Emits

theorem emits_awaitOr (thrown : Thrown) (c : Command) :
    (awaitOr thrown c).run.Emits streamEmission
      (Owes fun a => (streamEmission.given c (some a)).toList) [] := by
  refine ⟨rfl, ?_⟩
  intro r
  cases r with
  | some a => rfl
  | none => cases c <;> rfl

/-- A query that inserts nothing. -/
theorem emits_query {thrown : Thrown} {c : Command}
    (hc : ∀ a, streamEmission.given c (some a) = none) :
    (awaitOr thrown c).run.Emits streamEmission (Owes fun _ => []) [] := by
  have h := emits_awaitOr thrown c
  simp only [hc, Option.toList_none] at h
  exact h

theorem emits_query_bind {β : Type} {thrown : Thrown} {c : Command} {f : Found c → Handler β}
    (hf : ∀ a, (f a).run.Emits streamEmission (Owes fun _ => []) [])
    (hc : ∀ a, streamEmission.given c (some a) = none := by intro a; rfl) :
    (awaitOr thrown c >>= f).run.Emits streamEmission (Owes fun _ => []) [] :=
  emits_bind (emits_query hc) hf

theorem emits_broadcast (event : SessionEventRow) :
    (broadcast event).run.Emits streamEmission (Owes fun _ => []) [event] :=
  ⟨[event], [], rfl, fun _ => rfl, fun _ => rfl⟩

theorem emits_recordTransition (sessionId : String) (toState : SessionState)
    (options : TransitionOptions) :
    (recordTransition sessionId toState options).run.Emits streamEmission
      (Owes fun event => [event]) [] := by
  refine emits_bind (emits_query fun _ => rfl) fun current => ?_
  simp only [transitionFrom, run_bind]
  rcases checkTransition sessionId current toState with err | _
  · rfl
  · have htier : (transitionTier sessionId options).run.Emits streamEmission (Owes fun _ => []) [] := by
      rcases options with ⟨_, _ | tier, _, _⟩
      · exact emits_query fun _ => rfl
      · rfl
    exact emits_bind htier fun tier => emits_awaitOr _ _

/-- A transition that is recorded and broadcast, and what comes after. -/
theorem emits_transition {β : Type} {sessionId : String} {toState : SessionState}
    {options : TransitionOptions} {rest : Handler β}
    (hrest : rest.run.Emits streamEmission (Owes fun _ => []) []) :
    (do
      let event ← recordTransition sessionId toState options
      broadcast event
      rest).run.Emits streamEmission (Owes fun _ => []) [] :=
  emits_bind (emits_recordTransition _ _ _) fun event =>
    emits_bind (emits_broadcast event) fun _ => hrest

theorem emits_recordAll (sessionId : String) (options : TransitionOptions)
    (transitions : List (SessionState × Option String)) :
    (recordAll sessionId options transitions).run.Emits streamEmission (Owes fun _ => []) [] := by
  induction transitions with
  | nil => rfl
  | cons transition rest ih => exact emits_transition ih

theorem emits_confirmPurchase (config : Config) (txHash : String) (tier : Tier) (hours : SessionHours)
    (relay : CapabilityRecord) :
    (confirmPurchase config txHash tier hours relay).run.Emits streamEmission (Owes fun _ => []) [] := by
  have hreceipt : (Program.call (Command.getTransactionReceipt txHash) : Process _).Emits
      streamEmission (fun _ => []) [] := ⟨rfl, fun _ => rfl⟩
  apply emits_bind (emits_lift hreceipt)
  intro receipt
  split
  · rfl
  · -- the hash is noted, which touches no broadcast
    have hnoted : (Program.modify fun m : Memory =>
        { m with usedTxHashes := txHash :: m.usedTxHashes } : Process Unit).Emits streamEmission
          (fun _ => []) [] := ⟨[], [], rfl, fun _ => (List.append_nil _).symm, fun _ => rfl⟩
    exact emits_bind (emits_lift hnoted) fun _ =>
      emits_bind (emits_lift (emits_read fun _ => rfl)) fun m =>
      emits_bind (emits_recordAll _ _ _) fun _ => rfl

theorem emits_sessionsRoute (config : Config) (tierParam hoursParam : String)
    (xSessionTx : Option String) :
    (sessionsRoute config tierParam hoursParam xSessionTx).run.Emits streamEmission
      (Owes fun _ => []) [] := by
  unfold sessionsRoute
  split
  · refine emits_query_bind fun eligible => ?_
    split
    · rfl
    split
    · rfl
    · refine emits_bind (emits_lift (emits_read fun _ => rfl)) fun m => ?_
      split
      · rfl
      · apply emits_tryCatch (emits_confirmPurchase _ _ _ _ _)
        intro err
        cases err <;> rfl
  · rfl

theorem emits_conflict (err : Thrown) :
    (conflictOnInvalidTransition err).run.Emits streamEmission (Owes fun _ => []) [] := by
  cases err <;> rfl

theorem emits_failover (sessionId : String) (tier : Tier) (failedRelay : String) :
    (failover sessionId tier failedRelay).run.Emits streamEmission (Owes fun _ => []) [] := by
  apply emits_transition
  apply emits_transition
  refine emits_query_bind fun eligible => ?_
  split
  · rfl
  · exact emits_transition (emits_transition rfl)

theorem emits_failoverRoute (sessionId : String) :
    (failoverRoute sessionId).run.Emits streamEmission (Owes fun _ => []) [] := by
  refine emits_query_bind fun state => ?_
  split
  · rfl
  refine emits_query_bind fun tier => emits_query_bind fun failedRelay => ?_
  split
  · exact emits_tryCatch (emits_failover _ _ _) emits_conflict
  · rfl

theorem emits_endSessionRoute (sessionId : String) :
    (endSessionRoute sessionId).run.Emits streamEmission (Owes fun _ => []) [] := by
  refine emits_query_bind fun state => ?_
  split
  · rfl
  · exact emits_tryCatch (emits_transition rfl) emits_conflict

theorem emits_sessionDetailRoute (sessionId : String) :
    (sessionDetailRoute sessionId).run.Emits streamEmission (Owes fun _ => []) [] := by
  refine emits_query_bind fun events => ?_
  split
  · rfl
  · exact emits_query_bind fun state => emits_query_bind fun relay =>
      emits_query_bind fun expiresAt => rfl

end Emits

theorem system_passes (config : Config) :
    (system config).Passes streamEmission fun env => env.events.rows where
  handler request := by
    refine Program.Emits.bind (Q := Owes fun _ => []) ?_ ?_
    · cases request with
      | sessions tier hours xSessionTx => exact emits_sessionsRoute config tier hours xSessionTx
      | forceRelayFailure id => exact emits_failoverRoute id
      | endSession id => exact emits_endSessionRoute id
      | sessionDetail id => exact emits_sessionDetailRoute id
    · intro reply
      cases reply <;> rfl
  happen_items event m env := congrArg SessionEvents.rows (happen_events event m)
  happen_log event m env := by cases event <;> rfl

/-- Every query that the database executes is answered. -/
theorem answer_recorded {config : Config} {o : Oracle} (ho : o.fault ≠ some .unanswered) (env : Env)
    (c : Command) : (answer config o env c).2.events.rows =
      env.events.rows ++ (streamEmission.given c (answer config o env c).1).toList := by
  cases c with
  | insertEvent row =>
    rcases hf : o.fault with _ | _ | _
    · simp only [answer, hf, streamEmission, Option.toList_some]
      rfl
    · simp only [answer, hf, streamEmission, Option.toList_none, List.append_nil]
    · exact absurd hf ho
  | _ => exact (List.append_nil _).symm

/-! ### The hub -/

structure StreamMessage where
  type : String
  event : SessionEventRow
deriving DecidableEq

/-- `{ type: "session_transition", ...event }`. -/
def sessionTransition (event : SessionEventRow) : StreamMessage := ⟨"session_transition", event⟩

/-- `readyState` of a `WebSocket`. -/
inductive ReadyState where
  | CONNECTING
  | OPEN
  | CLOSING
  | CLOSED
deriving DecidableEq

structure Socket where
  id : ℕ
  readyState : ReadyState
  received : List StreamMessage

/-- `clients`: a `Set`, in the order of its insertions. -/
structure Hub where
  clients : List Socket
  nodup : (clients.map Socket.id).Nodup

namespace Hub

def registerClient (hub : Hub) (socket : Socket) : Hub :=
  if h : socket.id ∈ hub.clients.map Socket.id then hub
  else
    { clients := hub.clients ++ [socket]
      nodup := by
        rw [List.map_append]
        exact List.Nodup.append hub.nodup (List.nodup_singleton _) (List.disjoint_singleton.mpr h) }

def update (hub : Hub) (f : Socket → Socket) (hf : ∀ socket, (f socket).id = socket.id) : Hub where
  clients := hub.clients.map f
  nodup := by
    rw [List.map_map, show Socket.id ∘ f = Socket.id from funext hf]
    exact hub.nodup

def setReadyState (hub : Hub) (id : ℕ) (readyState : ReadyState) : Hub :=
  hub.update (fun socket => if socket.id = id then { socket with readyState := readyState } else socket)
    fun socket => by split <;> rfl

/-- The socket's `close` event. -/
def close (hub : Hub) (id : ℕ) : Hub where
  clients := hub.clients.filter fun socket => socket.id ≠ id
  nodup := hub.nodup.sublist (List.filter_sublist.map _)

def broadcast (hub : Hub) (message : StreamMessage) : Hub :=
  hub.update (fun socket =>
    if socket.readyState = .OPEN then { socket with received := socket.received ++ [message] }
    else socket) fun socket => by split <;> rfl

def broadcastAll (hub : Hub) (events : List SessionEventRow) : Hub :=
  events.foldl (fun hub event => hub.broadcast (sessionTransition event)) hub

def received (hub : Hub) (id : ℕ) : Option (List StreamMessage) :=
  (hub.clients.find? fun socket => socket.id = id).map Socket.received

/-- The hub has this client, open, and it has received these messages. -/
def Serves (hub : Hub) (id : ℕ) (received : List StreamMessage) : Prop :=
  ⟨id, .OPEN, received⟩ ∈ hub.clients

variable {hub : Hub} {id : ℕ} {received : List StreamMessage}

theorem Serves.received_eq (h : hub.Serves id received) : hub.received id = some received := by
  have hsome : (hub.clients.find? fun socket => socket.id = id).isSome :=
    List.find?_isSome.mpr ⟨_, h, decide_eq_true rfl⟩
  obtain ⟨socket, hsocket⟩ := Option.isSome_iff_exists.mp hsome
  have hid : socket.id = id :=
    of_decide_eq_true (List.find?_some (p := fun socket : Socket => socket.id = id) hsocket)
  have hsame := List.inj_on_of_nodup_map hub.nodup (List.mem_of_find?_eq_some hsocket) h hid
  rw [Hub.received, hsocket, hsame, Option.map_some]

theorem Serves.registerClient (h : hub.Serves id received) (socket : Socket) :
    (hub.registerClient socket).Serves id received := by
  unfold Hub.registerClient
  split
  · exact h
  · exact List.mem_append_left _ h

theorem Serves.setReadyState (h : hub.Serves id received) {id' : ℕ} (hne : id ≠ id')
    (readyState : ReadyState) : (hub.setReadyState id' readyState).Serves id received :=
  List.mem_map.mpr ⟨_, h, if_neg hne⟩

theorem Serves.close (h : hub.Serves id received) {id' : ℕ} (hne : id ≠ id') :
    (hub.close id').Serves id received :=
  List.mem_filter.mpr ⟨h, decide_eq_true hne⟩

theorem Serves.broadcast (h : hub.Serves id received) (message : StreamMessage) :
    (hub.broadcast message).Serves id (received ++ [message]) :=
  List.mem_map.mpr ⟨_, h, if_pos rfl⟩

theorem Serves.broadcastAll (h : hub.Serves id received) (events : List SessionEventRow) :
    (hub.broadcastAll events).Serves id (received ++ events.map sessionTransition) := by
  induction events generalizing hub received with
  | nil => rwa [List.map_nil, List.append_nil]
  | cons event events ih =>
    have hrest := ih (h.broadcast (sessionTransition event))
    rwa [List.append_assoc] at hrest

end Hub

/-! ### The process and its clients -/

/-- The handlers, and the hub that they broadcast to. -/
structure Stream (config : Config) where
  process : System.Queued (system config)
  hub : Hub

namespace Stream

variable {config : Config}

inductive Move (config : Config) where
  | process (move : System.Move (system config))
  | registerClient (socket : Socket)
  | setReadyState (id : ℕ) (readyState : ReadyState)
  | close (id : ℕ)

/-- What a handler broadcasts on its way to its next `await`, no other event comes between. -/
def step (s : Stream config) : Move config → Option (Stream config)
  | .process move =>
      (System.Queued.step streamEmission s.process move).map fun process =>
        ⟨process, s.hub.broadcastAll
          (process.cfg.mem.broadcasts.drop s.process.cfg.mem.broadcasts.length)⟩
  | .registerClient socket => some { s with hub := s.hub.registerClient socket }
  | .setReadyState id readyState => some { s with hub := s.hub.setReadyState id readyState }
  | .close id => some { s with hub := s.hub.close id }

def start (config : Config) (now : Instant) (hub : Hub) : Stream config :=
  ⟨⟨Orchestrator.start config now, []⟩, hub⟩

def rows (s : Stream config) : List SessionEventRow := s.process.cfg.env.events.rows

/-- No query is left without an answer that the database has executed. -/
def Answered (_ : Stream config) : Move config → Prop
  | .process (.answer _ o) => Oracle.fault o ≠ some .unanswered
  | _ => True

/-- The client stays connected. -/
def Stays (id : ℕ) (_ : Stream config) : Move config → Prop
  | .setReadyState id' _ => id ≠ id'
  | .close id' => id ≠ id'
  | _ => True

/-- Every handler awaits something or is done. -/
def Parked (s : Stream config) : Prop := ∀ p ∈ s.process.cfg.tasks, ∀ u k, p ≠ .sync u k

/-- The client has received what was broadcast, which is a first part of the table. -/
structure Follows (id : ℕ) (s : Stream config) : Prop where
  accounted : ∃ owed, System.Accounted streamEmission (fun env => env.events.rows) s.process owed
  serves : s.hub.Serves id (s.process.cfg.mem.broadcasts.map sessionTransition)

theorem Follows.step {id : ℕ} {s s' : Stream config} {m : Move config} (h : s.Follows id)
    (hanswered : Answered s m) (hstays : Stays id s m) (hstep : s.step m = some s') :
    s'.Follows id := by
  cases m with
  | registerClient socket =>
    obtain rfl := Option.some.inj hstep
    exact ⟨h.accounted, h.serves.registerClient socket⟩
  | setReadyState id' readyState =>
    obtain rfl := Option.some.inj hstep
    exact ⟨h.accounted, h.serves.setReadyState hstays readyState⟩
  | close id' =>
    obtain rfl := Option.some.inj hstep
    exact ⟨h.accounted, h.serves.close hstays⟩
  | process move =>
    obtain ⟨process, hprocess, rfl⟩ := Option.map_eq_some_iff.mp hstep
    obtain ⟨owed, haccounted⟩ := h.accounted
    have hrecorded : System.Recorded (system config) streamEmission (fun env => env.events.rows)
        s.process.cfg move := by
      cases move with
      | answer i o => exact fun c => answer_recorded hanswered _ c
      | _ => trivial
    obtain ⟨hgrows, haccounted'⟩ := haccounted.step (system_passes config) hrecorded hprocess
    refine ⟨haccounted', ?_⟩
    have hserves := h.serves.broadcastAll
      (process.cfg.mem.broadcasts.drop s.process.cfg.mem.broadcasts.length)
    rw [← List.map_append] at hserves
    have hall : s.process.cfg.mem.broadcasts ++
        process.cfg.mem.broadcasts.drop s.process.cfg.mem.broadcasts.length =
          process.cfg.mem.broadcasts := List.prefix_iff_eq_append.mp hgrows
    rwa [hall] at hserves

/-- **The live stream is the log.**  For every interleaving of the handlers, and whatever
    other clients do: what a client has received that was connected all the time is a first
    part of the table, in the order of the ids, and all of it where no handler is left to
    be resumed. -/
theorem stream_is_log (config : Config) (now : Instant) (id : ℕ) {hub : Hub}
    (hclient : hub.Serves id []) {ms : List (Move config)} {s : Stream config}
    (hrun : Machine.run step (start config now hub) ms = some s)
    (hanswered : Machine.AllMoves step Answered (start config now hub) ms)
    (hstays : Machine.AllMoves step (Stays id) (start config now hub) ms) :
    ∃ received, s.hub.received id = some received ∧
      received <+: s.rows.map sessionTransition ∧
      (s.Parked → received = s.rows.map sessionTransition) ∧
      s.rows.Pairwise fun a b => a.id < b.id := by
  have hstart : (start config now hub).Follows id := ⟨⟨_, System.accounted_start streamEmission rfl⟩, hclient⟩
  have h := Machine.run_invariant (fun hI hq hstep => Follows.step hI hq.1 hq.2 hstep) hrun
    (hanswered.and hstays) hstart
  obtain ⟨owed, haccounted⟩ := h.accounted
  refine ⟨_, h.serves.received_eq, haccounted.log_le.map _, fun hparked => ?_,
    s.process.cfg.env.events.ordered⟩
  exact congrArg (List.map sessionTransition) (haccounted.log_eq hparked)

/-- Client 0 follows the purchase of the first session. -/
def Sample.hub : Hub := ⟨[⟨0, .OPEN, []⟩], by decide⟩

def Sample.streamed : List (Move Sample.config) := Sample.bought.map .process

theorem stream_is_log_bought :
    ∃ s, Machine.run step (start Sample.config Sample.now Sample.hub) Sample.streamed = some s ∧
      ∃ received, s.hub.received 0 = some received ∧ received.length = 4 ∧
        received <+: s.rows.map sessionTransition ∧
        (s.Parked → received = s.rows.map sessionTransition) ∧
        s.rows.Pairwise fun a b => a.id < b.id := by
  have hfour : (Machine.run step (start Sample.config Sample.now Sample.hub) Sample.streamed).any
      (fun s => (s.hub.received 0).any fun received => received.length = 4) = true := by
    decide +kernel
  obtain ⟨s, hrun, hs⟩ := (Option.any_eq_true ..).mp hfour
  obtain ⟨received, hreceived, hlength⟩ := (Option.any_eq_true ..).mp hs
  obtain ⟨received', hreceived', hlog⟩ := stream_is_log Sample.config Sample.now 0
    (List.mem_singleton_self _) hrun
    (Machine.allMoves_of_mem (by simp [Sample.streamed, Sample.bought, Sample.answered,
      Sample.resumed, Sample.oracle, Answered]))
    (Machine.allMoves_of_mem (by simp [Sample.streamed, Sample.bought, Sample.answered,
      Sample.resumed, Stays]))
  obtain rfl := Option.some.inj (hreceived.symm.trans hreceived')
  exact ⟨s, hrun, received, hreceived, of_decide_eq_true hlength, hlog⟩

end Stream

end DVoD.Orchestrator
