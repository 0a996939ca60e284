import DVoD.Log.Merge
import DVoD.Orchestrator.SessionDetail
import DVoD.Orchestrator.Stream

/-!
# The session page

`SessionPage` with `useSessionStream`: a snapshot of the session's rows, fetched once, and
behind it the rows that a WebSocket has brought meanwhile.  The two start at times of their
own, and the stream replays nothing.  `shows_log_iff` says when what the page shows is the
log up to some point.
-/

namespace DVoD.Orchestrator.Hub

/-- What the client with this id has been sent is a first part of the messages, and all of
    them while it is open. -/
def Sent (hub : Hub) (id : ℕ) (messages : List StreamMessage) : Prop :=
  ∀ socket ∈ hub.clients, socket.id = id →
    socket.received <+: messages ∧ (socket.readyState = .OPEN → socket.received = messages)

def Unknown (hub : Hub) (id : ℕ) : Prop := ∀ socket ∈ hub.clients, socket.id ≠ id

variable {hub : Hub} {id : ℕ} {messages : List StreamMessage}

theorem Unknown.sent (h : hub.Unknown id) : hub.Sent id messages :=
  fun socket hsocket hid => absurd hid (h socket hsocket)

theorem Sent.registerClient (h : hub.Sent id messages) {socket : Socket} (hne : socket.id ≠ id) :
    (hub.registerClient socket).Sent id messages := by
  unfold Hub.registerClient
  split
  · exact h
  · intro other hother hid
    rcases List.mem_append.mp hother with hother | hother
    · exact h other hother hid
    · rw [List.mem_singleton.mp hother] at hid
      exact absurd hid hne

theorem Unknown.registerClient_self (h : hub.Unknown id) :
    (hub.registerClient ⟨id, .OPEN, []⟩).Sent id [] := by
  unfold Hub.registerClient
  split
  · exact h.sent
  · intro other hother hid
    rcases List.mem_append.mp hother with hother | hother
    · exact absurd hid (h other hother)
    · rw [List.mem_singleton.mp hother]
      exact ⟨List.prefix_refl _, fun _ => rfl⟩

theorem Sent.setReadyState (h : hub.Sent id messages) {id' : ℕ} {readyState : ReadyState}
    (hclosed : id' = id → readyState ≠ .OPEN) : (hub.setReadyState id' readyState).Sent id messages := by
  intro other hother hid
  obtain ⟨socket, hsocket, rfl⟩ := List.mem_map.mp hother
  split at hid
  · next hid' =>
    have hnot := hclosed (hid'.symm.trans hid)
    rw [if_pos hid']
    exact ⟨(h socket hsocket hid).1, fun hopen => absurd hopen hnot⟩
  · next hid' =>
    rw [if_neg hid']
    exact h socket hsocket hid

theorem Sent.close (h : hub.Sent id messages) (id' : ℕ) : (hub.close id').Sent id messages :=
  fun socket hsocket => h socket (List.mem_filter.mp hsocket).1

theorem Sent.broadcast (h : hub.Sent id messages) (message : StreamMessage) :
    (hub.broadcast message).Sent id (messages ++ [message]) := by
  intro other hother hid
  obtain ⟨socket, hsocket, rfl⟩ := List.mem_map.mp hother
  split at hid
  · next hopen =>
    rw [if_pos hopen]
    have hall := (h socket hsocket hid).2 hopen
    dsimp only
    rw [hall]
    exact ⟨List.prefix_refl _, fun _ => rfl⟩
  · next hopen =>
    rw [if_neg hopen]
    exact ⟨(h socket hsocket hid).1.trans (List.prefix_append _ _), fun hopen' => absurd hopen' hopen⟩

theorem Sent.broadcastAll (h : hub.Sent id messages) (events : List SessionEventRow) :
    (hub.broadcastAll events).Sent id (messages ++ events.map sessionTransition) := by
  induction events generalizing hub messages with
  | nil => rwa [List.map_nil, List.append_nil]
  | cons event events ih =>
    have hrest := ih (h.broadcast (sessionTransition event))
    rwa [List.append_assoc] at hrest

theorem Sent.prefix_of_received {received : List StreamMessage} (h : hub.Sent id messages)
    (hreceived : hub.received id = some received) : received <+: messages := by
  obtain ⟨socket, hsocket, rfl⟩ := Option.map_eq_some_iff.mp hreceived
  have hid : socket.id = id :=
    of_decide_eq_true (List.find?_some (p := fun socket : Socket => socket.id = id) hsocket)
  exact (h socket (List.mem_of_find?_eq_some hsocket) hid).1

/-- Sockets come to the hub by `registerClient` only. -/
theorem Unknown.of_map {f : Socket → Socket} {hf : ∀ socket, (f socket).id = socket.id}
    (h : hub.Unknown id) : (hub.update f hf).Unknown id := by
  intro other hother
  obtain ⟨socket, hsocket, rfl⟩ := List.mem_map.mp hother
  rw [hf]
  exact h socket hsocket

theorem Unknown.setReadyState (h : hub.Unknown id) (id' : ℕ) (readyState : ReadyState) :
    (hub.setReadyState id' readyState).Unknown id := by
  unfold Hub.setReadyState
  exact h.of_map

theorem Unknown.broadcastAll (h : hub.Unknown id) (events : List SessionEventRow) :
    (hub.broadcastAll events).Unknown id := by
  induction events generalizing hub with
  | nil => exact h
  | cons event events ih => exact ih h.of_map

theorem Unknown.registerClient (h : hub.Unknown id) {socket : Socket} (hne : socket.id ≠ id) :
    (hub.registerClient socket).Unknown id := by
  unfold Hub.registerClient
  split
  · exact h
  · intro other hother
    rcases List.mem_append.mp hother with hother | hother
    · exact h other hother
    · rw [List.mem_singleton.mp hother]
      exact hne

end DVoD.Orchestrator.Hub

namespace DVoD.Web

open DVoD.Async DVoD.Log DVoD.Orchestrator DVoD.Session

/-! ### The page -/

/-- The body of a reply of `GET /sessions/:id`. -/
structure SessionDetail where
  state : Option SessionState
  relay : Option String
  expiresAt : Option ℕ
  events : List SessionEventRow

/-- The state of the page for one session; `detail` is null until its request has succeeded. -/
structure Page where
  detail : Option SessionDetail
  liveEvents : List SessionEventRow

namespace Page

variable (page : Page)

/-- `socket.onmessage` of `useSessionStream`. -/
def onmessage (sessionId : String) (data : StreamMessage) : Page :=
  if data.type ≠ "session_transition" ∨ data.event.sessionId ≠ sessionId then page
  else { page with liveEvents := page.liveEvents ++ [data.event] }

def snapshot : List SessionEventRow := (page.detail.map SessionDetail.events).getD []

def allEvents : List SessionEventRow := merge SessionEventRow.id page.snapshot page.liveEvents

def currentState : String :=
  ((page.allEvents.getLast?.map fun e => e.toState.name).or
    (page.detail.bind fun detail => detail.state.map SessionState.name)).getD "unknown"

/-- The relay of the last row that has one; the empty string is falsy. -/
def relayOf (rows : List SessionEventRow) : Option String :=
  latest (fun e => e.relay.filter (· ≠ "")) rows

def currentRelay : Option String :=
  (relayOf page.allEvents).or (page.detail.bind SessionDetail.relay)

/-- The page shows the log as it was when it had `n` rows. -/
def Shows (rows : List SessionEventRow) : Prop :=
  ∃ n, page.allEvents = rows.take n ∧
    page.currentState = ((rows.take n).getLast?.map fun e => e.toState.name).getD "unknown" ∧
    page.currentRelay = relayOf (rows.take n)

end Page

/-! ### A visit of the page -/

/-- The orchestrator, and the page in a browser, with the socket that is its own.
    `request` is the task that handles its request, `delivered` the number of messages that
    have come through the socket.  `subscribedAt` is a history variable: what had been
    broadcast when the subscription became active. -/
structure Visit (config : Config) where
  stream : Stream config
  sessionId : String
  socket : ℕ
  request : Option ℕ
  subscribedAt : Option ℕ
  delivered : ℕ
  page : Page

namespace Visit

variable {config : Config}

inductive Move (config : Config) where
  /-- Anything at the server: handlers, other clients, the end of the page's connection. -/
  | server (move : Stream.Move config)
  /-- The request of the page reaches the server. -/
  | getSessionDetail
  /-- The upgrade of the page's connection reaches the server. -/
  | subscribe
  /-- The reply to the request reaches the page. -/
  | reply
  /-- The next message of the socket reaches the page. -/
  | message

/-- No one else uses the page's connection, and it is not opened twice. -/
def Opens (socket : ℕ) : Stream.Move config → Bool
  | .registerClient other => other.id = socket
  | .setReadyState id readyState => id = socket ∧ readyState = .OPEN
  | _ => false

def step (s : Visit config) : Move config → Option (Visit config)
  | .server move =>
      if Opens s.socket move then none
      else (s.stream.step move).map fun stream => { s with stream := stream }
  | .getSessionDetail =>
      if s.request.isSome then none
      else (s.stream.step (.process (.arrive (.sessionDetail s.sessionId)))).map fun stream =>
        { s with stream := stream, request := s.stream.process.cfg.tasks.length }
  | .subscribe =>
      if s.subscribedAt.isSome then none
      else some { s with
        stream := { s.stream with hub := s.stream.hub.registerClient ⟨s.socket, .OPEN, []⟩ }
        subscribedAt := s.stream.process.cfg.mem.broadcasts.length }
  | .reply =>
      match s.request.bind fun task => (s.stream.process.cfg.tasks[task]?).bind Program.result with
      | some (⟨200, .detail _ state relay expiresAt events⟩ : Reply) =>
          some { s with page := { s.page with detail := some ⟨state, relay, expiresAt, events⟩ } }
      | _ => none  -- not there yet, or an error, which leaves `detail` null
  | .message =>
      ((s.stream.hub.received s.socket).bind fun received => received[s.delivered]?).map fun data =>
        { s with delivered := s.delivered + 1, page := s.page.onmessage s.sessionId data }

/-- The page is opened; its connection is none of the hub's. -/
def start (config : Config) (now : Instant) (hub : Hub) (sessionId : String) (socket : ℕ) :
    Visit config :=
  ⟨Stream.start config now hub, sessionId, socket, none, none, 0, ⟨none, []⟩⟩

/-- The rows of the session. -/
def log (s : Visit config) : List SessionEventRow :=
  s.stream.process.cfg.env.events.getSessionEvents s.sessionId

/-- What has been broadcast since the page's subscription became active. -/
def since (s : Visit config) : List SessionEventRow :=
  match s.subscribedAt with
  | some k => s.stream.process.cfg.mem.broadcasts.drop k
  | none => []

/-- Of the rows that the page has received, live or in its snapshot, those older than a live
    one were all read by the snapshot or broadcast to the page, and some row names a relay. -/
structure Caught (s : Visit config) : Prop where
  older : ∀ row ∈ s.log, ∀ live ∈ s.page.liveEvents, row.id < live.id →
    row ∈ s.page.snapshot ∨ row ∈ s.since
  relay : s.page.detail.bind SessionDetail.relay = none ∨
    ∃ row ∈ s.page.snapshot ++ s.page.liveEvents, row.relay.filter (· ≠ "") ≠ none

/-! ### The server's part -/

section Server

variable {stream stream' : Stream config} {m : Stream.Move config} {socket : ℕ}
  {messages : List StreamMessage}

/-- What has been broadcast is some of the rows, in their order. -/
def Given (stream : Stream config) : Prop :=
  ∃ total owed, System.Accounted streamEmission (fun _ => total) stream.process owed ∧
    total.Sublist stream.rows

theorem Given.sublist (h : Given stream) : stream.process.cfg.mem.broadcasts.Sublist stream.rows := by
  obtain ⟨total, owed, haccounted, hle⟩ := h
  exact haccounted.log_le.sublist.trans hle

theorem given_answer (o : Oracle) (env : Env) (c : Command) :
    (env.events.rows ++ (streamEmission.given c (answer config o env c).1).toList).Sublist
      (answer config o env c).2.events.rows := by
  by_cases ho : o.fault = some .unanswered
  · have hnone : streamEmission.given c (answer config o env c).1 = none := by
      cases c with
      | insertEvent row => simp only [answer, ho, streamEmission]
      | _ => rfl
    rw [hnone, Option.toList_none, List.append_nil]
    exact (answer_rely config o env c).sublist
  · exact (answer_recorded ho env c).symm ▸ List.Sublist.refl _

theorem Given.step (h : Given stream) (hstep : stream.step m = some stream') :
    Given stream' ∧
      stream.process.cfg.mem.broadcasts <+: stream'.process.cfg.mem.broadcasts := by
  cases m with
  | process move =>
    obtain ⟨process, hprocess, rfl⟩ := Option.map_eq_some_iff.mp hstep
    obtain ⟨total, owed, haccounted, hle⟩ := h
    obtain ⟨hlog, total', owed', haccounted', hle'⟩ :=
      haccounted.step_sublist (system_passes config) hle given_answer hprocess
    exact ⟨⟨total', owed', haccounted', hle'⟩, hlog⟩
  | _ =>
    obtain rfl := Option.some.inj hstep
    exact ⟨h, List.prefix_refl _⟩

theorem step_cfg (hstep : stream.step m = some stream') :
    (∀ move, m ≠ .process move) ∧ stream'.process.cfg = stream.process.cfg ∨
      ∃ move, m = .process move ∧ System.step stream.process.cfg move = some stream'.process.cfg := by
  cases m with
  | process move =>
    obtain ⟨process, hprocess, rfl⟩ := Option.map_eq_some_iff.mp hstep
    exact .inr ⟨move, rfl, System.Queued.step_cfg hprocess⟩
  | _ =>
    obtain rfl := Option.some.inj hstep
    exact .inl ⟨nofun, rfl⟩

theorem sent_step (h : stream.hub.Sent socket messages) (hopens : ¬ Opens socket m)
    (hstep : stream.step m = some stream') :
    stream'.hub.Sent socket (messages ++
      (stream'.process.cfg.mem.broadcasts.drop stream.process.cfg.mem.broadcasts.length).map
        sessionTransition) := by
  cases m with
  | process move =>
    obtain ⟨process, hprocess, rfl⟩ := Option.map_eq_some_iff.mp hstep
    exact h.broadcastAll _
  | registerClient other =>
    obtain rfl := Option.some.inj hstep
    rw [List.drop_length, List.map_nil, List.append_nil]
    exact h.registerClient (by simpa [Opens] using hopens)
  | setReadyState id readyState =>
    obtain rfl := Option.some.inj hstep
    rw [List.drop_length, List.map_nil, List.append_nil]
    exact h.setReadyState (by simpa [Opens] using hopens)
  | close id =>
    obtain rfl := Option.some.inj hstep
    rw [List.drop_length, List.map_nil, List.append_nil]
    exact h.close id

theorem unknown_step (h : stream.hub.Unknown socket) (hopens : ¬ Opens socket m)
    (hstep : stream.step m = some stream') : stream'.hub.Unknown socket := by
  cases m with
  | process move =>
    obtain ⟨process, hprocess, rfl⟩ := Option.map_eq_some_iff.mp hstep
    exact h.broadcastAll _
  | registerClient other =>
    obtain rfl := Option.some.inj hstep
    exact h.registerClient (by simpa [Opens] using hopens)
  | setReadyState id readyState =>
    obtain rfl := Option.some.inj hstep
    exact h.setReadyState id readyState
  | close id =>
    obtain rfl := Option.some.inj hstep
    exact fun other hother => h other (List.mem_filter.mp hother).1

end Server

/-! ### The page's part -/

/-- How the page came to what it has. -/
structure Tracked (now : Instant) (s : Visit config) : Prop where
  given : Given s.stream
  handled : ∃ mvs, System.run (Orchestrator.start config now) mvs = some s.stream.process.cfg ∧
    ∀ task, s.request = some task → (System.requests mvs)[task]? = some (.sessionDetail s.sessionId)
  unsubscribed : s.subscribedAt = none → s.stream.hub.Unknown s.socket
  subscribed : ∀ k, s.subscribedAt = some k → k ≤ s.stream.process.cfg.mem.broadcasts.length ∧
    s.stream.hub.Sent s.socket ((s.stream.process.cfg.mem.broadcasts.drop k).map sessionTransition)
  received : ∃ got, got <+: s.since ∧ got.length = s.delivered ∧
    s.page.liveEvents = got.filter fun event => event.sessionId = s.sessionId
  fetched : ∀ detail, s.page.detail = some detail → detail.events ≠ [] ∧ detail.events <+: s.log

section Page

variable {now : Instant} {s s' : Visit config} {m : Move config}

theorem Tracked.start (now : Instant) {hub : Hub} (sessionId : String) {socket : ℕ}
    (hsocket : hub.Unknown socket) : Tracked now (start config now hub sessionId socket) where
  given := ⟨[], _, System.accounted_start streamEmission rfl, List.Sublist.refl _⟩
  handled := ⟨[], rfl, nofun⟩
  unsubscribed _ := hsocket
  subscribed := nofun
  received := ⟨[], List.prefix_refl _, rfl, rfl⟩
  fetched := nofun

theorem rows_step {stream stream' : Stream config} {move : Stream.Move config}
    (hstep : stream.step move = some stream') :
    stream.process.cfg.env.events.rows <+: stream'.process.cfg.env.events.rows := by
  rcases step_cfg hstep with ⟨-, hcfg⟩ | ⟨mv, -, hmv⟩
  · exact hcfg ▸ List.prefix_refl _
  · exact System.rely_step (system_observes config) hmv

theorem since_step {stream : Stream config}
    (hlog : s.stream.process.cfg.mem.broadcasts <+: stream.process.cfg.mem.broadcasts)
    {request : Option ℕ} : s.since <+: since { s with stream := stream, request := request } := by
  simp only [since]
  cases s.subscribedAt with
  | none => exact List.prefix_refl []
  | some k => exact hlog.drop k

theorem Tracked.sent (h : Tracked now s) :
    s.stream.hub.Sent s.socket (s.since.map sessionTransition) := by
  unfold since
  cases hsubscribed : s.subscribedAt with
  | none => exact (h.unsubscribed hsubscribed).sent
  | some k => exact (h.subscribed k hsubscribed).2

/-- What the server does; `hhandled` is about the page's request. -/
theorem Tracked.server (h : Tracked now s) {move : Stream.Move config} {stream : Stream config}
    {request : Option ℕ} (hopens : ¬ Opens s.socket move) (hstep : s.stream.step move = some stream)
    (hhandled : ∃ mvs, System.run (Orchestrator.start config now) mvs = some stream.process.cfg ∧
      ∀ task, request = some task →
        (System.requests mvs)[task]? = some (.sessionDetail s.sessionId)) :
    Tracked now { s with stream := stream, request := request } := by
  obtain ⟨hgiven, hlog⟩ := h.given.step hstep
  refine ⟨hgiven, hhandled, ?_, ?_, ?_, ?_⟩
  · intro hnone
    exact unknown_step (h.unsubscribed hnone) hopens hstep
  · intro k hk
    obtain ⟨hle, hsent⟩ := h.subscribed k hk
    refine ⟨hle.trans hlog.length_le, ?_⟩
    have hsent' := sent_step hsent hopens hstep
    obtain ⟨new, hnew⟩ := hlog
    rw [← hnew, List.drop_left, ← List.map_append, ← List.drop_append_of_le_length hle] at hsent'
    rwa [← hnew]
  · obtain ⟨got, hgot, hrest⟩ := h.received
    exact ⟨got, hgot.trans (since_step hlog), hrest⟩
  · intro detail hdetail
    obtain ⟨hne, hprefix⟩ := h.fetched detail hdetail
    exact ⟨hne, hprefix.trans ((rows_step hstep).filter _)⟩

theorem Tracked.subscribe (h : Tracked now s) (hnone : s.subscribedAt = none) :
    Tracked now { s with
      stream := { s.stream with hub := s.stream.hub.registerClient ⟨s.socket, .OPEN, []⟩ }
      subscribedAt := s.stream.process.cfg.mem.broadcasts.length } := by
  refine ⟨h.given, h.handled, nofun, ?_, ?_, h.fetched⟩
  · intro k hk
    obtain rfl := Option.some.inj hk
    refine ⟨Nat.le_refl _, ?_⟩
    rw [List.drop_length]
    exact (h.unsubscribed hnone).registerClient_self
  · obtain ⟨got, hgot, hrest⟩ := h.received
    have hsince : s.since = [] := by
      unfold since
      rw [hnone]
    rw [hsince] at hgot
    exact ⟨got, (List.prefix_nil.mp hgot) ▸ List.nil_prefix, hrest⟩

/-- The snapshot is the session's rows at the time of the handler's first query. -/
theorem Tracked.reply (h : Tracked now s) {task : ℕ} {sessionId : String} {state : Option SessionState}
    {relay : Option String} {expiresAt : Option ℕ} {events : List SessionEventRow}
    (hrequest : s.request = some task) (hreply : s.stream.process.cfg.tasks[task]? =
      some (.done ⟨200, .detail sessionId state relay expiresAt events⟩)) :
    Tracked now { s with
      page := { s.page with detail := some ⟨state, relay, expiresAt, events⟩ } } := by
  refine ⟨h.given, h.handled, h.unsubscribed, h.subscribed, h.received, ?_⟩
  intro detail hdetail
  obtain rfl := Option.some.inj hdetail
  obtain ⟨mvs, hrun, hrequests⟩ := h.handled
  obtain ⟨req, hreq, hlead⟩ := System.leads_heard hrun (Nat.zero_le task) hreply
  obtain rfl := Option.some.inj (hreq.symm.trans (hrequests task hrequest))
  obtain ⟨hne, e₁, e₂, e₃, e₄, hheard⟩ := leads_sessionDetail config hlead
  have hfirst : (⟨e₁, .selectEvents s.sessionId, some events⟩ : Heard Env Command Answer) ∈
      System.heard task (Orchestrator.start config now) mvs := by
    rw [hheard]
    exact List.mem_cons_self
  obtain ⟨-, o, hanswer⟩ := System.heard_spec (system_observes config) hrun hfirst
  have hrely := System.heard_rely (system_observes config) hrun hfirst
  have hevents : events = e₁.events.getSessionEvents s.sessionId := eq_of_select hanswer
  refine ⟨hne, ?_⟩
  rw [hevents]
  exact hrely.filter _

theorem Tracked.message (h : Tracked now s) {received : List StreamMessage} {data : StreamMessage}
    (hreceived : s.stream.hub.received s.socket = some received)
    (hdata : received[s.delivered]? = some data) :
    Tracked now { s with
      delivered := s.delivered + 1, page := s.page.onmessage s.sessionId data } := by
  obtain ⟨got, hgot, hlength, hlive⟩ := h.received
  have hnext : ∃ event, data = sessionTransition event ∧ got ++ [event] <+: s.since := by
    obtain ⟨rest, hrest⟩ := h.sent.prefix_of_received hreceived
    obtain ⟨later, hlater⟩ := hgot
    have hlt := (List.getElem?_eq_some_iff.mp hdata).1
    have hsent : (received ++ rest)[s.delivered]? = received[s.delivered]? :=
      List.getElem?_append_left hlt
    rw [← hsent, hrest, List.getElem?_map] at hdata
    obtain ⟨event, hevent, rfl⟩ := Option.map_eq_some_iff.mp hdata
    rw [← hlater, ← hlength, List.getElem?_append_right (Nat.le_refl _), Nat.sub_self] at hevent
    cases later with
    | nil => cases hevent
    | cons next later =>
      obtain rfl := Option.some.inj hevent
      exact ⟨next, rfl, ⟨later, by rw [← hlater, List.append_assoc]; rfl⟩⟩
  obtain ⟨event, rfl, hgot'⟩ := hnext
  refine ⟨h.given, h.handled, h.unsubscribed, h.subscribed, ⟨got ++ [event], hgot', ?_, ?_⟩, ?_⟩
  · rw [List.length_append, hlength]
    rfl
  · rw [List.filter_append, ← hlive, Page.onmessage]
    by_cases hid : event.sessionId = s.sessionId
    · simp [sessionTransition, hid]
    · simp [sessionTransition, hid]
  · have hdetail : (s.page.onmessage s.sessionId (sessionTransition event)).detail = s.page.detail := by
      unfold Page.onmessage
      split <;> rfl
    intro detail h'
    exact h.fetched detail (hdetail ▸ h')

theorem Tracked.step (h : Tracked now s) (hstep : s.step m = some s') : Tracked now s' := by
  obtain ⟨mvs, hrun, hrequests⟩ := h.handled
  cases m with
  | server move =>
    obtain ⟨hopens, hstep⟩ := Option.ite_none_left_eq_some.mp hstep
    obtain ⟨stream, hstream, rfl⟩ := Option.map_eq_some_iff.mp hstep
    refine h.server hopens hstream ?_
    rcases step_cfg hstream with ⟨-, hcfg⟩ | ⟨mv, -, hmv⟩
    · exact ⟨mvs, hcfg ▸ hrun, hrequests⟩
    · refine ⟨mvs ++ [mv], (System.run_append _ _).mpr ⟨_, hrun, System.run_cons.mpr ⟨_, hmv, rfl⟩⟩, ?_⟩
      intro task htask
      have hreq := hrequests task htask
      rw [System.requests_append, List.getElem?_append_left (List.getElem?_eq_some_iff.mp hreq).1, hreq]
  | getSessionDetail =>
    obtain ⟨-, hstep⟩ := Option.ite_none_left_eq_some.mp hstep
    obtain ⟨stream, hstream, rfl⟩ := Option.map_eq_some_iff.mp hstep
    refine h.server (by simp [Opens]) hstream ?_
    rcases step_cfg hstream with ⟨hnot, -⟩ | ⟨mv, hmv, hstep⟩
    · exact absurd rfl (hnot _)
    · cases hmv
      refine ⟨mvs ++ [_], (System.run_append _ _).mpr ⟨_, hrun, System.run_cons.mpr ⟨_, hstep, rfl⟩⟩, ?_⟩
      intro task htask
      obtain rfl := Option.some.inj htask
      have hlength : s.stream.process.cfg.tasks.length = (System.requests mvs).length :=
        (System.length_tasks hrun).trans (Nat.zero_add _)
      rw [System.requests_append, hlength, List.getElem?_append_right (Nat.le_refl _), Nat.sub_self]
      rfl
  | subscribe =>
    obtain ⟨hnone, hstep⟩ := Option.ite_none_left_eq_some.mp hstep
    obtain rfl := Option.some.inj hstep
    exact h.subscribe (Option.not_isSome_iff_eq_none.mp hnone)
  | reply =>
    simp only [Visit.step] at hstep
    split at hstep
    · next sessionId state relay expiresAt events hreply =>
      obtain rfl := Option.some.inj hstep
      obtain ⟨task, htask, hreply⟩ := Option.bind_eq_some_iff.mp hreply
      obtain ⟨p, hp, hresult⟩ := Option.bind_eq_some_iff.mp hreply
      obtain rfl := Program.result_eq_some.mp hresult
      exact h.reply htask hp
    · cases hstep
  | message =>
    obtain ⟨data, hdata, rfl⟩ := Option.map_eq_some_iff.mp hstep
    obtain ⟨received, hreceived, hdata⟩ := Option.bind_eq_some_iff.mp hdata
    exact h.message hreceived hdata

end Page

/-! ### What the page shows -/

section Shows

variable {now : Instant} {s : Visit config}

theorem log_ordered (s : Visit config) : s.log.Pairwise fun a b => a.id < b.id :=
  s.stream.process.cfg.env.events.ordered.filter _

theorem Tracked.since_sublist (h : Tracked now s) : s.since.Sublist s.stream.rows := by
  unfold since
  cases s.subscribedAt with
  | none => exact List.nil_sublist _
  | some k => exact (List.drop_sublist k _).trans h.given.sublist

theorem Tracked.snapshot_prefix (h : Tracked now s) : s.page.snapshot <+: s.log := by
  unfold Page.snapshot
  cases hdetail : s.page.detail with
  | none => exact List.nil_prefix
  | some detail => exact (h.fetched detail hdetail).2

theorem Tracked.live_sublist (h : Tracked now s) : s.page.liveEvents.Sublist s.log := by
  obtain ⟨got, hgot, -, hlive⟩ := h.received
  rw [hlive]
  exact (hgot.sublist.trans h.since_sublist).filter _

/-- A row that was broadcast before another one that the page has, the page has too. -/
theorem Tracked.mem_live_iff (h : Tracked now s) {row live : SessionEventRow} (hrow : row ∈ s.log)
    (hlive : live ∈ s.page.liveEvents) (hlt : row.id < live.id) :
    row ∈ s.page.liveEvents ↔ row ∈ s.since := by
  obtain ⟨got, ⟨later, hlater⟩, -, hgot⟩ := h.received
  rw [hgot] at hlive ⊢
  constructor
  · intro hmem
    rw [← hlater]
    exact List.mem_append_left _ (List.mem_filter.mp hmem).1
  · intro hmem
    rw [← hlater] at hmem
    refine List.mem_filter.mpr ⟨?_, (List.mem_filter.mp hrow).2⟩
    rcases List.mem_append.mp hmem with hmem | hmem
    · exact hmem
    · have hordered := s.stream.process.cfg.env.events.ordered.sublist h.since_sublist
      rw [← hlater] at hordered
      have hgt := (List.pairwise_append.mp hordered).2.2 live (List.mem_filter.mp hlive).1 row hmem
      exact absurd hgt hlt.asymm

theorem Tracked.prefix_iff (h : Tracked now s) :
    s.page.allEvents <+: s.log ↔ ∀ row ∈ s.log, ∀ live ∈ s.page.liveEvents, row.id < live.id →
      row ∈ s.page.snapshot ∨ row ∈ s.since := by
  rw [Page.allEvents, merge_prefix_iff (log_ordered s) h.snapshot_prefix h.live_sublist]
  refine forall₂_congr fun row hrow => forall₂_congr fun live hlive => forall_congr' fun hlt => ?_
  rw [h.mem_live_iff hrow hlive hlt]

/-- Rows are shown as soon as there is a snapshot, so the page never falls back on its state. -/
theorem Tracked.currentState (h : Tracked now s) : s.page.currentState =
    (s.page.allEvents.getLast?.map fun e => e.toState.name).getD "unknown" := by
  rw [Page.currentState]
  cases hlast : s.page.allEvents.getLast? with
  | some row => rfl
  | none =>
    have hnone : s.page.detail = none := by
      cases hdetail : s.page.detail with
      | none => rfl
      | some detail =>
        have hempty := (List.append_eq_nil_iff.mp (List.getLast?_eq_none_iff.mp hlast)).1
        rw [Page.snapshot, hdetail] at hempty
        exact absurd hempty (h.fetched detail hdetail).1
    rw [hnone]
    rfl

theorem Tracked.currentRelay_iff (h : Tracked now s) :
    s.page.currentRelay = Page.relayOf s.page.allEvents ↔
      s.page.detail.bind SessionDetail.relay = none ∨
      ∃ row ∈ s.page.snapshot ++ s.page.liveEvents, row.relay.filter (· ≠ "") ≠ none := by
  have hsome : Page.relayOf s.page.allEvents ≠ none ↔
      ∃ row ∈ s.page.snapshot ++ s.page.liveEvents, row.relay.filter (· ≠ "") ≠ none := by
    have hmem (row : SessionEventRow) :=
      mem_merge_iff (a := row) (log_ordered s) h.snapshot_prefix h.live_sublist
    rw [Ne, Page.relayOf, latest_eq_none]
    push Not
    simp only [List.mem_append, ← hmem, Page.allEvents]
  rw [Page.currentRelay, ← hsome]
  cases Page.relayOf s.page.allEvents with
  | none => simp
  | some relay => simp

end Shows

/-- **When the session page shows the log.**  For every order in which the page's request is
    handled, its subscription becomes active, rows are inserted and broadcast, and replies and
    messages reach the page: what it shows is the log up to some point, with the state and the
    relay of that point, exactly where it has caught all rows older than a live one. -/
theorem shows_log_iff (config : Config) (now : Instant) (sessionId : String) {socket : ℕ} {hub : Hub}
    (hsocket : hub.Unknown socket) {ms : List (Move config)} {s : Visit config}
    (hrun : Machine.run step (start config now hub sessionId socket) ms = some s) :
    s.page.Shows s.log ↔ s.Caught := by
  have h : Tracked now s := Machine.run_keeps (fun h hstep => h.step hstep) hrun
    (Tracked.start now sessionId hsocket)
  constructor
  · rintro ⟨n, hevents, -, hrelay⟩
    rw [← hevents] at hrelay
    exact ⟨h.prefix_iff.mp (hevents ▸ List.take_prefix n _), h.currentRelay_iff.mp hrelay⟩
  · intro hcaught
    have hevents := List.prefix_iff_eq_take.mp (h.prefix_iff.mpr hcaught.older)
    refine ⟨s.page.allEvents.length, hevents, ?_, ?_⟩
    · rw [← hevents]
      exact h.currentState
    · rw [← hevents]
      exact h.currentRelay_iff.mpr hcaught.relay

/-! ### A subscription that comes late -/

/-- The page of session 0 gets its snapshot.  A failover begins: its first row is broadcast
    before the page's subscription is active, the second comes to the page. -/
def Sample.lateSubscription : List (Move Sample.config) :=
  let server := fun move : System.Move (system Sample.config) => Move.server (.process move)
  Sample.bought.map server ++ [.getSessionDetail] ++
    List.replicate 4 (server (Sample.answered 1)) ++ [.reply] ++
    [server (.arrive (.forceRelayFailure "0"))] ++ List.replicate 6 (server (Sample.answered 2)) ++
    [server (Sample.resumed 2), .subscribe] ++ List.replicate 3 (server (Sample.answered 2)) ++
    [server (Sample.resumed 2), .message]

theorem Sample.run_lateSubscription : ∃ s,
    Machine.run step (start Sample.config Sample.now ⟨[], List.nodup_nil⟩ "0" 7)
      Sample.lateSubscription = some s ∧
    s.page.allEvents.map SessionEventRow.id = [1, 2, 3, 4, 6] ∧
    s.log.map SessionEventRow.id = [1, 2, 3, 4, 5, 6] :=
  Machine.exists_run (by decide +kernel)

theorem shows_log_iff_lateSubscription : ∃ s,
    Machine.run step (start Sample.config Sample.now ⟨[], List.nodup_nil⟩ "0" 7)
      Sample.lateSubscription = some s ∧ (s.page.Shows s.log ↔ s.Caught) := by
  obtain ⟨s, hrun, -⟩ := Sample.run_lateSubscription
  exact ⟨s, hrun, shows_log_iff Sample.config Sample.now "0" (by simp [Hub.Unknown]) hrun⟩

/-- The page never learns of the row between its snapshot and its subscription. -/
theorem row_missed :
    ¬ ∀ (config : Config) (now : Instant) (sessionId : String) (socket : ℕ) (hub : Hub)
        (ms : List (Move config)) (s : Visit config), hub.Unknown socket →
      Machine.run step (start config now hub sessionId socket) ms = some s →
      s.page.Shows s.log := by
  intro hall
  obtain ⟨s, hrun, hevents, hlog⟩ := Sample.run_lateSubscription
  obtain ⟨n, hshown, -⟩ := hall _ _ _ _ _ _ s (by simp [Hub.Unknown]) hrun
  have hprefix : s.page.allEvents.map SessionEventRow.id <+: s.log.map SessionEventRow.id := by
    rw [hshown]
    exact (List.take_prefix n _).map _
  rw [hevents, hlog] at hprefix
  exact absurd hprefix (by decide)

end Visit

end DVoD.Web
