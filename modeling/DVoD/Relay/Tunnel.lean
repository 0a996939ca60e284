import DVoD.Machine.Run
import DVoD.Net.Socket
import DVoD.Relay.TunnelSafety

/-!
# Tunnels

The `connect` handler of `server.ts` from where it dials: the two sockets, the pipes between
them, and `closeBoth`, which listens to both.  A move is one event of a socket; the order
in which events come is left open.
-/

namespace DVoD.Relay

open DVoD.Net DVoD.Session DVoD.Text

abbrev Bytes := List UInt8

/-! ### State -/

inductive Side where
  | client
  | target
deriving DecidableEq

def Side.other : Side → Side
  | client => target
  | target => client

@[simp] theorem Side.other_other (side : Side) : side.other.other = side := by
  cases side <;> rfl

theorem Side.eq_other_of_ne {side side' : Side} (h : side' ≠ side) : side' = side.other := by
  cases side <;> cases side' <;> first | rfl | exact absurd rfl h

/-- The http server leaves the client's socket open when the client has ended its side;
    a socket of `net.connect` ends its own side as well. -/
def Side.allowHalfOpen : Side → Bool
  | client => true
  | target => false

/-- Bytes that the handler wrote to a socket for its peer. -/
structure Forwarded where
  time : ℕ
  dst : Side
  bytes : Bytes

structure Tunnel where
  request : ConnectRequest
  head : Bytes
  targetPort : ℤ
  targetHost : List Char
  connected : Bool
  client : Socket UInt8
  target : Socket UInt8
  events : List TunnelEvent
  forwarded : List Forwarded

/-- What a socket of a tunnel, or the clock, does next. -/
inductive TunnelMove where
  | connected
  | arrives (side : Side) (bytes : Bytes)
  | peerEnds (side : Side)
  | data (side : Side) (n : ℕ)
  | ends (side : Side)
  | flushed (side : Side) (n : ℕ)
  | drained (side : Side)
  | error (side : Side)
  | close (side : Side)

def established : Bytes := Utf8.encode "HTTP/1.1 200 Connection Established\r\n\r\n".toList

namespace Tunnel

def socket (t : Tunnel) : Side → Socket UInt8
  | .client => t.client
  | .target => t.target

def set (t : Tunnel) (side : Side) (socket : Socket UInt8) : Tunnel :=
  match side with
  | .client => { t with client := socket }
  | .target => { t with target := socket }

def onEvent (t : Tunnel) (event : TunnelEventKind) : Tunnel :=
  { t with events := t.events ++ [⟨event, t.targetHost, .finite t.targetPort, none⟩] }

def logForwarded (t : Tunnel) (now : ℕ) (dst : Side) (bytes : Bytes) : Tunnel :=
  { t with forwarded := t.forwarded ++ [⟨now, dst, bytes⟩] }

/-! ### The listeners -/

def closeBoth (t : Tunnel) : Tunnel :=
  let t := t.onEvent .closed
  { t with target := t.target.destroy, client := t.client.destroy }

/-- An 'error' event. -/
def emitError (t : Tunnel) (side : Side) : Tunnel :=
  if (t.socket side).onError then t.closeBoth
  else t.set side { t.socket side with uncaught := true }

/-- A 'close' event. -/
def emitClose (t : Tunnel) (side : Side) : Tunnel :=
  if (t.socket side).onClose then t.closeBoth else t

/-- The handler after `net.connect`. -/
def dial (request : ConnectRequest) (head : Bytes) (highWaterMark : ℕ) (targetPort : ℤ)
    (targetHost : List Char) (client : Socket UInt8) (events : List TunnelEvent) : Tunnel where
  request := request
  head := head
  targetPort := targetPort
  targetHost := targetHost
  connected := false
  client := client.listen
  target := (Socket.fresh highWaterMark).listen
  events := events
  forwarded := []

/-- The callback of `net.connect`.  A pipe starts to flow unless its end waits for a drain,
    and passes on an end that came before it. -/
def onConnected (now : ℕ) (t : Tunnel) : Tunnel :=
  let client := t.client.write established
  let target := t.target.write t.head
  let t := (t.logForwarded now .target t.head).onEvent .opened
  { t with
    connected := true
    client := { client with paused := target.needDrain }
    target := { target with
      paused := client.needDrain
      finishing := target.finishing || client.ended } }

/-- A chunk that a pipe has read.  To write it after the end destroys the socket. -/
def forward (now : ℕ) (t : Tunnel) (side : Side) (chunk : Bytes) : Tunnel :=
  let dst := t.socket side.other
  if dst.destroyed then t
  else if dst.finishing then (t.set side.other dst.destroy).emitError side.other
  else
    let dst := dst.write chunk
    let src := if dst.needDrain then (t.socket side).pause else t.socket side
    ((t.set side src).set side.other dst).logForwarded now side.other chunk

/-- The end of what a pipe reads, where the pipe is there. -/
def onEnd (t : Tunnel) (side : Side) : Tunnel :=
  if t.connected then
    let t := t.set side.other (t.socket side.other).finish
    if side.allowHalfOpen then t else t.set side (t.socket side).finish
  else t

/-! ### Moves -/

/-- The state after a move at the time `now`, or `none` where it cannot happen. -/
def step (t : Tunnel) : ℕ × TunnelMove → Option Tunnel
  | (now, .connected) => if t.connected ∨ t.target.destroyed then none else some (t.onConnected now)
  | (_, .arrives side bytes) =>
      if side = .target ∧ ¬ t.connected then none
      else ((t.socket side).arrives bytes).map (t.set side)
  | (_, .peerEnds side) =>
      if side = .target ∧ ¬ t.connected then none else (t.socket side).peerEnds.map (t.set side)
  | (now, .data side n) =>
      if ¬ t.connected then none
      else ((t.socket side).data n).map fun read => (t.set side read.2).forward now side read.1
  | (_, .ends side) =>
      if side = .target ∧ ¬ t.connected then none
      else (t.socket side).ends.map fun socket => (t.set side socket).onEnd side
  | (_, .flushed side n) => ((t.socket side).flushed n).map (t.set side)
  | (_, .drained side) =>
      (t.socket side).drained.map fun socket =>
        (t.set side socket).set side.other (t.socket side.other).resume
  | (_, .error side) => (t.socket side).fails.map fun socket => (t.set side socket).emitError side
  | (_, .close side) => (t.socket side).closes.map fun socket => (t.set side socket).emitClose side

section Sockets

variable (t : Tunnel) (side : Side) (s s' : Socket UInt8)

@[simp] theorem socket_set_self : (t.set side s).socket side = s := by
  cases side <;> rfl

@[simp] theorem socket_set_other : (t.set side s).socket side.other = t.socket side.other := by
  cases side <;> rfl

@[simp] theorem socket_set_set : ((t.set side s).set side.other s').socket side = s := by
  cases side <;> rfl

@[simp] theorem set_set_self : (t.set side s).set side s' = t.set side s' := by
  cases side <;> rfl

@[simp] theorem connected_set : (t.set side s).connected = t.connected := by
  cases side <;> rfl

@[simp] theorem head_set : (t.set side s).head = t.head := by
  cases side <;> rfl

@[simp] theorem socket_closeBoth : t.closeBoth.socket side = (t.socket side).destroy := by
  cases side <;> rfl

variable {t side}

theorem emitError_of_listening (h : (t.socket side).onError = true) : t.emitError side = t.closeBoth :=
  if_pos h

theorem emitClose_of_listening (h : (t.socket side).onClose = true) : t.emitClose side = t.closeBoth :=
  if_pos h

end Sockets

/-! ### A chunk that was read -/

section Forward

variable {t : Tunnel} {side : Side} (s : Socket UInt8) (now : ℕ) (chunk : Bytes)

theorem forward_of_finishing (hdestroyed : (t.socket side.other).destroyed = false)
    (hfinishing : (t.socket side.other).finishing = true) :
    (t.set side s).forward now side chunk =
      ((t.set side s).set side.other (t.socket side.other).destroy).emitError side.other := by
  simp [forward, hdestroyed, hfinishing]

theorem forward_of_open (hdestroyed : (t.socket side.other).destroyed = false)
    (hfinishing : (t.socket side.other).finishing = false) :
    ∃ paused, (t.set side s).forward now side chunk =
      ((t.set side { s with paused := paused }).set side.other
        ((t.socket side.other).write chunk)).logForwarded now side.other chunk := by
  refine ⟨((t.socket side.other).write chunk).needDrain || s.paused, ?_⟩
  simp only [forward, socket_set_other, socket_set_self, set_set_self, hdestroyed, hfinishing,
    Bool.false_eq_true, if_false]
  cases ((t.socket side.other).write chunk).needDrain <;> simp [Socket.pause]

end Forward

/-! ### What a move does -/

/-- The moves that can be made, with the event of the socket that each one is. -/
inductive Moves (t : Tunnel) (now : ℕ) : TunnelMove → Tunnel → Prop
  | connected : t.connected = false → t.target.destroyed = false →
      Moves t now .connected (t.onConnected now)
  | arrives {side bytes s} : (t.socket side).arrives bytes = some s →
      Moves t now (.arrives side bytes) (t.set side s)
  | peerEnds {side s} : (t.socket side).peerEnds = some s → Moves t now (.peerEnds side) (t.set side s)
  | data {side n chunk s} : t.connected = true → (t.socket side).data n = some (chunk, s) →
      Moves t now (.data side n) ((t.set side s).forward now side chunk)
  | ends {side s} : ¬ (side = .target ∧ ¬ t.connected) → (t.socket side).ends = some s →
      Moves t now (.ends side) ((t.set side s).onEnd side)
  | flushed {side n s} : (t.socket side).flushed n = some s →
      Moves t now (.flushed side n) (t.set side s)
  | drained {side s} : (t.socket side).drained = some s →
      Moves t now (.drained side) ((t.set side s).set side.other (t.socket side.other).resume)
  | error {side s} : (t.socket side).fails = some s →
      Moves t now (.error side) ((t.set side s).emitError side)
  | close {side s} : (t.socket side).closes = some s →
      Moves t now (.close side) ((t.set side s).emitClose side)

theorem moves_of_step {t t' : Tunnel} {now : ℕ} {move : TunnelMove}
    (h : t.step (now, move) = some t') : Moves t now move t' := by
  cases move with
  | connected =>
    obtain ⟨hnot, h⟩ := Option.ite_none_left_eq_some.mp h
    rw [not_or, Bool.not_eq_true, Bool.not_eq_true] at hnot
    obtain rfl := Option.some.inj h
    exact .connected hnot.1 hnot.2
  | arrives side bytes =>
    obtain ⟨-, h⟩ := Option.ite_none_left_eq_some.mp h
    obtain ⟨s, harrives, rfl⟩ := Option.map_eq_some_iff.mp h
    exact .arrives harrives
  | peerEnds side =>
    obtain ⟨-, h⟩ := Option.ite_none_left_eq_some.mp h
    obtain ⟨s, hends, rfl⟩ := Option.map_eq_some_iff.mp h
    exact .peerEnds hends
  | data side n =>
    obtain ⟨hconnected, h⟩ := Option.ite_none_left_eq_some.mp h
    obtain ⟨⟨chunk, s⟩, hdata, rfl⟩ := Option.map_eq_some_iff.mp h
    exact .data (not_not.mp hconnected) hdata
  | ends side =>
    obtain ⟨hconnected, h⟩ := Option.ite_none_left_eq_some.mp h
    obtain ⟨s, hends, rfl⟩ := Option.map_eq_some_iff.mp h
    exact .ends hconnected hends
  | flushed side n =>
    obtain ⟨s, hflushed, rfl⟩ := Option.map_eq_some_iff.mp h
    exact .flushed hflushed
  | drained side =>
    obtain ⟨s, hdrained, rfl⟩ := Option.map_eq_some_iff.mp h
    exact .drained hdrained
  | error side =>
    obtain ⟨s, hfails, rfl⟩ := Option.map_eq_some_iff.mp h
    exact .error hfails
  | close side =>
    obtain ⟨s, hcloses, rfl⟩ := Option.map_eq_some_iff.mp h
    exact .close hcloses

end Tunnel

/-! ### Connections -/

/-- What has become of a CONNECT: the client's socket alone, which is how a rejected one is
    left, or a tunnel. -/
inductive Connection where
  | rejected (client : Socket UInt8) (events : List TunnelEvent)
  | tunnel (t : Tunnel)

/-- An effect of the handler.  Nothing comes after it has dialled. -/
def Connection.perform (req : ConnectRequest) (head : Bytes) (highWaterMark : ℕ) :
    Connection → Effect → Connection
  | .rejected client events, .onEvent event => .rejected client (events ++ [event])
  | .rejected client events, .write text => .rejected (client.write (Utf8.encode text.toList)) events
  | .rejected client events, .finish => .rejected client.finish events
  | .rejected client events, .dial port host =>
      .tunnel (.dial req head highWaterMark port host client events)
  | .tunnel t, _ => .tunnel t

/-- The handler, for a socket from which the http server has taken its own listeners. -/
def TunnelServer.onConnect (server : TunnelServer) (sign : Sign) (highWaterMark now : ℕ)
    (req : ConnectRequest) (head : Bytes) : Except JsError Connection :=
  (server.connect sign now req).map fun effects =>
    effects.foldl (Connection.perform req head highWaterMark) (.rejected (.fresh highWaterMark) [])

/-- A rejected client's socket is not read any more; its end is seen if nothing is unread. -/
def Connection.step (c : Connection) (move : ℕ × TunnelMove) : Option Connection :=
  match c with
  | .tunnel t => (t.step move).map .tunnel
  | .rejected client events =>
      match move.2 with
      | .arrives .client bytes => (client.arrives bytes).map (.rejected · events)
      | .peerEnds .client => client.peerEnds.map (.rejected · events)
      | .ends .client => client.ends.map (.rejected · events)
      | .flushed .client n => (client.flushed n).map (.rejected · events)
      | .error .client =>
          client.fails.map fun socket =>
            .rejected { socket with uncaught := socket.uncaught || !socket.onError } events
      | .close .client => client.closes.map (.rejected · events)
      | _ => none

/-- A rejected connection stays rejected. -/
theorem Connection.rejected_step {client : Socket UInt8} {events : List TunnelEvent} {c' : Connection}
    {move : ℕ × TunnelMove} (h : (Connection.rejected client events).step move = some c') :
    ∃ client', c' = .rejected client' events := by
  unfold Connection.step at h
  dsimp only at h
  split at h <;>
    first
    | obtain ⟨client', -, rfl⟩ := Option.map_eq_some_iff.mp h
      exact ⟨_, rfl⟩
    | cases h

/-- An error event of the connection has found no listener. -/
def Connection.uncaught : Connection → Bool
  | .rejected client _ => client.uncaught
  | .tunnel t => t.client.uncaught || t.target.uncaught

section OnConnect

variable {server : TunnelServer} {sign : Sign} {highWaterMark now : ℕ} {req : ConnectRequest} {head : Bytes}

theorem onConnect_of_connect {effects : List Effect} (h : server.connect sign now req = .ok effects) :
    server.onConnect sign highWaterMark now req head =
      .ok (effects.foldl (Connection.perform req head highWaterMark) (.rejected (.fresh highWaterMark) [])) := by
  rw [TunnelServer.onConnect, h]
  rfl

theorem onConnect_error_iff : (∃ err, server.onConnect sign highWaterMark now req head = .error err) ↔
    ∃ err, server.connect sign now req = .error err := by
  rw [TunnelServer.onConnect]
  rcases server.connect sign now req with err | effects
  · exact iff_of_true ⟨err, rfl⟩ ⟨err, rfl⟩
  · exact iff_of_false nofun nofun

/-- What the handler leaves: a client's socket without listeners, or a tunnel. -/
theorem onConnect_cases {c : Connection}
    (h : server.onConnect sign highWaterMark now req head = .ok c) :
    (∃ client events, c = .rejected client events ∧ client.onError = false ∧ client.uncaught = false) ∨
    (∃ port host, server.connect sign now req = .ok [.dial port host] ∧
      c = .tunnel (.dial req head highWaterMark port host (.fresh highWaterMark) [])) := by
  rcases connect_cases server sign now req with
    ⟨effects, hok, event, status, rfl, -⟩ | ⟨_, _, port, host, _, _, _, hok⟩ | ⟨_, err, _, herr, _⟩
  · obtain rfl := Except.ok.inj ((onConnect_of_connect hok).symm.trans h)
    exact Or.inl ⟨_, _, rfl, rfl, rfl⟩
  · obtain rfl := Except.ok.inj ((onConnect_of_connect hok).symm.trans h)
    exact Or.inr ⟨port, host, hok, rfl⟩
  · rw [TunnelServer.onConnect, herr] at h
    cases h

end OnConnect

/-! ### A tunnel -/

def sampleServer : TunnelServer := ⟨"dev-only-insecure-secret", "carol.dvod-test.eth"⟩

def sampleRequest : ConnectRequest := ⟨some "example.com:443", some sampleToken⟩

def sampleTunnel : Tunnel := .dial sampleRequest [] 16384 443 "example.com".toList (.fresh 16384) []

theorem onConnect_sample :
    sampleServer.onConnect sampleSign 16384 1000000001000 sampleRequest [] = .ok (.tunnel sampleTunnel) := by
  have htoken : sampleRequest.token =
      some (issueSessionToken sampleSign samplePayload "dev-only-insecure-secret") := by
    rw [issue_sample]
    rfl
  have hport : dialPort sampleRequest.target.1 sampleRequest.target.2 = some 443 := by decide +kernel
  have hhost : sampleRequest.target.1 = "example.com".toList := by decide +kernel
  obtain ⟨port, host, hdial⟩ := (dials_issue_iff sampleSign_ne sampleSign_no_dot samplePayload _
    "carol.dvod-test.eth" 1000000001000 htoken).mpr ⟨⟨443, hport⟩, rfl, by decide⟩
  obtain ⟨hport', rfl⟩ := target_of_dial hdial
  obtain rfl := Option.some.inj (hport'.symm.trans hport)
  rw [hhost] at hdial
  exact onConnect_of_connect hdial

end DVoD.Relay
