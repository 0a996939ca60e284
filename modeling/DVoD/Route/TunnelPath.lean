import DVoD.MacClient.Replies
import DVoD.Relay.InOrder
import DVoD.Relay.Lifecycle
import DVoD.Text.PercentEncoding

/-!
# From the client to the target

The local proxy of the app and the relay's tunnel server, with the connection between them:
the bytes that the one has sent come to the other later, in pieces of any length.  The http
server in front of the relay's handler is a parameter, of which only what it makes of the
app's own request is known.

`Inv` is the invariant of the whole path; it rests on the invariants of its two ends.
-/

namespace DVoD.Route

open DVoD.Machine DVoD.Net DVoD.Text
open DVoD.Relay (Bytes)

/-! ### The http server of the relay -/

/-- A target as clients write it: a host, and a port behind a colon. -/
def IsAuthority (target : List Char) : Prop := target ≠ [] ∧ ∀ c ∈ target, isUnescaped c = true ∨ c = ':'

/-- Visible ASCII, of which nothing is trimmed off a header. -/
def IsFieldValue (value : List Char) : Prop := value ≠ [] ∧ ∀ c ∈ value, 0x21 ≤ c.toNat ∧ c.toNat ≤ 0x7E

/-- The request of the app for a target. -/
def connectBytes (target token : List Char) : Bytes :=
  MacClient.connectRequest (Utf8.encode target) (Utf8.encode token)

/-- What the handler is given of that request. -/
def connectRequest (target token : List Char) : Relay.ConnectRequest :=
  ⟨some (String.ofList target), some (String.ofList token)⟩

/-- `http.maxHeaderSize`. -/
def maxHeaderSize : ℕ := 16 * 1024

/-- What becomes of the first bytes of a connection. -/
inductive HttpRead where
  /-- The header is not complete. -/
  | waiting
  /-- A 'connect' event, with the bytes behind the header. -/
  | connect (req : Relay.ConnectRequest) (head : Bytes)
  /-- The server answers itself. -/
  | other

/-- An http server, and what it is relied on for: it takes the target and the token out of
    a request of the app, and nothing of what stands behind the request. -/
structure HttpServer where
  read : Bytes → HttpRead
  read_part : ∀ {target token : List Char}, IsAuthority target → IsFieldValue token →
    (connectBytes target token).length < maxHeaderSize →
    ∀ part, part <+: connectBytes target token → part ≠ connectBytes target token → read part = .waiting
  read_whole : ∀ {target token : List Char}, IsAuthority target → IsFieldValue token →
    (connectBytes target token).length < maxHeaderSize →
    ∀ head, read (connectBytes target token ++ head) = .connect (connectRequest target token) head

/-! ### State -/

/-- The two ends of a path. -/
structure Ends where
  platform : MacClient.Platform
  proxy : MacClient.LocalProxyServer
  http : HttpServer
  server : Relay.TunnelServer
  sign : Session.Sign
  highWaterMark : ℕ

/-- The relay's end of the connection. -/
inductive RelayEnd where
  | reading (buffer : Bytes)
  /-- The handler was called at that time. -/
  | handled (now : ℕ) (c : Relay.Connection)
  | threw (now : ℕ)
  | other (sent : Bytes)

def clientSocket : Relay.Connection → Socket UInt8
  | .rejected client _ => client
  | .tunnel t => t.client

namespace RelayEnd

/-- What the relay has sent to the app. -/
def sent : RelayEnd → Bytes
  | .handled _ c => (clientSocket c).sent
  | .other sent => sent
  | _ => []

/-- The relay sends nothing more. -/
def ended : RelayEnd → Bool
  | .reading _ => false
  | .handled _ c =>
      (clientSocket c).destroyed || (clientSocket c).finishing && (clientSocket c).pending.isEmpty
  | .threw _ | .other _ => true

end RelayEnd

/-- `arrived` is how much of what the app has sent has come to the relay. -/
structure Path where
  bridge : MacClient.Bridge
  arrived : ℕ
  relay : RelayEnd
  crashed : Bool

inductive PathMove where
  /-- A move of the app, or of its client. -/
  | bridge (move : MacClient.BridgeMove)
  /-- A move of the relay, or of its target. -/
  | relay (now : ℕ) (move : Relay.TunnelMove)
  /-- The next `n` bytes come to the relay. -/
  | toRelay (now n : ℕ)
  /-- The next `n` bytes come to the app. -/
  | toBridge (n : ℕ)
  | bridgeEnds (now : ℕ)
  | relayEnds
  /-- The http server answers. -/
  | answers (bytes : Bytes)
  /-- The relay's process ends. -/
  | crashes

/-- The move is that of the other end. -/
def ofRelay : MacClient.BridgeMove → Bool
  | .peerSends .remote _ | .peerEnds .remote => true
  | _ => false

def ofBridge : Relay.TunnelMove → Bool
  | .arrives .client _ | .peerEnds .client => true
  | _ => false

namespace Path

def start : Path := ⟨.start, 0, .reading [], false⟩

/-- The bytes on the way to the relay. -/
def toRelay (s : Path) : Bytes := s.bridge.remote.sent.drop s.arrived

/-- The bytes on the way to the app. -/
def toBridge (s : Path) : Bytes := s.relay.sent.drop s.bridge.remote.stream.length

section Step

variable (e : Ends) (s : Path)

/-- A move of a connection of the handler. -/
def perform (move : ℕ × Relay.TunnelMove) : Option Path :=
  match s.relay with
  | .handled now c =>
      if s.crashed then none
      else (c.step move).map fun c' => { s with relay := .handled now c', crashed := c'.uncaught }
  | _ => none

/-- Bytes come to the relay. -/
def receive (now : ℕ) (bytes : Bytes) : Option Path :=
  match s.relay with
  | .reading buffer =>
      if s.crashed then none
      else match e.http.read (buffer ++ bytes) with
        | .waiting => some { s with relay := .reading (buffer ++ bytes) }
        | .connect req head =>
            match e.server.onConnect e.sign e.highWaterMark now req head with
            | .error _ => some { s with relay := .threw now, crashed := true }
            | .ok c => some { s with relay := .handled now c }
        | .other => some { s with relay := .other [] }
  | .handled _ _ => s.perform (now, .arrives .client bytes)
  | .threw _ => none
  | .other _ => if s.crashed then none else some s

def step : PathMove → Option Path
  | .bridge move =>
      if ofRelay move then none
      else (s.bridge.step e.platform e.proxy move).map fun bridge => { s with bridge := bridge }
  | .relay now move => if ofBridge move then none else s.perform (now, move)
  | .toRelay now n =>
      if n = 0 ∨ s.toRelay.length < n then none
      else (s.receive e now (s.toRelay.take n)).map fun s' => { s' with arrived := s.arrived + n }
  | .toBridge n =>
      if n = 0 ∨ s.toBridge.length < n then none
      else (s.bridge.step e.platform e.proxy (.peerSends .remote (s.toBridge.take n))).map fun bridge =>
        { s with bridge := bridge }
  -- an end comes behind all that was sent
  | .bridgeEnds now =>
      if s.bridge.remote.cancelled ∧ s.toRelay = [] then s.perform (now, .peerEnds .client) else none
  | .relayEnds =>
      if (s.crashed ∨ s.relay.ended) ∧ s.toBridge = [] then
        (s.bridge.step e.platform e.proxy (.peerEnds .remote)).map fun bridge => { s with bridge := bridge }
      else none
  | .answers bytes =>
      match s.relay with
      | .other sent => if s.crashed then none else some { s with relay := .other (sent ++ bytes) }
      | _ => none
  | .crashes => some { s with crashed := true }

end Step

end Path

/-! ### What the relay makes of the request -/

/-- The http server reads the app's request for the target. -/
structure Readable (e : Ends) (target : List Char) : Prop where
  authority : IsAuthority target
  fieldValue : IsFieldValue e.proxy.token.toList
  length_lt : (connectBytes target e.proxy.token.toList).length < maxHeaderSize

section Follows

variable (e : Ends) (target : List Char) (now : ℕ)

/-- What the handler does with the request. -/
def handles : Except Session.JsError (List Relay.Effect) :=
  e.server.connect e.sign now (connectRequest target e.proxy.token.toList)

def statusLine (status : String) : Bytes := Utf8.encode ("HTTP/1.1 " ++ status ++ "\r\n\r\n").toList

/-- The handler has rejected the request, and its client is sent a status line. -/
def Refused (client : Socket UInt8) : Prop :=
  ∃ event status, handles e target now =
      .ok [.onEvent event, .write ("HTTP/1.1 " ++ status ++ "\r\n\r\n"), .finish] ∧
    status ∈ ["400 Bad Request", "407 Proxy Authentication Required", "403 Forbidden"] ∧
    Carries (statusLine status) (.fresh 0) client

/-- The handler has dialled, and what has come to it stood behind the request. -/
def Dialled (arrived : Bytes) (t : Relay.Tunnel) : Prop :=
  ∃ head port host, handles e target now = .ok [.dial port host] ∧
    t.dialled = (connectRequest target e.proxy.token.toList, head, port, host) ∧
    connectBytes target e.proxy.token.toList ++ (head ++ t.client.arrived) = arrived

/-- The relay's end, after it was sent a part of the request, or the request and more. -/
def RelayEnd.Follows (arrived : Bytes) : RelayEnd → Prop
  | .reading buffer => buffer = arrived ∧ arrived <+: connectBytes target e.proxy.token.toList ∧
      arrived ≠ connectBytes target e.proxy.token.toList
  | .handled now (.rejected client _) => Refused e target now client
  | .handled now (.tunnel t) => t.Piped ∧ Dialled e target now arrived t
  | .threw now => ∃ err, handles e target now = .error err
  | .other _ => False

end Follows

/-- What comes from the app with a move. -/
def fromBridge : Relay.TunnelMove → Bytes
  | .arrives .client bytes => bytes
  | _ => []

section Perform

variable {e : Ends} {target : List Char} {arrived bytes : Bytes} {now now' : ℕ} {move : Relay.TunnelMove}
  {client client' : Socket UInt8} {c c' : Relay.Connection}

/-- A rejected connection goes on sending its status line. -/
theorem refused_step {events : List Relay.TunnelEvent}
    (hstep : (Relay.Connection.rejected client events).step (now', move) = some c') :
    ∃ client', c' = .rejected client' events ∧ client.sent <+: client'.sent ∧
      ∀ {first : Bytes} {src : Socket UInt8}, Carries first src client → Carries first src client' := by
  unfold Relay.Connection.step at hstep
  dsimp only at hstep
  split at hstep
  · obtain ⟨s, hs, rfl⟩ := Option.map_eq_some_iff.mp hstep
    obtain ⟨-, -, rfl⟩ := Socket.arrives_eq_some hs
    exact ⟨_, rfl, List.prefix_rfl, fun h => h.congr rfl rfl rfl rfl⟩
  · obtain ⟨s, hs, rfl⟩ := Option.map_eq_some_iff.mp hstep
    obtain ⟨-, -, rfl⟩ := Socket.peerEnds_eq_some hs
    exact ⟨_, rfl, List.prefix_rfl, fun h => h.congr rfl rfl rfl rfl⟩
  · obtain ⟨s, hs, rfl⟩ := Option.map_eq_some_iff.mp hstep
    obtain ⟨-, -, -, rfl⟩ := Socket.ends_eq_some hs
    exact ⟨_, rfl, List.prefix_rfl, fun h => h.congr rfl rfl rfl rfl⟩
  · obtain ⟨s, hs, rfl⟩ := Option.map_eq_some_iff.mp hstep
    refine ⟨s, rfl, ?_, fun h => h.flushed hs⟩
    obtain ⟨-, hs⟩ := Option.ite_none_left_eq_some.mp hs
    obtain rfl := Option.some.inj hs
    exact List.prefix_append ..
  · obtain ⟨s, hs, rfl⟩ := Option.map_eq_some_iff.mp hstep
    obtain ⟨-, rfl⟩ := Socket.fails_eq_some hs
    exact ⟨_, rfl, List.prefix_rfl, fun h => h.destroy.congr rfl rfl rfl rfl⟩
  · obtain ⟨s, hs, rfl⟩ := Option.map_eq_some_iff.mp hstep
    obtain ⟨-, rfl⟩ := Socket.closes_eq_some hs
    exact ⟨_, rfl, List.prefix_rfl, fun h => h.destroy.congr rfl rfl rfl rfl⟩
  · cases hstep

theorem tunnel_step {t : Relay.Tunnel} (hstep : (Relay.Connection.tunnel t).step (now', move) = some c') :
    ∃ t', c' = .tunnel t' ∧ t.step (now', move) = some t' ∧ t.client.sent <+: t'.client.sent ∧
      t'.client.arrived = t.client.arrived ++ fromBridge move := by
  obtain ⟨t', ht', rfl⟩ := Option.map_eq_some_iff.mp hstep
  refine ⟨t', rfl, ht', ?_⟩
  rcases Relay.Tunnel.grows_or_arrives ht' with ⟨hnot, hgrows⟩ | ⟨side, bytes, rfl, rfl⟩
  · have hnone : fromBridge move = [] := by
      unfold fromBridge
      split
      · exact absurd rfl (hnot .client _)
      · rfl
    rw [hnone, List.append_nil]
    exact hgrows .client
  · cases side with
    | client => exact ⟨List.prefix_rfl, (List.append_assoc ..).symm⟩
    | target => exact ⟨List.prefix_rfl, (List.append_nil _).symm⟩

/-- The connection of the handler stays what it is. -/
theorem follows_perform (h : RelayEnd.Follows e target arrived (.handled now c))
    (hstep : c.step (now', move) = some c') :
    RelayEnd.Follows e target (arrived ++ fromBridge move) (.handled now c') := by
  cases c with
  | rejected client events =>
    obtain ⟨client', rfl, -, hcarries⟩ := refused_step hstep
    obtain ⟨event, status, hhandles, hstatus, hsent⟩ := h
    exact ⟨event, status, hhandles, hstatus, hcarries hsent⟩
  | tunnel t =>
    obtain ⟨t', rfl, ht', -, harrived⟩ := tunnel_step hstep
    obtain ⟨hpiped, head, port, host, hhandles, hdialled, hstream⟩ := h
    refine ⟨hpiped.step ht', head, port, host, hhandles, ?_, ?_⟩
    · rw [Relay.Tunnel.dialled_step ht']
      exact hdialled
    · rw [harrived, ← hstream]
      simp only [List.append_assoc]

theorem sent_perform (hstep : c.step (now', move) = some c') :
    (clientSocket c).sent <+: (clientSocket c').sent := by
  cases c with
  | rejected client events =>
    obtain ⟨client', rfl, hsent, -⟩ := refused_step hstep
    exact hsent
  | tunnel t =>
    obtain ⟨t', rfl, -, hsent, -⟩ := tunnel_step hstep
    exact hsent

/-- The handler is called with the app's request. -/
theorem follows_onConnect {head : Bytes}
    (hc : e.server.onConnect e.sign e.highWaterMark now (connectRequest target e.proxy.token.toList) head =
      .ok c) :
    RelayEnd.Follows e target (connectBytes target e.proxy.token.toList ++ head) (.handled now c) := by
  rcases Relay.connect_cases e.server e.sign now (connectRequest target e.proxy.token.toList) with
    ⟨effects, hok, event, status, rfl, -, hstatus⟩ | ⟨-, -, port, host, -, -, -, hok⟩ | ⟨-, err, -, herr, -⟩
  · obtain rfl := Except.ok.inj ((Relay.onConnect_of_connect hok).symm.trans hc)
    exact ⟨event, status, hok, hstatus, .of_given (List.append_nil _).symm⟩
  · obtain rfl := Except.ok.inj ((Relay.onConnect_of_connect hok).symm.trans hc)
    refine ⟨Relay.Tunnel.piped_dial .., head, port, host, hok, rfl, ?_⟩
    exact congrArg _ (List.append_nil head)
  · rw [Relay.TunnelServer.onConnect, herr] at hc
    cases hc

end Perform

/-! ### The invariant -/

namespace Path

structure Inv (e : Ends) (s : Path) : Prop where
  bridge : s.bridge.Inv e.platform e.proxy
  replied : s.bridge.Replied e.platform
  -- what the app has of the relay, and the relay of the app
  down : s.bridge.remote.stream <+: s.relay.sent
  up : s.arrived ≤ s.bridge.remote.sent.length
  idle : s.bridge.remote.sends = [] → s.relay = .reading []
  follows : ∀ target, Readable e target →
    s.bridge.remote.sends.head? = some (connectBytes target e.proxy.token.toList) →
    s.relay.Follows e target (s.bridge.remote.sent.take s.arrived)

section Inv

variable {e : Ends} {s s' : Path} {bridge : MacClient.Bridge} {target : List Char} {arrived bytes more : Bytes}
  {now n : ℕ}

theorem connectBytes_ne_nil (target token : List Char) : connectBytes target token ≠ [] := by
  intro hnil
  have hlength := congrArg List.length hnil
  simp [connectBytes, MacClient.connectRequest, Utf8.encode, Utf8.units] at hlength

theorem inv_start : start.Inv e where
  bridge := MacClient.Bridge.inv_start
  replied := MacClient.Bridge.replied_start
  down := List.prefix_rfl
  up := Nat.le_refl _
  idle _ := rfl
  follows _ _ hhead := nomatch hhead

theorem sent_prefix {sends sends' : List Bytes} (h : sends <+: sends') : sends.flatten <+: sends'.flatten := by
  obtain ⟨rest, rfl⟩ := h
  rw [List.flatten_append]
  exact List.prefix_append ..

theorem sent_eq_nil {c : Channel UInt8} (h : c.sends = []) : c.sent = [] := by
  rw [Channel.sent, h]
  rfl

/-- The app's end moves. -/
theorem Inv.setBridge (h : s.Inv e) (hinv : bridge.Inv e.platform e.proxy)
    (hreplied : bridge.Replied e.platform) (hsends : s.bridge.remote.sends <+: bridge.remote.sends)
    (hstream : bridge.remote.stream <+: s.relay.sent) : Inv e { s with bridge := bridge } := by
  have hsent : s.bridge.remote.sent <+: bridge.remote.sent := sent_prefix hsends
  refine ⟨hinv, hreplied, hstream, h.up.trans hsent.length_le, ?_, ?_⟩
  · intro hnil
    have hsends' : bridge.remote.sends = [] := hnil
    rw [hsends'] at hsends
    exact h.idle (List.prefix_nil.mp hsends)
  · intro target hreadable hhead
    cases hfirst : s.bridge.remote.sends with
    | nil =>
      have harrived : s.arrived = 0 := by
        have hup := h.up
        rw [sent_eq_nil hfirst] at hup
        exact Nat.le_zero.mp hup
      have hrelay : s.relay = .reading [] := h.idle hfirst
      rw [harrived, hrelay]
      exact ⟨rfl, List.nil_prefix, fun heq => connectBytes_ne_nil _ _ heq.symm⟩
    | cons request rest =>
      have hhead' : s.bridge.remote.sends.head? = bridge.remote.sends.head? := by
        obtain ⟨later, hlater⟩ := hsends
        rw [← hlater, hfirst]
        rfl
      have htake : bridge.remote.sent.take s.arrived = s.bridge.remote.sent.take s.arrived := by
        obtain ⟨later, hlater⟩ := hsent
        rw [← hlater, List.take_append_of_le_length h.up]
      rw [htake]
      exact h.follows target hreadable (hhead'.trans hhead)

/-- The relay's end moves, and has taken more of what the app has sent. -/
theorem Inv.setRelay (h : s.Inv e) {relay : RelayEnd} {crashed : Bool} (hsent : s.relay.sent <+: relay.sent)
    (hidle : s.bridge.remote.sends ≠ []) (hup : n ≤ s.bridge.remote.sent.length)
    (hfollows : ∀ target, Readable e target →
      s.bridge.remote.sends.head? = some (connectBytes target e.proxy.token.toList) →
      relay.Follows e target (s.bridge.remote.sent.take n)) : Inv e ⟨s.bridge, n, relay, crashed⟩ where
  bridge := h.bridge
  replied := h.replied
  down := h.down.trans hsent
  up := hup
  idle hnil := absurd hnil hidle
  follows := hfollows

theorem Inv.sends_ne_nil (h : s.Inv e) (hrelay : s.relay ≠ .reading []) : s.bridge.remote.sends ≠ [] := by
  intro hnil
  exact hrelay (h.idle hnil)

/-- The handler's connection moves, with or without bytes from the app. -/
theorem perform_cases {move : ℕ × Relay.TunnelMove} (hs' : s.perform move = some s') :
    ∃ now c c', s.relay = .handled now c ∧ c.step move = some c' ∧
      s' = { s with relay := .handled now c', crashed := c'.uncaught } := by
  unfold perform at hs'
  split at hs'
  · next now c hrelay =>
    obtain ⟨-, hs'⟩ := Option.ite_none_left_eq_some.mp hs'
    obtain ⟨c', hc', rfl⟩ := Option.map_eq_some_iff.mp hs'
    exact ⟨now, c, c', hrelay, hc', rfl⟩
  · cases hs'

/-- The app has sent the request, and then more. -/
theorem sent_of_head? {c : Channel UInt8} {request : Bytes} (h : c.sends.head? = some request) :
    ∃ more, c.sent = request ++ more := by
  obtain ⟨rest, hrest⟩ := List.head?_eq_some_iff.mp h
  exact ⟨rest.flatten, by rw [Channel.sent, hrest, List.flatten_cons]⟩

/-- The http server reads the request as it comes in, whatever the pieces are. -/
theorem follows_receive (hreadable : Readable e target) (h : s.relay.Follows e target arrived)
    (hmore : arrived ++ bytes <+: connectBytes target e.proxy.token.toList ++ more)
    (hs' : s.receive e now bytes = some s') : s'.relay.Follows e target (arrived ++ bytes) := by
  unfold receive at hs'
  split at hs'
  · next buffer hrelay =>
    rw [hrelay] at h
    obtain ⟨rfl, -, -⟩ := h
    obtain ⟨-, hs'⟩ := Option.ite_none_left_eq_some.mp hs'
    by_cases hwhole : connectBytes target e.proxy.token.toList <+: buffer ++ bytes
    · obtain ⟨head, hhead⟩ := hwhole
      rw [← hhead, e.http.read_whole hreadable.authority hreadable.fieldValue hreadable.length_lt head] at hs'
      dsimp only at hs'
      cases hc : e.server.onConnect e.sign e.highWaterMark now
          (connectRequest target e.proxy.token.toList) head with
      | error err =>
        rw [hc] at hs'
        obtain rfl := Option.some.inj hs'
        obtain ⟨err, herr⟩ := Relay.onConnect_error_iff.mp ⟨err, hc⟩
        exact ⟨err, herr⟩
      | ok c =>
        rw [hc] at hs'
        obtain rfl := Option.some.inj hs'
        rw [← hhead]
        exact follows_onConnect hc
    · have hpart : buffer ++ bytes <+: connectBytes target e.proxy.token.toList :=
        (List.prefix_or_prefix_of_prefix hmore (List.prefix_append ..)).resolve_right hwhole
      have hne : buffer ++ bytes ≠ connectBytes target e.proxy.token.toList := by
        intro heq
        exact hwhole (heq ▸ List.prefix_rfl)
      rw [e.http.read_part hreadable.authority hreadable.fieldValue hreadable.length_lt _ hpart hne] at hs'
      obtain rfl := Option.some.inj hs'
      exact ⟨rfl, hpart, hne⟩
  · next now' c hrelay =>
    obtain ⟨now'', c', c'', hrelay', hstep, rfl⟩ := perform_cases hs'
    rw [hrelay'] at h
    exact follows_perform h hstep
  · cases hs'
  · next sent hrelay =>
    rw [hrelay] at h
    exact h.elim

/-- What the relay has sent to the app stays so. -/
theorem sent_receive (hs' : s.receive e now bytes = some s') :
    s'.bridge = s.bridge ∧ s.relay.sent <+: s'.relay.sent := by
  unfold receive at hs'
  split at hs'
  · next buffer hrelay =>
    obtain ⟨-, hs'⟩ := Option.ite_none_left_eq_some.mp hs'
    rw [hrelay]
    split at hs'
    · obtain rfl := Option.some.inj hs'
      exact ⟨rfl, List.nil_prefix⟩
    · split at hs'
      · obtain rfl := Option.some.inj hs'
        exact ⟨rfl, List.nil_prefix⟩
      · obtain rfl := Option.some.inj hs'
        exact ⟨rfl, List.nil_prefix⟩
    · obtain rfl := Option.some.inj hs'
      exact ⟨rfl, List.nil_prefix⟩
  · next now' c hrelay =>
    obtain ⟨now'', c', c'', hrelay', hstep, rfl⟩ := perform_cases hs'
    rw [hrelay']
    exact ⟨rfl, sent_perform hstep⟩
  · cases hs'
  · obtain ⟨-, hs'⟩ := Option.ite_none_left_eq_some.mp hs'
    obtain rfl := Option.some.inj hs'
    exact ⟨rfl, List.prefix_rfl⟩

theorem Inv.perform {move : ℕ × Relay.TunnelMove} (h : s.Inv e) (hs' : s.perform move = some s')
    (hmove : fromBridge move.2 = []) : s'.Inv e := by
  obtain ⟨now, c, c', hrelay, hstep, rfl⟩ := perform_cases hs'
  apply h.setRelay
  · rw [hrelay]
    exact sent_perform hstep
  · apply h.sends_ne_nil
    rw [hrelay]
    intro heq
    cases heq
  · exact h.up
  · intro target hreadable hhead
    have hfollows := h.follows target hreadable hhead
    rw [hrelay] at hfollows
    have hfollows' := follows_perform hfollows hstep
    rw [hmove, List.append_nil] at hfollows'
    exact hfollows'

theorem Inv.toRelay (h : s.Inv e) (hn : n ≠ 0) (hlength : n ≤ s.toRelay.length)
    (hs' : s.receive e now (s.toRelay.take n) = some s') : Inv e { s' with arrived := s.arrived + n } := by
  obtain ⟨hbridge, hsent⟩ := sent_receive hs'
  have hlength' : s.arrived + n ≤ s.bridge.remote.sent.length := by
    rw [Path.toRelay, List.length_drop] at hlength
    have hup := h.up
    omega
  rw [hbridge]
  refine h.setRelay hsent ?_ hlength' ?_
  · intro hnil
    rw [sent_eq_nil hnil, List.length_nil] at hlength'
    omega
  · intro target hreadable hhead
    obtain ⟨more, hmore⟩ := sent_of_head? hhead
    rw [List.take_add]
    apply follows_receive hreadable (h.follows target hreadable hhead) _ hs'
    · exact more
    · rw [← hmore, Path.toRelay, ← List.take_add]
      exact List.take_prefix ..

/-- **Every move keeps the invariant.** -/
theorem Inv.step {move : PathMove} (h : s.Inv e) (hstep : s.step e move = some s') : s'.Inv e := by
  cases move with
  | bridge move =>
    obtain ⟨hnot, hstep⟩ := Option.ite_none_left_eq_some.mp hstep
    obtain ⟨bridge, hbridge, rfl⟩ := Option.map_eq_some_iff.mp hstep
    obtain ⟨hsends, hstream⟩ := MacClient.Bridge.remote_step hbridge
    have hnone : move.fromRemote = [] := by
      unfold MacClient.BridgeMove.fromRemote
      split
      · exact absurd rfl hnot
      · rfl
    apply h.setBridge (h.bridge.step hbridge) (h.replied.step h.bridge hbridge) hsends
    rw [hstream, hnone, List.append_nil]
    exact h.down
  | relay now move =>
    obtain ⟨hnot, hstep⟩ := Option.ite_none_left_eq_some.mp hstep
    apply h.perform hstep
    change fromBridge move = []
    unfold fromBridge
    split
    · exact absurd rfl hnot
    · rfl
  | toRelay now n =>
    obtain ⟨hnot, hstep⟩ := Option.ite_none_left_eq_some.mp hstep
    rw [not_or, not_lt] at hnot
    obtain ⟨s₁, hs₁, rfl⟩ := Option.map_eq_some_iff.mp hstep
    exact h.toRelay hnot.1 hnot.2 hs₁
  | toBridge n =>
    obtain ⟨hnot, hstep⟩ := Option.ite_none_left_eq_some.mp hstep
    obtain ⟨bridge, hbridge, rfl⟩ := Option.map_eq_some_iff.mp hstep
    obtain ⟨hsends, hstream⟩ := MacClient.Bridge.remote_step hbridge
    apply h.setBridge (h.bridge.step hbridge) (h.replied.step h.bridge hbridge) hsends
    obtain ⟨rest, hrest⟩ := h.down
    rw [hstream, MacClient.BridgeMove.fromRemote, Path.toBridge, ← hrest, List.drop_left]
    exact (List.prefix_append_right_inj _).mpr (List.take_prefix ..)
  | bridgeEnds now =>
    obtain ⟨-, hstep⟩ := Option.ite_none_right_eq_some.mp hstep
    exact h.perform hstep rfl
  | relayEnds =>
    obtain ⟨-, hstep⟩ := Option.ite_none_right_eq_some.mp hstep
    obtain ⟨bridge, hbridge, rfl⟩ := Option.map_eq_some_iff.mp hstep
    obtain ⟨hsends, hstream⟩ := MacClient.Bridge.remote_step hbridge
    apply h.setBridge (h.bridge.step hbridge) (h.replied.step h.bridge hbridge) hsends
    have hnone : (MacClient.BridgeMove.peerEnds .remote).fromRemote = [] := rfl
    rw [hstream, hnone, List.append_nil]
    exact h.down
  | answers bytes =>
    unfold Path.step at hstep
    dsimp only at hstep
    split at hstep
    · next sent hrelay =>
      obtain ⟨-, hstep⟩ := Option.ite_none_left_eq_some.mp hstep
      obtain rfl := Option.some.inj hstep
      apply h.setRelay
      · rw [hrelay]
        exact List.prefix_append ..
      · apply h.sends_ne_nil
        rw [hrelay]
        intro heq
        cases heq
      · exact h.up
      · intro target hreadable hhead
        have hfollows := h.follows target hreadable hhead
        rw [hrelay] at hfollows
        exact hfollows.elim
    · cases hstep
  | crashes =>
    obtain rfl := Option.some.inj hstep
    exact ⟨h.bridge, h.replied, h.down, h.up, h.idle, h.follows⟩

theorem inv_of_run {moves : List PathMove} (hrun : run (Path.step e) start moves = some s) : s.Inv e :=
  run_keeps (fun h hstep => h.step hstep) hrun inv_start

end Inv

end Path

end DVoD.Route
