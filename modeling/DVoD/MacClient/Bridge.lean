import DVoD.MacClient.AppDelegate
import DVoD.MacClient.HeaderReader
import DVoD.Net.Channel
import DVoD.Text.Grapheme

/-!
# A connection of the local proxy

`handleClient`, `bridgeToRemote` and `pump` of `LocalProxyServer.swift`, for one client: the
client's header is read, a CONNECT with the session token goes to the relay, and once the
relay has accepted it the bytes go both ways.

The server lives as long as its connections.
-/

namespace DVoD.MacClient

open DVoD.Machine DVoD.Net DVoD.Text

/-- What the platform decides: the properties of scalars, and which `NWEndpoint.Port` there are. -/
structure Platform where
  characterData : CharacterData
  isPort : UInt16 → Bool

/-! ### The two headers -/

/-- The target in the client's header; `none` where `handleClient` gives up. -/
def requestTarget (data : CharacterData) (headerText : Option (List Char)) :
    Option (List (List Char)) := do
  let headerText ← headerText
  let firstLine ← (splitCharacters ['\r', '\n'] (data.characters headerText)).head?
  if hasPrefix firstLine (data.characters "CONNECT ".toList) then
    let parts := splitCharacters [' '] firstLine
    if 2 ≤ parts.length then parts[1]? else none
  else none

def connectRequest (target token : Bytes) : Bytes :=
  Utf8.encode "CONNECT ".toList ++ target ++ Utf8.encode " HTTP/1.1\r\nHost: ".toList ++ target ++
    Utf8.encode "\r\nx-session-token: ".toList ++ token ++ Utf8.encode "\r\n\r\n".toList

/-- The relay's answer is a 200. -/
def accepts (data : CharacterData) (headerText : Option (List Char)) : Bool :=
  headerText.any fun headerText =>
    hasPrefix (data.characters headerText) (data.characters "HTTP/1.1 200".toList) ||
      hasPrefix (data.characters headerText) (data.characters "HTTP/1.0 200".toList)

def established : Bytes := Utf8.encode "HTTP/1.1 200 Connection Established\r\n\r\n".toList

def badGateway : Bytes := Utf8.encode "HTTP/1.1 502 Bad Gateway\r\n\r\n".toList

/-! ### State -/

inductive Side where
  | client
  | remote
deriving DecidableEq

inductive Phase where
  /-- The client's header is read. -/
  | handleClient (buffer : Bytes)
  /-- The remote's header is read. -/
  | bridgeToRemote (leftover buffer : Bytes)
  /-- The 200 is being sent to the client. -/
  | accepted (leftover remoteLeftover : Bytes)
  | pumping
  /-- A pump has cancelled both connections. -/
  | closed
  /-- The 502 is being sent to the client. -/
  | rejecting
  | rejected

structure Bridge where
  client : Channel UInt8
  remote : Channel UInt8
  phase : Phase

inductive BridgeMove where
  | peerSends (side : Side) (bytes : Bytes)
  | peerEnds (side : Side)
  /-- A callback of `receive`. -/
  | receive (side : Side) (n : ℕ) (isComplete error : Bool)
  /-- The callback of the `send` of a status line to the client. -/
  | contentProcessed

namespace Bridge

def start : Bridge := ⟨.fresh, .fresh, .handleClient []⟩

def channel (s : Bridge) : Side → Channel UInt8
  | .client => s.client
  | .remote => s.remote

def set (s : Bridge) (side : Side) (channel : Channel UInt8) : Bridge :=
  match side with
  | .client => { s with client := channel }
  | .remote => { s with remote := channel }

/-! ### Callbacks -/

section Callbacks

variable (platform : Platform) (server : LocalProxyServer)

/-- The completion of `handleClient`, with the request that starts `bridgeToRemote`. -/
def onClientHeader (s : Bridge) (read : HeaderRead) : Bridge :=
  match requestTarget platform.characterData read.headerText with
  | some target =>
      if platform.isPort server.remotePort then
        { s with
          remote := s.remote.send
            (connectRequest (Utf8.encode target.flatten) (Utf8.encode server.token.toList))
          phase := .bridgeToRemote read.leftover [] }
      else { s with client := s.client.cancel, phase := .rejected }
  | none => { s with client := s.client.cancel, phase := .rejected }

def onRemoteHeader (s : Bridge) (leftover : Bytes) (read : HeaderRead) : Bridge :=
  if accepts platform.characterData read.headerText then
    { s with client := s.client.send established, phase := .accepted leftover read.leftover }
  else { s with client := s.client.send badGateway, remote := s.remote.cancel, phase := .rejecting }

/-- The leftovers go ahead of the pumps. -/
def onEstablished (s : Bridge) (leftover remoteLeftover : Bytes) : Bridge :=
  { s with
    remote := s.remote.sendAny leftover
    client := s.client.sendAny remoteLeftover
    phase := .pumping }

def sendOn (s : Bridge) (source : Side) (data : Bytes) : Bridge :=
  match source with
  | .client => { s with remote := s.remote.sendAny data }
  | .remote => { s with client := s.client.sendAny data }

def cancelBoth (s : Bridge) : Bridge :=
  { client := s.client.cancel, remote := s.remote.cancel, phase := .closed }

def pump (s : Bridge) (source : Side) (received : Received) : Bridge :=
  let s := s.sendOn source received.bytes
  if received.ends then s.cancelBoth else s

/-- `none` where no `receive` is under way. -/
def onReceive (s : Bridge) (side : Side) (received : Received) : Option Bridge :=
  match s.phase, side with
  | .handleClient buffer, .client =>
      match readUntilDoubleCRLF buffer received with
      | .receive buffer => some { s with phase := .handleClient buffer }
      | .completion read => some (s.onClientHeader platform server read)
  | .bridgeToRemote leftover buffer, .remote =>
      match readUntilDoubleCRLF buffer received with
      | .receive buffer => some { s with phase := .bridgeToRemote leftover buffer }
      | .completion read => some (s.onRemoteHeader platform leftover read)
  | .pumping, side => some (s.pump side received)
  | _, _ => none

/-- There is no remote while the client's header is read. -/
def connected (s : Bridge) : Side → Bool
  | .client => true
  | .remote => match s.phase with
    | .handleClient _ => false
    | _ => true

def maximumLength : ℕ := 64 * 1024

def step (s : Bridge) : BridgeMove → Option Bridge
  | .peerSends side bytes =>
      if s.connected side then ((s.channel side).peerSends bytes).map (s.set side) else none
  | .peerEnds side => if s.connected side then (s.channel side).peerEnds.map (s.set side) else none
  | .receive side n isComplete error =>
      ((s.channel side).receive maximumLength n isComplete error).bind fun read =>
        (s.set side read.2).onReceive platform server side ⟨some read.1, isComplete, error⟩
  | .contentProcessed =>
      match s.phase with
      | .accepted leftover remoteLeftover => some (s.onEstablished leftover remoteLeftover)
      | .rejecting => some { s with client := s.client.cancel, phase := .rejected }
      | _ => none

end Callbacks

/-! ### What has been sent -/

def clientTarget (platform : Platform) (stream : Bytes) : Option (List (List Char)) :=
  (cutAt doubleCRLF stream).bind fun cut =>
    requestTarget platform.characterData (Utf8.decodeStrict cut.1)

/-- The request that the client's bytes make the server write; `none` where they make none. -/
def requestOf (platform : Platform) (server : LocalProxyServer) (stream : Bytes) : Option Bytes :=
  (clientTarget platform stream).bind fun target =>
    if platform.isPort server.remotePort then
      some (connectRequest (Utf8.encode target.flatten) (Utf8.encode server.token.toList))
    else none

/-- What stands behind the header of a stream. -/
def behindHeader (stream : Bytes) : Bytes := ((cutAt doubleCRLF stream).map Prod.snd).getD []

section Headers

variable {platform : Platform} {server : LocalProxyServer} {stream header behind : Bytes}

theorem requestOf_append (h : cutAt doubleCRLF stream = some (header, behind)) (more : Bytes) :
    requestOf platform server (stream ++ more) = requestOf platform server stream := by
  rw [requestOf, requestOf, clientTarget, clientTarget, cutAt_append h, h]
  rfl

theorem requestOf_of_none (h : cutAt doubleCRLF stream = none) : requestOf platform server stream = none := by
  rw [requestOf, clientTarget, h]
  rfl

theorem behindHeader_of_cut (h : cutAt doubleCRLF stream = some (header, behind)) :
    behindHeader stream = behind := by
  rw [behindHeader, h]
  rfl

end Headers

section Invariant

variable (platform : Platform) (server : LocalProxyServer)

/-- The client's header is there, with bytes behind it, and makes a request. -/
structure Asked (s : Bridge) (request behind : Bytes) : Prop where
  request : requestOf platform server s.client.received = some request
  behind : ∃ header, cutAt doubleCRLF s.client.received = some (header, behind)

/-- The remote's header is there. -/
def Answered (s : Bridge) (behind : Bytes) : Prop :=
  ∃ header, cutAt doubleCRLF s.remote.received = some (header, behind)

def Open (s : Bridge) : Prop := s.client.cancelled = false ∧ s.remote.cancelled = false

/-- All that has been received behind the headers has been sent on. -/
def Tunnelled (s : Bridge) : Prop :=
  ∃ request up down, s.Asked platform server request up ∧ s.Answered down ∧
    s.remote.sends.head? = some request ∧ s.remote.sent = request ++ up ∧
    s.client.sent = established ++ down

/-- The invariant of a connection, phase by phase. -/
def Inv (s : Bridge) : Prop :=
  match s.phase with
  | .handleClient buffer =>
      s.client.received = buffer ∧ cutAt doubleCRLF buffer = none ∧ s.client.sends = [] ∧
        s.client.cancelled = false ∧ s.remote = .fresh
  | .bridgeToRemote leftover buffer => ∃ request, s.Asked platform server request leftover ∧
      s.remote.sends = [request] ∧ s.client.sends = [] ∧ s.Open ∧
      s.remote.received = buffer ∧ cutAt doubleCRLF buffer = none
  | .accepted leftover remoteLeftover => ∃ request, s.Asked platform server request leftover ∧
      s.remote.sends = [request] ∧ s.client.sends = [established] ∧ s.Open ∧ s.Answered remoteLeftover
  | .pumping => s.Tunnelled platform server ∧ s.Open
  | .closed => s.Tunnelled platform server
  | .rejecting => s.remote.sends = (requestOf platform server s.client.received).toList
  | .rejected => s.remote.sends = (requestOf platform server s.client.received).toList

end Invariant

section Steps

variable {platform : Platform} {server : LocalProxyServer} {s s' : Bridge} {side : Side}
  {buffer leftover : Bytes} {received : Received} {read : HeaderRead}

theorem inv_start : Inv platform server start := ⟨rfl, rfl, rfl, rfl, rfl⟩

/-- The peers' own moves are nothing to the invariant. -/
theorem Inv.congr (h : s.Inv platform server) {client remote : Channel UInt8}
    (hclient : client.received = s.client.received ∧ client.sends = s.client.sends ∧
      client.cancelled = s.client.cancelled)
    (hremote : remote.received = s.remote.received ∧ remote.sends = s.remote.sends ∧
      remote.cancelled = s.remote.cancelled)
    (hfresh : s.connected .remote = false → remote = s.remote) :
    Inv platform server ⟨client, remote, s.phase⟩ := by
  obtain ⟨hreceived, hsends, hcancelled⟩ := hclient
  obtain ⟨hreceived', hsends', hcancelled'⟩ := hremote
  have hasked {request behind : Bytes} (hasked : s.Asked platform server request behind) :
      Asked platform server ⟨client, remote, s.phase⟩ request behind := by
    constructor
    · rw [hreceived]
      exact hasked.request
    · rw [hreceived]
      exact hasked.behind
  have hanswered {behind : Bytes} (hanswered : s.Answered behind) :
      Answered ⟨client, remote, s.phase⟩ behind := by
    rw [Answered, hreceived']
    exact hanswered
  have hopen (hopen : s.Open) : Open ⟨client, remote, s.phase⟩ := by
    rw [Open, hcancelled, hcancelled']
    exact hopen
  have htunnelled (htunnelled : s.Tunnelled platform server) :
      Tunnelled platform server ⟨client, remote, s.phase⟩ := by
    obtain ⟨request, up, down, hup, hdown, hhead, hsent, hsent'⟩ := htunnelled
    refine ⟨request, up, down, hasked hup, hanswered hdown, ?_, ?_, ?_⟩
    · rw [hsends']
      exact hhead
    · rw [Channel.sent, hsends']
      exact hsent
    · rw [Channel.sent, hsends]
      exact hsent'
  unfold Inv at h ⊢
  cases hphase : s.phase with
  | handleClient buffer =>
    rw [hphase] at h
    obtain ⟨hbuffer, hcut, hnone, hnot, hremote⟩ := h
    refine ⟨by rw [hreceived]; exact hbuffer, hcut, by rw [hsends]; exact hnone,
      by rw [hcancelled]; exact hnot, ?_⟩
    rw [hfresh (by rw [connected, hphase])]
    exact hremote
  | bridgeToRemote leftover buffer =>
    rw [hphase] at h
    obtain ⟨request, h₁, h₂, h₃, h₄, h₅, h₆⟩ := h
    rw [hphase] at hasked hopen
    exact ⟨request, hasked h₁, hsends'.trans h₂, hsends.trans h₃, hopen h₄, hreceived'.trans h₅, h₆⟩
  | accepted leftover remoteLeftover =>
    rw [hphase] at h
    obtain ⟨request, h₁, h₂, h₃, h₄, h₅⟩ := h
    rw [hphase] at hasked hopen hanswered
    exact ⟨request, hasked h₁, hsends'.trans h₂, hsends.trans h₃, hopen h₄, hanswered h₅⟩
  | pumping =>
    rw [hphase] at h
    rw [hphase] at htunnelled hopen
    exact ⟨htunnelled h.1, hopen h.2⟩
  | closed =>
    rw [hphase] at h
    rw [hphase] at htunnelled
    exact htunnelled h
  | rejecting =>
    rw [hphase] at h
    rw [hsends', hreceived]
    exact h
  | rejected =>
    rw [hphase] at h
    rw [hsends', hreceived]
    exact h

/-! ### Moves -/

/-- What a move can do. -/
theorem step_cases {move : BridgeMove} (h : s.step platform server move = some s') :
    (∃ side bytes c, move = .peerSends side bytes ∧ s.connected side = true ∧
      (s.channel side).peerSends bytes = some c ∧ s' = s.set side c) ∨
    (∃ side c, move = .peerEnds side ∧ s.connected side = true ∧
      (s.channel side).peerEnds = some c ∧ s' = s.set side c) ∨
    (∃ side n isComplete error chunk c, move = .receive side n isComplete error ∧
      (s.channel side).receive maximumLength n isComplete error = some (chunk, c) ∧
      (s.set side c).onReceive platform server side ⟨some chunk, isComplete, error⟩ = some s') ∨
    (∃ leftover remoteLeftover, move = .contentProcessed ∧ s.phase = .accepted leftover remoteLeftover ∧
      s' = s.onEstablished leftover remoteLeftover) ∨
    (move = .contentProcessed ∧ s.phase = .rejecting ∧
      s' = { s with client := s.client.cancel, phase := .rejected }) := by
  cases move with
  | peerSends side bytes =>
    obtain ⟨hconnected, h⟩ := Option.ite_none_right_eq_some.mp h
    obtain ⟨c, hc, hs'⟩ := Option.map_eq_some_iff.mp h
    exact Or.inl ⟨side, bytes, c, rfl, hconnected, hc, hs'.symm⟩
  | peerEnds side =>
    obtain ⟨hconnected, h⟩ := Option.ite_none_right_eq_some.mp h
    obtain ⟨c, hc, hs'⟩ := Option.map_eq_some_iff.mp h
    exact Or.inr (Or.inl ⟨side, c, rfl, hconnected, hc, hs'.symm⟩)
  | receive side n isComplete error =>
    obtain ⟨read, hread, h⟩ := Option.bind_eq_some_iff.mp h
    exact Or.inr (Or.inr (Or.inl ⟨side, n, isComplete, error, read.1, read.2, rfl, hread, h⟩))
  | contentProcessed =>
    unfold step at h
    right; right; right
    cases hphase : s.phase with
    | accepted leftover remoteLeftover =>
      simp only [hphase] at h
      exact Or.inl ⟨leftover, remoteLeftover, rfl, rfl, (Option.some.inj h).symm⟩
    | rejecting =>
      simp only [hphase] at h
      exact Or.inr ⟨rfl, rfl, (Option.some.inj h).symm⟩
    | _ =>
      simp only [hphase] at h
      cases h

/-- A callback finds the phase in which it is waited for. -/
theorem onReceive_cases (h : s.onReceive platform server side received = some s') :
    (∃ buffer, s.phase = .handleClient buffer ∧ side = .client ∧
      ((∃ buffer', readUntilDoubleCRLF buffer received = .receive buffer' ∧
          s' = { s with phase := .handleClient buffer' }) ∨
        ∃ read, readUntilDoubleCRLF buffer received = .completion read ∧
          s' = s.onClientHeader platform server read)) ∨
    (∃ leftover buffer, s.phase = .bridgeToRemote leftover buffer ∧ side = .remote ∧
      ((∃ buffer', readUntilDoubleCRLF buffer received = .receive buffer' ∧
          s' = { s with phase := .bridgeToRemote leftover buffer' }) ∨
        ∃ read, readUntilDoubleCRLF buffer received = .completion read ∧
          s' = s.onRemoteHeader platform leftover read)) ∨
    (s.phase = .pumping ∧ s' = s.pump side received) := by
  unfold onReceive at h
  cases hphase : s.phase with
  | handleClient buffer =>
    cases side with
    | remote =>
      simp only [hphase] at h
      cases h
    | client =>
      simp only [hphase] at h
      refine Or.inl ⟨buffer, rfl, rfl, ?_⟩
      cases hread : readUntilDoubleCRLF buffer received with
      | receive buffer' =>
        rw [hread] at h
        exact Or.inl ⟨buffer', rfl, (Option.some.inj h).symm⟩
      | completion read =>
        rw [hread] at h
        exact Or.inr ⟨read, rfl, (Option.some.inj h).symm⟩
  | bridgeToRemote leftover buffer =>
    cases side with
    | client =>
      simp only [hphase] at h
      cases h
    | remote =>
      simp only [hphase] at h
      refine Or.inr (Or.inl ⟨leftover, buffer, rfl, rfl, ?_⟩)
      cases hread : readUntilDoubleCRLF buffer received with
      | receive buffer' =>
        rw [hread] at h
        exact Or.inl ⟨buffer', rfl, (Option.some.inj h).symm⟩
      | completion read =>
        rw [hread] at h
        exact Or.inr ⟨read, rfl, (Option.some.inj h).symm⟩
  | pumping =>
    simp only [hphase] at h
    exact Or.inr (Or.inr ⟨rfl, (Option.some.inj h).symm⟩)
  | _ =>
    simp only [hphase] at h
    cases h

/-! ### The invariant -/

theorem inv_onClientHeader (hread : readUntilDoubleCRLF buffer received = .completion read)
    (hreceived : s.client.received = buffer ++ received.bytes) (hsends : s.client.sends = [])
    (hopen : s.client.cancelled = false) (hremote : s.remote = .fresh) :
    Inv platform server (s.onClientHeader platform server read) := by
  have hnothing (hnone : requestOf platform server s.client.received = none) :
      Inv platform server { s with client := s.client.cancel, phase := .rejected } := by
    change s.remote.sends = (requestOf platform server s.client.received).toList
    rw [hnone, hremote]
    rfl
  unfold onClientHeader
  rcases cut_of_completion hread with ⟨header, hcut, htext⟩ | ⟨hcut, htext⟩
  · rw [← hreceived] at hcut
    have hrequest : requestOf platform server s.client.received =
        (requestTarget platform.characterData read.headerText).bind fun target =>
          if platform.isPort server.remotePort then
            some (connectRequest (Utf8.encode target.flatten) (Utf8.encode server.token.toList))
          else none := by
      rw [requestOf, clientTarget, hcut, htext]
      rfl
    cases htarget : requestTarget platform.characterData read.headerText with
    | none =>
      apply hnothing
      rw [hrequest, htarget]
      rfl
    | some target =>
      rw [htarget, Option.bind_some] at hrequest
      dsimp only
      split
      · next hport =>
        rw [if_pos hport] at hrequest
        refine ⟨_, ⟨hrequest, header, hcut⟩, ?_, hsends, ⟨hopen, ?_⟩, ?_, rfl⟩
        · rw [hremote]
          rfl
        · rw [hremote]
          rfl
        · rw [hremote]
          rfl
      · next hport =>
        rw [if_neg hport] at hrequest
        exact hnothing hrequest
  · rw [← hreceived] at hcut
    rw [htext]
    exact hnothing (requestOf_of_none hcut)

theorem inv_onRemoteHeader {request : Bytes}
    (hread : readUntilDoubleCRLF buffer received = .completion read)
    (hasked : s.Asked platform server request leftover) (hsends : s.remote.sends = [request])
    (hsends' : s.client.sends = []) (hopen : s.Open)
    (hreceived : s.remote.received = buffer ++ received.bytes) :
    Inv platform server (s.onRemoteHeader platform leftover read) := by
  unfold onRemoteHeader
  rcases cut_of_completion hread with ⟨header, hcut, htext⟩ | ⟨hcut, htext⟩
  · split
    · refine ⟨request, ⟨?_, ?_⟩, hsends, ?_, ⟨?_, hopen.2⟩, header, ?_⟩
      · rw [Channel.received_send]
        exact hasked.request
      · rw [Channel.received_send]
        exact hasked.behind
      · rw [Channel.send_of_open hopen.1, hsends']
        rfl
      · rw [Channel.cancelled_send]
        exact hopen.1
      · rw [hreceived]
        exact hcut
    · change s.remote.sends = (requestOf platform server (s.client.send badGateway).received).toList
      rw [hsends, Channel.received_send, hasked.request]
      rfl
  · have hnot : accepts platform.characterData read.headerText = false := by
      rw [htext]
      rfl
    rw [hnot]
    change s.remote.sends = (requestOf platform server (s.client.send badGateway).received).toList
    rw [hsends, Channel.received_send, hasked.request]
    rfl

theorem inv_onEstablished {request remoteLeftover : Bytes} (hasked : s.Asked platform server request leftover)
    (hsends : s.remote.sends = [request]) (hsends' : s.client.sends = [established]) (hopen : s.Open)
    (hanswered : s.Answered remoteLeftover) :
    Inv platform server (s.onEstablished leftover remoteLeftover) := by
  refine ⟨⟨request, leftover, remoteLeftover, ⟨?_, ?_⟩, ?_, ?_, ?_, ?_⟩, ?_, ?_⟩
  · exact (congrArg _ (Channel.received_sendAny remoteLeftover)).trans hasked.request
  · obtain ⟨header, hcut⟩ := hasked.behind
    exact ⟨header, (congrArg _ (Channel.received_sendAny remoteLeftover)).trans hcut⟩
  · obtain ⟨header, hcut⟩ := hanswered
    exact ⟨header, (congrArg _ (Channel.received_sendAny leftover)).trans hcut⟩
  · apply Channel.head?_sends_sendAny
    rw [hsends]
    rfl
  · refine (Channel.sent_sendAny hopen.2 leftover).trans ?_
    rw [Channel.sent, hsends]
    simp
  · refine (Channel.sent_sendAny hopen.1 remoteLeftover).trans ?_
    rw [Channel.sent, hsends']
    simp
  · exact (Channel.cancelled_sendAny remoteLeftover).trans hopen.1
  · exact (Channel.cancelled_sendAny leftover).trans hopen.2

/-- What is received grows behind the header. -/
theorem Asked.append {request behind chunk : Bytes} (h : s.Asked platform server request behind)
    (hreceived : s'.client.received = s.client.received ++ chunk) :
    s'.Asked platform server request (behind ++ chunk) := by
  obtain ⟨header, hcut⟩ := h.behind
  constructor
  · rw [hreceived, requestOf_append hcut]
    exact h.request
  · exact ⟨header, by rw [hreceived, cutAt_append hcut]⟩

theorem Answered.append {behind chunk : Bytes} (h : s.Answered behind)
    (hreceived : s'.remote.received = s.remote.received ++ chunk) : s'.Answered (behind ++ chunk) := by
  obtain ⟨header, hcut⟩ := h
  exact ⟨header, by rw [hreceived, cutAt_append hcut]⟩

/-- A pump sends on what it has received. -/
theorem tunnelled_sendOn {chunk : Bytes} {c : Channel UInt8} (h : s.Tunnelled platform server)
    (hopen : s.Open) (htook : (s.channel side).Took chunk c) :
    ((s.set side c).sendOn side chunk).Tunnelled platform server := by
  obtain ⟨request, up, down, hasked, hanswered, hhead, hsent, hsent'⟩ := h
  cases side with
  | client =>
    have hremote := Channel.sent_sendAny hopen.2 chunk
    rw [hsent, List.append_assoc] at hremote
    refine ⟨request, up ++ chunk, down, hasked.append ?_, ?_,
      Channel.head?_sends_sendAny hhead chunk, hremote, ?_⟩
    · exact htook.received
    · rw [← List.append_nil down]
      exact hanswered.append ((Channel.received_sendAny chunk).trans (List.append_nil _).symm)
    · exact (congrArg List.flatten htook.sends).trans hsent'
  | remote =>
    have hclient := Channel.sent_sendAny hopen.1 chunk
    rw [hsent', List.append_assoc] at hclient
    refine ⟨request, up, down ++ chunk, ?_, hanswered.append ?_, ?_, ?_, hclient⟩
    · rw [← List.append_nil up]
      exact hasked.append ((Channel.received_sendAny chunk).trans (List.append_nil _).symm)
    · exact htook.received
    · exact (congrArg List.head? htook.sends).trans hhead
    · exact (congrArg List.flatten htook.sends).trans hsent

theorem open_sendOn {chunk : Bytes} {c : Channel UInt8} (hopen : s.Open)
    (htook : (s.channel side).Took chunk c) : ((s.set side c).sendOn side chunk).Open := by
  have hcancelled := htook.cancelled
  cases side with
  | client => exact ⟨hcancelled.trans hopen.1, (Channel.cancelled_sendAny chunk).trans hopen.2⟩
  | remote => exact ⟨(Channel.cancelled_sendAny chunk).trans hopen.1, hcancelled.trans hopen.2⟩

theorem phase_set (side : Side) (c : Channel UInt8) : (s.set side c).phase = s.phase := by
  cases side <;> rfl

theorem phase_sendOn (side : Side) (data : Bytes) : (s.sendOn side data).phase = s.phase := by
  cases side <;> rfl

theorem inv_pump {chunk : Bytes} {c : Channel UInt8} (h : s.Inv platform server)
    (hphase : s.phase = .pumping) (htook : (s.channel side).Took chunk c)
    (hbytes : received.bytes = chunk) : ((s.set side c).pump side received).Inv platform server := by
  unfold Inv at h
  rw [hphase] at h
  have htunnelled := tunnelled_sendOn h.1 h.2 htook
  have hopen := open_sendOn h.2 htook
  unfold pump
  rw [hbytes]
  dsimp only
  split
  · obtain ⟨request, up, down, hasked, hrest⟩ := htunnelled
    exact ⟨request, up, down, ⟨hasked.request, hasked.behind⟩, hrest⟩
  · unfold Inv
    rw [phase_sendOn, phase_set, hphase]
    exact ⟨htunnelled, hopen⟩

/-- A callback keeps the invariant. -/
theorem Inv.onReceive {chunk : Bytes} {c : Channel UInt8} {isComplete error : Bool} {n : ℕ}
    (h : s.Inv platform server)
    (hc : (s.channel side).receive maximumLength n isComplete error = some (chunk, c))
    (hs' : (s.set side c).onReceive platform server side ⟨some chunk, isComplete, error⟩ = some s') :
    s'.Inv platform server := by
  obtain ⟨htook, -⟩ := Channel.receive_eq_some hc
  rcases onReceive_cases hs' with ⟨buffer, hphase, rfl, hcases⟩ | ⟨leftover, buffer, hphase, rfl, hcases⟩ |
    ⟨hphase, rfl⟩
  · rw [phase_set] at hphase
    unfold Inv at h
    rw [hphase] at h
    obtain ⟨hbuffer, hcut, hsends, hopen, hremote⟩ := h
    have hreceived : c.received = buffer ++ chunk := by
      rw [← hbuffer]
      exact htook.received
    have hsends' : c.sends = [] := htook.sends.trans hsends
    have hopen' : c.cancelled = false := htook.cancelled.trans hopen
    rcases hcases with ⟨buffer', hread, rfl⟩ | ⟨read, hread, rfl⟩
    · obtain ⟨hbuffer', hcut'⟩ := eq_append_of_receive hread
      exact ⟨hreceived.trans hbuffer'.symm, hcut', hsends', hopen', hremote⟩
    · exact inv_onClientHeader hread hreceived hsends' hopen' hremote
  · rw [phase_set] at hphase
    unfold Inv at h
    rw [hphase] at h
    obtain ⟨request, hasked, hsends, hsends', hopen, hbuffer, hcut⟩ := h
    have hreceived : c.received = buffer ++ chunk := by
      rw [← hbuffer]
      exact htook.received
    have hremote : c.sends = [request] := htook.sends.trans hsends
    have hopen' : Open (s.set .remote c) := ⟨hopen.1, htook.cancelled.trans hopen.2⟩
    rcases hcases with ⟨buffer', hread, rfl⟩ | ⟨read, hread, rfl⟩
    · obtain ⟨hbuffer', hcut'⟩ := eq_append_of_receive hread
      exact ⟨request, ⟨hasked.request, hasked.behind⟩, hremote, hsends', hopen',
        hreceived.trans hbuffer'.symm, hcut'⟩
    · exact inv_onRemoteHeader hread ⟨hasked.request, hasked.behind⟩ hremote hsends' hopen' hreceived
  · rw [phase_set] at hphase
    exact inv_pump h hphase htook rfl

/-- Every move keeps the invariant. -/
theorem Inv.step {move : BridgeMove} (h : s.Inv platform server)
    (hstep : s.step platform server move = some s') : s'.Inv platform server := by
  have hpeer {side : Side} {c : Channel UInt8} (hconnected : s.connected side = true)
      (hc : c.received = (s.channel side).received ∧ c.sends = (s.channel side).sends ∧
        c.cancelled = (s.channel side).cancelled) : (s.set side c).Inv platform server := by
    cases side with
    | client => exact h.congr hc ⟨rfl, rfl, rfl⟩ fun _ => rfl
    | remote =>
      refine h.congr ⟨rfl, rfl, rfl⟩ hc ?_
      intro hnot
      rw [hconnected] at hnot
      cases hnot
  rcases step_cases hstep with ⟨side, bytes, c, -, hconnected, hc, rfl⟩ | ⟨side, c, -, hconnected, hc, rfl⟩ |
    ⟨side, n, isComplete, error, chunk, c, -, hc, hs'⟩ | ⟨leftover, remoteLeftover, -, hphase, rfl⟩ |
    ⟨-, hphase, rfl⟩
  · rw [Channel.peerSends_eq_some hc]
    exact hpeer hconnected ⟨rfl, rfl, rfl⟩
  · rw [Channel.peerEnds_eq_some hc]
    exact hpeer hconnected ⟨rfl, rfl, rfl⟩
  · exact h.onReceive hc hs'
  · unfold Inv at h
    rw [hphase] at h
    obtain ⟨request, hasked, hsends, hsends', hopen, hanswered⟩ := h
    exact inv_onEstablished hasked hsends hsends' hopen hanswered
  · unfold Inv at h
    rw [hphase] at h
    exact h

end Steps

end Bridge

end DVoD.MacClient
