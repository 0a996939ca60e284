import DVoD.MacClient.HeaderInjection

/-!
# What the client is told

The local proxy tells its client that the tunnel is there only after the relay's header has
said so, and tells it of a bad gateway otherwise.  `Replied` is the invariant;
`remote_step` says what the relay sees of a move.
-/

namespace DVoD.MacClient

open DVoD.Machine DVoD.Net DVoD.Text

/-- What the relay sends with a move. -/
def BridgeMove.fromRemote : BridgeMove → Bytes
  | .peerSends .remote bytes => bytes
  | _ => []

namespace Bridge

/-- What the client was told, phase by phase. -/
def Replied (platform : Platform) (s : Bridge) : Prop :=
  match s.phase with
  | .handleClient _ | .bridgeToRemote .. => s.client.sends = []
  | .accepted .. | .pumping | .closed => ∃ header behind,
      cutAt doubleCRLF s.remote.received = some (header, behind) ∧
        accepts platform.characterData (Utf8.decodeStrict header) = true
  | .rejecting | .rejected => s.client.sends = [] ∨ s.client.sends = [badGateway]

section Remote

variable {platform : Platform} {server : LocalProxyServer} {s s' : Bridge} {side : Side}
  {c c' : Channel UInt8} {bytes : Bytes}

theorem stream_of_took (h : c.Took bytes c') : c'.stream = c.stream := by
  rw [Channel.stream, Channel.stream, h.received, h.incoming, List.append_assoc]

theorem sends_prefix_send (c : Channel UInt8) (content : Bytes) : c.sends <+: (c.send content).sends := by
  unfold Channel.send
  split
  · exact List.prefix_rfl
  · exact List.prefix_append ..

theorem sends_prefix_sendAny (c : Channel UInt8) (content : Bytes) :
    c.sends <+: (c.sendAny content).sends := by
  unfold Channel.sendAny
  split
  · exact List.prefix_rfl
  · exact sends_prefix_send c content

theorem stream_send (c : Channel UInt8) (content : Bytes) : (c.send content).stream = c.stream := by
  rw [Channel.stream, Channel.received_send, Channel.incoming_send]
  rfl

theorem stream_sendAny (c : Channel UInt8) (content : Bytes) : (c.sendAny content).stream = c.stream := by
  rw [Channel.stream, Channel.received_sendAny, Channel.incoming_sendAny]
  rfl

theorem remote_onClientHeader (s : Bridge) (read : HeaderRead) :
    s.remote.sends <+: (s.onClientHeader platform server read).remote.sends ∧
      (s.onClientHeader platform server read).remote.stream = s.remote.stream := by
  unfold onClientHeader
  cases requestTarget platform.characterData read.headerText with
  | none => exact ⟨List.prefix_rfl, rfl⟩
  | some target =>
    dsimp only
    split
    · exact ⟨sends_prefix_send .., stream_send ..⟩
    · exact ⟨List.prefix_rfl, rfl⟩

theorem remote_onRemoteHeader (s : Bridge) (leftover : Bytes) (read : HeaderRead) :
    s.remote.sends <+: (s.onRemoteHeader platform leftover read).remote.sends ∧
      (s.onRemoteHeader platform leftover read).remote.stream = s.remote.stream := by
  unfold onRemoteHeader
  split
  · exact ⟨List.prefix_rfl, rfl⟩
  · exact ⟨List.prefix_rfl, rfl⟩

theorem remote_pump (s : Bridge) (side : Side) (received : Received) :
    s.remote.sends <+: (s.pump side received).remote.sends ∧
      (s.pump side received).remote.stream = s.remote.stream := by
  have hsendOn : s.remote.sends <+: (s.sendOn side received.bytes).remote.sends ∧
      (s.sendOn side received.bytes).remote.stream = s.remote.stream := by
    cases side with
    | client => exact ⟨sends_prefix_sendAny .., stream_sendAny ..⟩
    | remote => exact ⟨List.prefix_rfl, rfl⟩
  unfold pump
  dsimp only
  split
  · exact hsendOn
  · exact hsendOn

/-- What a move sends to the relay comes behind what was sent before, and only the relay
    makes its own stream longer. -/
theorem remote_step {move : BridgeMove} (hstep : s.step platform server move = some s') :
    s.remote.sends <+: s'.remote.sends ∧ s'.remote.stream = s.remote.stream ++ move.fromRemote := by
  rcases step_cases hstep with ⟨side, bytes, c, rfl, -, hc, rfl⟩ | ⟨side, c, rfl, -, hc, rfl⟩ |
    ⟨side, n, isComplete, error, chunk, c, rfl, hc, hs'⟩ | ⟨leftover, remoteLeftover, rfl, -, rfl⟩ |
    ⟨rfl, -, rfl⟩
  · obtain rfl := Channel.peerSends_eq_some hc
    cases side with
    | client => exact ⟨List.prefix_rfl, (List.append_nil _).symm⟩
    | remote => exact ⟨List.prefix_rfl, (List.append_assoc ..).symm⟩
  · obtain rfl := Channel.peerEnds_eq_some hc
    cases side with
    | client => exact ⟨List.prefix_rfl, (List.append_nil _).symm⟩
    | remote => exact ⟨List.prefix_rfl, (List.append_nil _).symm⟩
  · obtain ⟨htook, -⟩ := Channel.receive_eq_some hc
    have hset : (s.set side c).remote.sends = s.remote.sends ∧
        (s.set side c).remote.stream = s.remote.stream := by
      cases side with
      | client => exact ⟨rfl, rfl⟩
      | remote => exact ⟨htook.sends, stream_of_took htook⟩
    have hnone : (BridgeMove.receive side n isComplete error).fromRemote = [] := rfl
    rw [← hset.1, ← hset.2, hnone, List.append_nil]
    rcases onReceive_cases hs' with ⟨buffer, -, -, ⟨buffer', -, rfl⟩ | ⟨read, -, rfl⟩⟩ |
      ⟨leftover, buffer, -, -, ⟨buffer', -, rfl⟩ | ⟨read, -, rfl⟩⟩ | ⟨-, rfl⟩
    · exact ⟨List.prefix_rfl, rfl⟩
    · exact remote_onClientHeader _ read
    · exact ⟨List.prefix_rfl, rfl⟩
    · exact remote_onRemoteHeader _ leftover read
    · exact remote_pump _ side _
  · exact ⟨sends_prefix_sendAny .., (stream_sendAny ..).trans (List.append_nil _).symm⟩
  · exact ⟨List.prefix_rfl, (List.append_nil _).symm⟩

end Remote

section Replied

variable {platform : Platform} {server : LocalProxyServer} {s s' : Bridge} {side : Side}
  {buffer leftover : Bytes} {received : Received} {read : HeaderRead}

theorem replied_start : Replied platform start := rfl

theorem Replied.congr (h : s.Replied platform) {client remote : Channel UInt8}
    (hclient : client.sends = s.client.sends) (hremote : remote.received = s.remote.received) :
    Replied platform ⟨client, remote, s.phase⟩ := by
  unfold Replied at h ⊢
  cases hphase : s.phase <;> rw [hphase] at h <;>
    first
    | exact hclient.trans h
    | (rw [hclient]; exact h)
    | (rw [hremote]; exact h)

theorem replied_onClientHeader (hsends : s.client.sends = []) :
    (s.onClientHeader platform server read).Replied platform := by
  unfold onClientHeader
  cases requestTarget platform.characterData read.headerText with
  | none => exact Or.inl hsends
  | some target =>
    dsimp only
    split
    · exact hsends
    · exact Or.inl hsends

theorem replied_onRemoteHeader (hread : readUntilDoubleCRLF buffer received = .completion read)
    (hreceived : s.remote.received = buffer ++ received.bytes) (hsends : s.client.sends = []) :
    (s.onRemoteHeader platform leftover read).Replied platform := by
  unfold onRemoteHeader
  split
  · next haccepts =>
    rcases cut_of_completion hread with ⟨header, hcut, htext⟩ | ⟨-, htext⟩
    · rw [htext] at haccepts
      refine ⟨header, read.leftover, ?_, haccepts⟩
      rw [hreceived]
      exact hcut
    · rw [htext] at haccepts
      cases haccepts
  · change (s.client.send badGateway).sends = [] ∨ (s.client.send badGateway).sends = [badGateway]
    unfold Channel.send
    split
    · exact Or.inl hsends
    · rw [hsends]
      exact Or.inr rfl

theorem replied_pump {chunk : Bytes} {c : Channel UInt8} (h : s.Replied platform) (hphase : s.phase = .pumping)
    (htook : (s.channel side).Took chunk c) : ((s.set side c).pump side received).Replied platform := by
  unfold Replied at h
  rw [hphase] at h
  obtain ⟨header, behind, hcut, haccepts⟩ := h
  obtain ⟨more, hmore⟩ : ∃ more,
      ((s.set side c).sendOn side received.bytes).remote.received = s.remote.received ++ more := by
    cases side with
    | client => exact ⟨[], (Channel.received_sendAny received.bytes).trans (List.append_nil _).symm⟩
    | remote => exact ⟨chunk, htook.received⟩
  have hcut' : cutAt doubleCRLF ((s.set side c).sendOn side received.bytes).remote.received =
      some (header, behind ++ more) := by
    rw [hmore]
    exact cutAt_append hcut more
  unfold pump
  dsimp only
  split
  · exact ⟨header, behind ++ more, hcut', haccepts⟩
  · unfold Replied
    rw [phase_sendOn, phase_set, hphase]
    exact ⟨header, behind ++ more, hcut', haccepts⟩

/-- Every move keeps the invariant. -/
theorem Replied.step {move : BridgeMove} (hinv : s.Inv platform server) (h : s.Replied platform)
    (hstep : s.step platform server move = some s') : s'.Replied platform := by
  rcases step_cases hstep with ⟨side, bytes, c, -, -, hc, rfl⟩ | ⟨side, c, -, -, hc, rfl⟩ |
    ⟨side, n, isComplete, error, chunk, c, -, hc, hs'⟩ | ⟨leftover, remoteLeftover, -, hphase, rfl⟩ |
    ⟨-, hphase, rfl⟩
  · obtain rfl := Channel.peerSends_eq_some hc
    cases side
    · exact h.congr rfl rfl
    · exact h.congr rfl rfl
  · obtain rfl := Channel.peerEnds_eq_some hc
    cases side
    · exact h.congr rfl rfl
    · exact h.congr rfl rfl
  · obtain ⟨htook, -⟩ := Channel.receive_eq_some hc
    rcases onReceive_cases hs' with ⟨buffer, hphase, rfl, hcases⟩ |
      ⟨leftover, buffer, hphase, rfl, hcases⟩ | ⟨hphase, rfl⟩
    · rw [phase_set] at hphase
      unfold Replied at h
      rw [hphase] at h
      have hsends : c.sends = [] := htook.sends.trans h
      rcases hcases with ⟨buffer', -, rfl⟩ | ⟨read, -, rfl⟩
      · exact hsends
      · exact replied_onClientHeader hsends
    · rw [phase_set] at hphase
      unfold Replied at h
      unfold Inv at hinv
      rw [hphase] at h hinv
      obtain ⟨-, -, -, -, -, hbuffer, -⟩ := hinv
      rcases hcases with ⟨buffer', -, rfl⟩ | ⟨read, hread, rfl⟩
      · exact h
      · apply replied_onRemoteHeader hread
        · rw [← hbuffer]
          exact htook.received
        · exact h
    · rw [phase_set] at hphase
      exact replied_pump h hphase htook
  · unfold Replied at h
    rw [hphase] at h
    obtain ⟨header, behind, hcut, haccepts⟩ := h
    exact ⟨header, behind, (congrArg _ (Channel.received_sendAny leftover)).trans hcut, haccepts⟩
  · unfold Replied at h
    rw [hphase] at h
    exact h

end Replied

end Bridge

end DVoD.MacClient
