import DVoD.MacClient.HeaderInjection

/-!
# The tunnel as a byte pipe

Once the relay has accepted, the bytes behind both headers are passed on, however they come
in; but the end of one side's stream cancels both connections.  `transparent_iff` says in
which runs nothing is lost by that.
-/

namespace DVoD.MacClient

open DVoD.Machine DVoD.Net DVoD.Text

namespace Bridge

/-! ### Transparency -/

def Side.other : Side → Side
  | .client => .remote
  | .remote => .client

/-- The relay has accepted the tunnel. -/
def Accepted (s : Bridge) : Prop :=
  match s.phase with
  | .accepted .. | .pumping | .closed => True
  | _ => False

/-- The bytes of a side that are still to be passed on: those that came with the header, and
    those that nobody has received yet.  There are none once the connections are cancelled. -/
def underWay (s : Bridge) (side : Side) : Bytes :=
  match s.phase with
  | .accepted leftover remoteLeftover =>
      (if side = .client then leftover else remoteLeftover) ++ (s.channel side).incoming
  | .pumping => (s.channel side).incoming
  | _ => []

/-- Each side has been sent, behind the header, the bytes from behind the other's header, in
    order and once, but for those that are still to be passed on. -/
structure Transparent (platform : Platform) (server : LocalProxyServer) (s : Bridge) : Prop where
  up : ∃ request passed, requestOf platform server s.client.received = some request ∧
    s.remote.sent = request ++ passed ∧ passed ++ s.underWay .client = behindHeader s.client.stream
  down : ∃ passed, s.client.sent = established ++ passed ∧
    passed ++ s.underWay .remote = behindHeader s.remote.stream

/-- Once the connections are cancelled, nothing of either side is left unreceived. -/
def Drained (s : Bridge) : Prop := s.phase = .closed → s.client.incoming = [] ∧ s.remote.incoming = []

/-- No end of a stream, and no error, finds bytes of the other side (or of the same) that were
    not received, and nobody sends into a tunnel that is cancelled. -/
def Lossless (s : Bridge) : BridgeMove → Prop
  | .receive side n isComplete error => s.phase = .pumping → (isComplete || error) = true →
      (s.channel side).incoming.drop n = [] ∧ (s.channel (Side.other side)).incoming = []
  | .peerSends _ bytes => s.phase = .closed → bytes = []
  | _ => True

section Invariant

variable {platform : Platform} {server : LocalProxyServer} {s s' : Bridge}

theorem behindHeader_stream {c : Channel UInt8} {header behind : Bytes}
    (h : cutAt doubleCRLF c.received = some (header, behind)) :
    behindHeader c.stream = behind ++ c.incoming :=
  behindHeader_of_cut (cutAt_append h c.incoming)

theorem transparent_iff_drained (h : s.Inv platform server) (haccepted : s.Accepted) :
    s.Transparent platform server ↔ s.Drained := by
  unfold Inv at h
  cases hphase : s.phase with
  | accepted leftover remoteLeftover =>
    rw [hphase] at h
    obtain ⟨request, hasked, hsends, hsends', -, header', hcut'⟩ := h
    obtain ⟨header, hcut⟩ := hasked.behind
    refine iff_of_true ⟨⟨request, [], hasked.request, ?_, ?_⟩, [], ?_, ?_⟩ ?_
    · rw [Channel.sent, hsends]
      rfl
    · rw [behindHeader_stream hcut]
      simp only [underWay, hphase]
      rfl
    · rw [Channel.sent, hsends']
      rfl
    · rw [behindHeader_stream hcut']
      simp only [underWay, hphase]
      rfl
    · intro hclosed
      rw [hphase] at hclosed
      cases hclosed
  | pumping =>
    rw [hphase] at h
    obtain ⟨⟨request, up, down, hasked, ⟨header', hcut'⟩, -, hsent, hsent'⟩, -⟩ := h
    obtain ⟨header, hcut⟩ := hasked.behind
    refine iff_of_true ⟨⟨request, up, hasked.request, hsent, ?_⟩, down, hsent', ?_⟩ ?_
    · rw [behindHeader_stream hcut]
      simp only [underWay, hphase]
      rfl
    · rw [behindHeader_stream hcut']
      simp only [underWay, hphase]
      rfl
    · intro hclosed
      rw [hphase] at hclosed
      cases hclosed
  | closed =>
    rw [hphase] at h
    obtain ⟨request, up, down, hasked, ⟨header', hcut'⟩, -, hsent, hsent'⟩ := h
    obtain ⟨header, hcut⟩ := hasked.behind
    have hnone (side : Side) : s.underWay side = [] := by
      simp only [underWay, hphase]
    constructor
    · rintro ⟨⟨request', passed, hrequest', hpassed, hup⟩, passed', hpassed', hdown⟩ -
      rw [hasked.request] at hrequest'
      rw [hsent, ← Option.some.inj hrequest'] at hpassed
      rw [hsent'] at hpassed'
      rw [hnone, behindHeader_stream hcut, ← List.append_cancel_left hpassed] at hup
      rw [hnone, behindHeader_stream hcut', ← List.append_cancel_left hpassed'] at hdown
      exact ⟨(List.append_cancel_left hup).symm, (List.append_cancel_left hdown).symm⟩
    · intro hdrained
      obtain ⟨hclient, hremote⟩ := hdrained hphase
      refine ⟨⟨request, up, hasked.request, hsent, ?_⟩, down, hsent', ?_⟩
      · rw [hnone, behindHeader_stream hcut, hclient]
      · rw [hnone, behindHeader_stream hcut', hremote]
  | _ =>
    rw [Accepted, hphase] at haccepted
    cases haccepted

/-! ### What loses bytes -/

theorem drained_of_ne (h : s.phase ≠ .closed) : s.Drained := by
  intro hclosed
  exact absurd hclosed h

theorem drained_onReceive {side : Side} {received : Received}
    (h : s.onReceive platform server side received = some s') :
    s.phase ≠ .closed ∧
      (s'.Drained ↔ (s.phase = .pumping → received.ends = true →
        s.client.incoming = [] ∧ s.remote.incoming = [])) := by
  have hreading (hphase : s.phase ≠ .pumping) (hphase' : s'.phase ≠ .closed) :
      s'.Drained ↔ (s.phase = .pumping → received.ends = true →
        s.client.incoming = [] ∧ s.remote.incoming = []) := by
    refine iff_of_true (drained_of_ne hphase') ?_
    intro hpumping
    exact absurd hpumping hphase
  rcases onReceive_cases h with ⟨buffer, hphase, -, hcases⟩ | ⟨leftover, buffer, hphase, -, hcases⟩ |
    ⟨hphase, rfl⟩
  · refine ⟨by rw [hphase]; nofun, hreading (by rw [hphase]; nofun) ?_⟩
    rcases hcases with ⟨buffer', -, rfl⟩ | ⟨read, -, rfl⟩
    · nofun
    · unfold onClientHeader
      split
      · split <;> nofun
      · nofun
  · refine ⟨by rw [hphase]; nofun, hreading (by rw [hphase]; nofun) ?_⟩
    rcases hcases with ⟨buffer', -, rfl⟩ | ⟨read, -, rfl⟩
    · nofun
    · unfold onRemoteHeader
      split <;> nofun
  · refine ⟨by rw [hphase]; nofun, ?_⟩
    unfold pump
    dsimp only
    split
    · next hends =>
      have hincoming : (s.sendOn side received.bytes).cancelBoth.client.incoming = s.client.incoming ∧
          (s.sendOn side received.bytes).cancelBoth.remote.incoming = s.remote.incoming := by
        cases side with
        | client => exact ⟨rfl, Channel.incoming_sendAny received.bytes⟩
        | remote => exact ⟨Channel.incoming_sendAny received.bytes, rfl⟩
      unfold Drained
      rw [hincoming.1, hincoming.2]
      constructor
      · intro hdrained _ _
        exact hdrained rfl
      · intro hpassed _
        exact hpassed hphase hends
    · next hends =>
      refine iff_of_true (drained_of_ne ?_) ?_
      · rw [phase_sendOn, hphase]
        nofun
      · intro _ hends'
        exact absurd hends' hends

/-- A move loses bytes exactly where it is not lossless. -/
theorem drained_step {move : BridgeMove} (hstep : s.step platform server move = some s') :
    s'.Drained ↔ s.Drained ∧ s.Lossless move := by
  rcases step_cases hstep with ⟨side, bytes, c, rfl, -, hc, rfl⟩ | ⟨side, c, rfl, -, hc, rfl⟩ |
    ⟨side, n, isComplete, error, chunk, c, rfl, hc, hs'⟩ | ⟨leftover, remoteLeftover, rfl, hphase, rfl⟩ |
    ⟨rfl, hphase, rfl⟩
  · have hincoming : c.incoming = (s.channel side).incoming ++ bytes := by
      rw [Channel.peerSends_eq_some hc]
    unfold Drained Lossless
    rw [phase_set]
    cases side with
    | client =>
      have hc' : (s.set .client c).client.incoming = s.client.incoming ++ bytes := hincoming
      have hother : (s.set .client c).remote.incoming = s.remote.incoming := rfl
      rw [hc', hother, List.append_eq_nil_iff, ← imp_and]
      exact imp_congr_right fun _ => by tauto
    | remote =>
      have hc' : (s.set .remote c).remote.incoming = s.remote.incoming ++ bytes := hincoming
      have hother : (s.set .remote c).client.incoming = s.client.incoming := rfl
      rw [hc', hother, List.append_eq_nil_iff, ← imp_and]
      exact imp_congr_right fun _ => by tauto
  · have hincoming : c.incoming = (s.channel side).incoming := by
      rw [Channel.peerEnds_eq_some hc]
    unfold Drained Lossless
    rw [phase_set, and_true]
    cases side with
    | client =>
      have hc' : (s.set .client c).client.incoming = s.client.incoming := hincoming
      have hother : (s.set .client c).remote.incoming = s.remote.incoming := rfl
      rw [hc', hother]
    | remote =>
      have hc' : (s.set .remote c).remote.incoming = s.remote.incoming := hincoming
      have hother : (s.set .remote c).client.incoming = s.client.incoming := rfl
      rw [hc', hother]
  · obtain ⟨hphase, hdrained⟩ := drained_onReceive hs'
    rw [phase_set] at hphase hdrained
    rw [hdrained, and_iff_right (drained_of_ne hphase)]
    obtain ⟨-, hincoming⟩ := Channel.receive_eq_some hc
    cases side with
    | client =>
      have hclient : (s.set .client c).client.incoming = s.client.incoming.drop n := hincoming
      rw [hclient]
      exact Iff.rfl
    | remote =>
      have hremote : (s.set .remote c).remote.incoming = s.remote.incoming.drop n := hincoming
      rw [hremote, and_comm]
      exact Iff.rfl
  · refine iff_of_true (drained_of_ne nofun) ⟨drained_of_ne (by rw [hphase]; nofun), trivial⟩
  · refine iff_of_true (drained_of_ne nofun) ⟨drained_of_ne (by rw [hphase]; nofun), trivial⟩

end Invariant

/-! ### A client that ends its side first -/

section Sample

def hi : Bytes := [104, 105]

def sampleServer : LocalProxyServer := ⟨localPort, "127.0.0.1", 8080, "e30.c2ln"⟩

end Sample


end Bridge

end DVoD.MacClient
