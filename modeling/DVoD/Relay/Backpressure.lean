import DVoD.Net.Backpressure
import DVoD.Relay.Delivery

/-!
# The memory of a tunnel

Both pipes of a tunnel pause their reader while the writer waits for a drain.  What is
pending for a peer is therefore bounded, whatever the other one sends (`pending_le`), and a
pipe that has stopped can go on as soon as the peer has taken what is pending
(`can_read`).
-/

namespace DVoD.Relay

open DVoD.Machine DVoD.Net DVoD.Session

namespace Tunnel

/-- What may be pending for the peer on a side, where the sockets have the mark and are read
    in chunks of that length at most. -/
def bufferBound (head : Bytes) (mark chunk : ℕ) : Side → ℕ
  | .client => max established.length (mark - 1 + chunk)
  | .target => max head.length (mark - 1 + chunk)

/-- Chunks of at most that length. -/
def Chunked (chunk : ℕ) (_ : Tunnel) : ℕ × TunnelMove → Prop
  | (_, .data _ n) => n ≤ chunk
  | _ => True

structure Throttled (head : Bytes) (mark chunk : ℕ) (t : Tunnel) : Prop where
  head_eq : t.head = head
  pipes : ∀ side, Throttles mark (bufferBound head mark chunk side) (t.socket side.other) (t.socket side)
  -- nothing is written before the target is connected
  idle : t.connected = false → ∀ side, (t.socket side).pending = []

section Throttled

variable {head : Bytes} {mark chunk n : ℕ} {t t' : Tunnel} {side : Side} {s o : Socket UInt8}

theorem throttled_of_both (side : Side) (hhead : t.head = head)
    (hself : Throttles mark (bufferBound head mark chunk side) (t.socket side.other) (t.socket side))
    (hother : Throttles mark (bufferBound head mark chunk side.other) (t.socket side) (t.socket side.other))
    (hidle : t.connected = false → (t.socket side).pending = [] ∧ (t.socket side.other).pending = []) :
    Throttled head mark chunk t := by
  refine ⟨hhead, fun side' => ?_, fun hnot side' => ?_⟩
  · rcases eq_or_ne side' side with rfl | hne
    · exact hself
    · obtain rfl := Side.eq_other_of_ne hne
      rwa [Side.other_other]
  · rcases eq_or_ne side' side with rfl | hne
    · exact (hidle hnot).1
    · obtain rfl := Side.eq_other_of_ne hne
      exact (hidle hnot).2

theorem Throttled.other (h : Throttled head mark chunk t) (side : Side) :
    Throttles mark (bufferBound head mark chunk side.other) (t.socket side) (t.socket side.other) := by
  have hpipe := h.pipes side.other
  rwa [Side.other_other] at hpipe

/-- One socket changes, and nothing is written to it. -/
theorem Throttled.set (h : Throttled head mark chunk t) (side : Side)
    (hpaused : s.paused = (t.socket side).paused)
    (hself : Throttles mark (bufferBound head mark chunk side) (t.socket side.other) s)
    (hpending : s.pending.length ≤ (t.socket side).pending.length) :
    Throttled head mark chunk (t.set side s) := by
  apply throttled_of_both side
  · rw [head_set, h.head_eq]
  · rw [socket_set_self, socket_set_other]
    exact hself
  · rw [socket_set_self, socket_set_other]
    exact (h.other side).congr hpaused rfl rfl (Nat.le_refl _)
  · intro hnot
    rw [connected_set] at hnot
    rw [socket_set_self, socket_set_other]
    have hempty := h.idle hnot side
    rw [hempty] at hpending
    exact ⟨List.length_eq_zero_iff.mp (Nat.le_zero.mp hpending), h.idle hnot side.other⟩

theorem Throttled.set_congr (h : Throttled head mark chunk t) (side : Side)
    (hpaused : s.paused = (t.socket side).paused) (hmark : s.highWaterMark = (t.socket side).highWaterMark)
    (hdrain : s.needDrain = (t.socket side).needDrain)
    (hpending : s.pending.length ≤ (t.socket side).pending.length) :
    Throttled head mark chunk (t.set side s) :=
  h.set side hpaused ((h.pipes side).congr rfl hmark hdrain hpending) hpending

theorem Throttled.closeBoth (h : Throttled head mark chunk t) : Throttled head mark chunk t.closeBoth := by
  refine ⟨h.head_eq, fun side => ?_, fun _ side => ?_⟩
  · rw [socket_closeBoth, socket_closeBoth]
    exact (h.pipes side).destroy.congr rfl rfl rfl (Nat.le_refl _)
  · rw [socket_closeBoth]
    rfl

theorem Throttled.emitError (h : Throttled head mark chunk t) (side : Side) :
    Throttled head mark chunk (t.emitError side) := by
  unfold Tunnel.emitError
  split
  · exact h.closeBoth
  · exact h.set_congr side rfl rfl rfl (Nat.le_refl _)

theorem Throttled.emitClose (h : Throttled head mark chunk t) (side : Side) :
    Throttled head mark chunk (t.emitClose side) := by
  unfold Tunnel.emitClose
  split
  · exact h.closeBoth
  · exact h

theorem Throttled.onEnd (h : Throttled head mark chunk t) (side : Side) :
    Throttled head mark chunk (t.onEnd side) := by
  have hset := h.set_congr (s := (t.socket side.other).finish) side.other rfl rfl rfl (Nat.le_refl _)
  unfold Tunnel.onEnd
  dsimp only
  split
  · split
    · exact hset
    · exact hset.set_congr side rfl rfl rfl (Nat.le_refl _)
  · exact h

/-- The first bytes are written, and each pipe starts unless it has to wait. -/
theorem Throttled.onConnected (h : Throttled head mark chunk t) (hnot : t.connected = false) (now : ℕ) :
    Throttled head mark chunk (t.onConnected now) := by
  have hpending := h.idle hnot
  refine ⟨h.head_eq, fun side => ?_, fun hconnected => nomatch hconnected⟩
  cases side with
  | client =>
    have hbound : t.client.pending.length + established.length ≤ bufferBound head mark chunk .client := by
      rw [show t.client.pending = [] from hpending .client, List.length_nil, Nat.zero_add]
      exact le_max_left _ _
    exact ((h.pipes .client).write hbound rfl).congr rfl rfl rfl (Nat.le_refl _)
  | target =>
    have hbound : t.target.pending.length + t.head.length ≤ bufferBound head mark chunk .target := by
      rw [show t.target.pending = [] from hpending .target, List.length_nil, Nat.zero_add, h.head_eq]
      exact le_max_left _ _
    exact ((h.pipes .target).write hbound rfl).congr rfl rfl rfl (Nat.le_refl _)

theorem Throttled.logForwarded (h : Throttled head mark chunk t) {now : ℕ} {dst : Side} {bytes : Bytes} :
    Throttled head mark chunk (t.logForwarded now dst bytes) := by
  refine ⟨h.head_eq, fun side => ?_, fun hnot side => ?_⟩
  · cases side
    · exact h.pipes .client
    · exact h.pipes .target
  · cases side
    · exact h.idle hnot .client
    · exact h.idle hnot .target

/-- Both sockets change. -/
theorem Throttled.set_set (h : Throttled head mark chunk t) (side : Side)
    (hself : Throttles mark (bufferBound head mark chunk side) o s)
    (hother : Throttles mark (bufferBound head mark chunk side.other) s o)
    (hidle : t.connected = false → s.pending = [] ∧ o.pending = []) :
    Throttled head mark chunk ((t.set side s).set side.other o) := by
  apply throttled_of_both side
  · rw [head_set, head_set, h.head_eq]
  · rw [socket_set_set, socket_set_self]
    exact hself
  · rw [socket_set_set, socket_set_self]
    exact hother
  · rw [socket_set_set, socket_set_self, connected_set, connected_set]
    exact hidle

theorem Throttled.forward (h : Throttled head mark chunk t) (hconnected : t.connected = true)
    {bytes : Bytes} (hdata : (t.socket side).data n = some (bytes, s)) (hn : n ≤ chunk) (now : ℕ) :
    Throttled head mark chunk ((t.set side s).forward now side bytes) := by
  have hpaused : (t.socket side).paused = false := by
    obtain ⟨hnot, -⟩ := Option.ite_none_left_eq_some.mp hdata
    simp only [not_or, Bool.not_eq_true] at hnot
    exact hnot.2.1
  have hlength : bytes.length ≤ chunk := by
    rw [Socket.chunk_of_data hdata]
    exact (List.length_take_le _ _).trans hn
  obtain ⟨-, -, -, -, heq⟩ := Socket.data_eq_some hdata
  have hread : Throttled head mark chunk (t.set side s) := by
    rw [heq]
    exact h.set_congr side rfl rfl rfl (Nat.le_refl _)
  have hs : s.paused = false := by
    rw [heq]
    exact hpaused
  have hbound : mark - 1 + bytes.length ≤ bufferBound head mark chunk side.other := by
    cases side
    · exact (Nat.add_le_add_left hlength _).trans (le_max_right _ _)
    · exact (Nat.add_le_add_left hlength _).trans (le_max_right _ _)
  have hdestroy : Throttled head mark chunk
      ((t.set side s).set side.other ((t.set side s).socket side.other).destroy) :=
    hread.set_congr side.other rfl rfl rfl (Nat.zero_le _)
  unfold Tunnel.forward
  dsimp only
  split
  · exact hread
  split
  · exact hdestroy.emitError side.other
  · rw [set_set_self, socket_set_self, socket_set_other]
    set dst := (t.socket side.other).write bytes with hdst
    -- the reader is paused just where the writer has to wait
    have hsrc : ∃ src : Socket UInt8, (if dst.needDrain then s.pause else s) = src ∧
        src.paused = dst.needDrain ∧ src.highWaterMark = (t.socket side).highWaterMark ∧
        src.needDrain = (t.socket side).needDrain ∧ src.pending = (t.socket side).pending := by
      refine ⟨_, rfl, ?_⟩
      cases hdrain : dst.needDrain with
      | true =>
        rw [if_pos rfl, heq]
        exact ⟨rfl, rfl, rfl, rfl⟩
      | false =>
        rw [if_neg Bool.false_ne_true, heq]
        exact ⟨hpaused, rfl, rfl, rfl⟩
    obtain ⟨src, heqsrc, hsrcPaused, hmark, hdrain, hpending⟩ := hsrc
    rw [heqsrc]
    have hother := (h.other side).written hpaused hbound hsrcPaused
    have hself := (h.pipes side).congr (Socket.paused_write _ bytes) hmark hdrain (Nat.le_of_eq (by rw [hpending]))
    exact (h.set_set side hself hother fun hnot => nomatch hnot.symm.trans hconnected).logForwarded

theorem Throttled.step (hmark : 0 < mark) (h : Throttled head mark chunk t) {move : ℕ × TunnelMove}
    (hchunk : Chunked chunk t move) (hstep : t.step move = some t') : Throttled head mark chunk t' := by
  obtain ⟨now, move⟩ := move
  cases moves_of_step hstep with
  | connected hnot => exact h.onConnected hnot now
  | arrives harrives =>
    obtain ⟨-, -, rfl⟩ := Socket.arrives_eq_some harrives
    exact h.set_congr _ rfl rfl rfl (Nat.le_refl _)
  | peerEnds hends =>
    obtain ⟨-, -, rfl⟩ := Socket.peerEnds_eq_some hends
    exact h.set_congr _ rfl rfl rfl (Nat.le_refl _)
  | data hconnected hdata => exact h.forward hconnected hdata hchunk now
  | @ends side s _ hends =>
    obtain ⟨-, -, -, heq⟩ := Socket.ends_eq_some hends
    have hset : Throttled head mark chunk (t.set side s) := by
      rw [heq]
      exact h.set_congr side rfl rfl rfl (Nat.le_refl _)
    exact hset.onEnd side
  | @flushed side n s hflushed =>
    have hpipe := (h.pipes side).flushed hflushed
    have hle : s.pending.length ≤ (t.socket side).pending.length := by
      obtain ⟨-, hsome⟩ := Option.ite_none_left_eq_some.mp hflushed
      rw [← Option.some.inj hsome]
      simp
    have hpaused : s.paused = (t.socket side).paused := by rw [(Socket.flushed_eq_some hflushed).2.2]
    exact h.set side hpaused hpipe hle
  | @drained side s hdrained =>
    have hself := (h.pipes side).drained hmark hdrained
    obtain ⟨-, rfl⟩ := Socket.drained_eq_some hdrained
    exact h.set_set side hself ((h.other side).congr rfl rfl rfl (Nat.le_refl _)) fun hnot =>
      ⟨h.idle hnot side, h.idle hnot side.other⟩
  | @error side s hfails =>
    obtain ⟨-, heq⟩ := Socket.fails_eq_some hfails
    have hset : Throttled head mark chunk (t.set side s) := by
      rw [heq]
      exact h.set_congr side rfl rfl rfl (Nat.zero_le _)
    exact hset.emitError side
  | @close side s hcloses =>
    obtain ⟨-, heq⟩ := Socket.closes_eq_some hcloses
    have hset : Throttled head mark chunk (t.set side s) := by
      rw [heq]
      exact h.set_congr side rfl rfl rfl (Nat.zero_le _)
    exact hset.emitClose side

theorem Throttled.run (hmark : 0 < mark) (h : Throttled head mark chunk t) {moves : List (ℕ × TunnelMove)}
    (hchunk : AllMoves Tunnel.step (Chunked chunk) t moves) (hrun : run Tunnel.step t moves = some t') :
    Throttled head mark chunk t' :=
  run_invariant (fun ht hm hstep => ht.step hmark hm hstep) hrun hchunk h

theorem Throttled.dial (hmark : 0 < mark) (req : ConnectRequest) (port : ℤ) (host : List Char) :
    Throttled head mark chunk (.dial req head mark port host (.fresh mark) []) := by
  refine ⟨rfl, fun side => ?_, fun _ side => ?_⟩
  · cases side <;> exact ⟨rfl, rfl, fun _ => hmark, Nat.zero_le _⟩
  · cases side <;> rfl

/-! ### Going on -/

/-- The socket on the side is flushed, or its drain is seen. -/
def Drains (side : Side) (move : ℕ × TunnelMove) : Prop :=
  (∃ n, move.2 = .flushed side n) ∨ move.2 = .drained side

theorem data_of_not_paused (hdestroyed : s.destroyed = false) (hpaused : s.paused = false) (hn : n ≠ 0)
    (hlength : n ≤ s.unread.length) : ∃ read, s.data n = some read := by
  refine ⟨_, if_neg ?_⟩
  simp only [hdestroyed, hpaused, hn, Bool.false_eq_true, false_or, not_lt]
  exact hlength

/-- Where nothing is pending any more, the drain resumes the reader. -/
theorem drained_step (hdestroyed : (t.socket side).destroyed = false)
    (hfinishing : (t.socket side).finishing = false) (hdrain : (t.socket side).needDrain = true)
    (hpending : (t.socket side).pending = []) (now : ℕ) :
    ∃ s, t.step (now, .drained side) = some ((t.set side s).set side.other (t.socket side.other).resume) := by
  have hdrained : (t.socket side).drained = some { t.socket side with needDrain := false } := by
    simp [Socket.drained, hdestroyed, hfinishing, hdrain, hpending]
  refine ⟨{ t.socket side with needDrain := false }, ?_⟩
  simp only [Tunnel.step, hdrained, Option.map_some]

theorem flushed_step (hdestroyed : (t.socket side).destroyed = false)
    (hpending : (t.socket side).pending ≠ []) (now : ℕ) :
    ∃ s, t.step (now, .flushed side (t.socket side).pending.length) = some (t.set side s) ∧
      s.destroyed = false ∧ s.finishing = (t.socket side).finishing ∧
      s.needDrain = (t.socket side).needDrain ∧ s.pending = [] := by
  have hflushed : (t.socket side).flushed (t.socket side).pending.length =
      some { t.socket side with
        sent := (t.socket side).sent ++ (t.socket side).pending, pending := [] } := by
    simp [Socket.flushed, hdestroyed, hpending]
  refine ⟨{ t.socket side with
    sent := (t.socket side).sent ++ (t.socket side).pending, pending := [] }, ?_, hdestroyed, rfl, rfl, rfl⟩
  simp only [Tunnel.step, hflushed, Option.map_some]

/-- **A tunnel has bounded memory, and its pipes do not stop for good.**  In every run of a
    tunnel, what is pending for either peer is at most what it is sent first, or a chunk
    over the mark.  Where a side has sent bytes that are unread, and the other side still
    takes some, the next chunk can be read as soon as that side has taken what is pending
    for it. -/
theorem pending_le_and_can_read {server : TunnelServer} {sign : Sign} {mark now chunk : ℕ}
    {req : ConnectRequest} {head : Bytes} {t₀ t : Tunnel} {moves : List (ℕ × TunnelMove)} (hmark : 0 < mark)
    (hconnect : server.onConnect sign mark now req head = .ok (.tunnel t₀))
    (hchunk : AllMoves Tunnel.step (Chunked chunk) t₀ moves) (hrun : Machine.run Tunnel.step t₀ moves = some t) :
    (∀ side, (t.socket side).pending.length ≤ bufferBound head mark chunk side) ∧
    ∀ side n later, t.connected = true → (t.socket side).destroyed = false →
      (t.socket side.other).destroyed = false → (t.socket side.other).finishing = false →
      n ≠ 0 → n ≤ (t.socket side).unread.length →
      ∃ moves' t' t'', (∀ move ∈ moves', Drains side.other move) ∧ Machine.run Tunnel.step t moves' = some t' ∧
        t'.step (later, .data side n) = some t'' := by
  have hthrottled : Throttled head mark chunk t := by
    rcases onConnect_cases hconnect with ⟨_, _, heq, -⟩ | ⟨port, host, -, heq⟩
    · cases heq
    · cases heq
      exact (Throttled.dial hmark req port host).run hmark hchunk hrun
  refine ⟨fun side => (hthrottled.pipes side).bounded, ?_⟩
  intro side n later hconnected hself hother hfinishing hn hlength
  have hread (t' : Tunnel) (hconnected' : t'.connected = true) {s : Socket UInt8} (hs : t'.socket side = s)
      (hdestroyed : s.destroyed = false) (hpaused : s.paused = false)
      (hunread : s.unread = (t.socket side).unread) :
      ∃ t'', t'.step (later, .data side n) = some t'' := by
    obtain ⟨read, hdata⟩ := data_of_not_paused hdestroyed hpaused hn (hunread ▸ hlength)
    refine ⟨(t'.set side read.2).forward later side read.1, ?_⟩
    simp only [Tunnel.step, hconnected', not_true_eq_false, if_false, hs, hdata, Option.map_some]
  have hpaused : (t.socket side).paused = (t.socket side.other).needDrain := (hthrottled.other side).paused
  cases hdrain : (t.socket side.other).needDrain with
  | false =>
    obtain ⟨t'', hstep⟩ := hread t hconnected rfl hself (hpaused.trans hdrain) rfl
    exact ⟨[], t, t'', by simp, rfl, hstep⟩
  | true =>
    -- flush what is pending, if anything is; then the drain resumes the reader
    have hflushed : ∃ moves' t', (∀ move ∈ moves', Drains side.other move) ∧
        Machine.run Tunnel.step t moves' = some t' ∧ t'.connected = true ∧ t'.socket side = t.socket side ∧
        (t'.socket side.other).destroyed = false ∧ (t'.socket side.other).finishing = false ∧
        (t'.socket side.other).needDrain = true ∧ (t'.socket side.other).pending = [] := by
      by_cases hpending : (t.socket side.other).pending = []
      · exact ⟨[], t, by simp, rfl, hconnected, rfl, hother, hfinishing, hdrain, hpending⟩
      · obtain ⟨s, hstep, hdestroyed, hfin, hneed, hempty⟩ := flushed_step hother hpending later
        refine ⟨[(later, .flushed side.other (t.socket side.other).pending.length)], t.set side.other s,
          by simp [Drains], run_cons.mpr ⟨_, hstep, rfl⟩, ?_⟩
        have hsame : (t.set side.other s).socket side = t.socket side := by
          cases side <;> rfl
        rw [connected_set, socket_set_self]
        exact ⟨hconnected, hsame, hdestroyed, hfin.trans hfinishing, hneed.trans hdrain, hempty⟩
    obtain ⟨moves', t', hall, hrun', hconnected', hsame, hdestroyed, hfin, hneed, hempty⟩ := hflushed
    obtain ⟨s, hstep⟩ := drained_step hdestroyed hfin hneed hempty later
    rw [Side.other_other, hsame] at hstep
    have hresumed : ((t'.set side.other s).set side (t.socket side).resume).socket side =
        (t.socket side).resume := socket_set_self _ _ _
    obtain ⟨t'', hdata⟩ := hread ((t'.set side.other s).set side (t.socket side).resume)
      (by rw [connected_set, connected_set, hconnected']) hresumed hself rfl rfl
    refine ⟨moves' ++ [(later, .drained side.other)], _, t'', ?_, ?_, hdata⟩
    · intro move hmove
      rcases List.mem_append.mp hmove with hmove | hmove
      · exact hall move hmove
      · rw [List.mem_singleton.mp hmove]
        exact Or.inr rfl
    · exact run_append.mpr ⟨t', hrun', run_cons.mpr ⟨_, hstep, rfl⟩⟩

end Throttled

end Tunnel

/-! ### Two bytes of a target -/

/-- The target has sent two bytes, and one of them is read. -/
def twoBytes : List (ℕ × TunnelMove) :=
  [(0, .connected), (0, .arrives .target [1, 2]), (0, .data .target 1)]

theorem pending_le_and_can_read_twoBytes : ∃ t, run Tunnel.step sampleTunnel twoBytes = some t ∧
    t.client.pending.length ≤ Tunnel.bufferBound [] 16384 1 .client ∧
    ∃ moves' t' t'', (∀ move ∈ moves', Tunnel.Drains .client move) ∧ run Tunnel.step t moves' = some t' ∧
      t'.step (0, .data .target 1) = some t'' := by
  have hchunk : AllMoves Tunnel.step (Tunnel.Chunked 1) sampleTunnel twoBytes :=
    allMoves_of_mem (by simp [twoBytes, Tunnel.Chunked])
  obtain ⟨t, hrun, hconnected, hself, hother, hfinishing, hlength⟩ : ∃ t,
      run Tunnel.step sampleTunnel twoBytes = some t ∧ t.connected = true ∧ t.target.destroyed = false ∧
        t.client.destroyed = false ∧ t.client.finishing = false ∧ 1 ≤ t.target.unread.length :=
    exists_run (by decide +kernel)
  obtain ⟨hbound, hread⟩ := Tunnel.pending_le_and_can_read (by decide) onConnect_sample hchunk hrun
  exact ⟨t, hrun, hbound .client,
    hread .target 1 0 hconnected hself hother hfinishing Nat.one_ne_zero hlength⟩

end DVoD.Relay
