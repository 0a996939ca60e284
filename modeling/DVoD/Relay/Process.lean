import DVoD.Relay.Tunnel

/-!
# The relay process

A tunnel-server with all its connections.  An error event that finds no listener ends the
process, and so does an exception of the `connect` handler; `no_crash_iff` says in which
runs neither happens.
-/

namespace DVoD.Relay

open DVoD.Machine DVoD.Net DVoD.Session

/-! ### Runs of the process -/

structure Process where
  connections : List Connection
  crashed : Bool

inductive ProcessMove where
  | connect (req : ConnectRequest) (head : Bytes)
  | socket (i : ℕ) (move : TunnelMove)

namespace Process

def start : Process := ⟨[], false⟩

/-- The process after a move at a time, or `none` where the move cannot happen. -/
def step (server : TunnelServer) (sign : Sign) (highWaterMark : ℕ) (p : Process) :
    ℕ × ProcessMove → Option Process
  | (now, .connect req head) =>
      if p.crashed then none
      else
        match server.onConnect sign highWaterMark now req head with
        | .error _ => some { p with crashed := true }
        | .ok c => some { p with connections := p.connections ++ [c] }
  | (now, .socket i move) =>
      if p.crashed then none
      else
        p.connections[i]?.bind fun c =>
          (c.step (now, move)).map fun c' => ⟨p.connections.set i c', c'.uncaught⟩

end Process

/-! ### Listeners -/

section Wired

variable {s s' : Socket UInt8}

/-- The socket has a listener for errors exactly where `wired`, and no error was missed. -/
structure Wired (wired : Bool) (s : Socket UInt8) : Prop where
  onError : s.onError = wired
  uncaught : s.uncaught = false

variable {wired : Bool} (h : Wired wired s)

include h

theorem Wired.destroy : Wired wired s.destroy := ⟨h.onError, h.uncaught⟩

theorem Wired.finish : Wired wired s.finish := ⟨h.onError, h.uncaught⟩

theorem Wired.setPaused (paused : Bool) : Wired wired { s with paused := paused } := ⟨h.onError, h.uncaught⟩

theorem Wired.write (bytes : Bytes) : Wired wired (s.write bytes) := by
  unfold Socket.write
  split
  · exact h
  · exact ⟨h.onError, h.uncaught⟩

theorem Wired.arrives {bytes : Bytes} (harrives : s.arrives bytes = some s') : Wired wired s' := by
  obtain ⟨-, -, rfl⟩ := Socket.arrives_eq_some harrives
  exact ⟨h.onError, h.uncaught⟩

theorem Wired.peerEnds (hends : s.peerEnds = some s') : Wired wired s' := by
  obtain ⟨-, -, rfl⟩ := Socket.peerEnds_eq_some hends
  exact ⟨h.onError, h.uncaught⟩

theorem Wired.data {n : ℕ} {chunk : Bytes} (hdata : s.data n = some (chunk, s')) : Wired wired s' := by
  rw [(Socket.data_eq_some hdata).2.2.2.2]
  exact ⟨h.onError, h.uncaught⟩

theorem Wired.ends (hends : s.ends = some s') : Wired wired s' := by
  obtain ⟨-, -, -, rfl⟩ := Socket.ends_eq_some hends
  exact ⟨h.onError, h.uncaught⟩

theorem Wired.flushed {n : ℕ} (hflushed : s.flushed n = some s') : Wired wired s' := by
  rw [(Socket.flushed_eq_some hflushed).2.2]
  exact ⟨h.onError, h.uncaught⟩

theorem Wired.drained (hdrained : s.drained = some s') : Wired wired s' := by
  obtain ⟨-, rfl⟩ := Socket.drained_eq_some hdrained
  exact ⟨h.onError, h.uncaught⟩

theorem Wired.fails (hfails : s.fails = some s') : Wired wired s' := by
  obtain ⟨-, rfl⟩ := Socket.fails_eq_some hfails
  exact h.destroy

theorem Wired.closes (hcloses : s.closes = some s') : Wired wired s' := by
  obtain ⟨-, rfl⟩ := Socket.closes_eq_some hcloses
  exact ⟨h.onError, h.uncaught⟩

end Wired

namespace Tunnel

/-- Both sockets have a listener for errors. -/
def Listens (t : Tunnel) : Prop := ∀ side, Wired true (t.socket side)

section Listens

variable {t t' : Tunnel} {side : Side} {s : Socket UInt8} (h : t.Listens)

include h

theorem Listens.set (hs : Wired true s) : (t.set side s).Listens := by
  intro side'
  rcases eq_or_ne side' side with rfl | hne
  · rwa [socket_set_self]
  · obtain rfl := Side.eq_other_of_ne hne
    rw [socket_set_other]
    exact h _

theorem Listens.closeBoth : t.closeBoth.Listens := by
  intro side
  rw [socket_closeBoth]
  exact (h side).destroy

theorem Listens.emitError : (t.emitError side).Listens := by
  rw [emitError_of_listening (h side).onError]
  exact h.closeBoth

theorem Listens.emitClose : (t.emitClose side).Listens := by
  unfold Tunnel.emitClose
  split
  · exact h.closeBoth
  · exact h

theorem Listens.forward {now : ℕ} {chunk : Bytes} : (t.forward now side chunk).Listens := by
  unfold Tunnel.forward
  dsimp only
  split
  · exact h
  split
  · exact (h.set (h side.other).destroy).emitError
  · have hsrc : Wired true (if ((t.socket side.other).write chunk).needDrain then (t.socket side).pause
        else t.socket side) := by
      split
      · exact (h side).setPaused true
      · exact h side
    exact (h.set hsrc).set ((h side.other).write chunk)

theorem Listens.onEnd : (t.onEnd side).Listens := by
  have hset : (t.set side.other (t.socket side.other).finish).Listens := h.set (h side.other).finish
  unfold Tunnel.onEnd
  dsimp only
  split
  · split
    · exact hset
    · exact hset.set (hset side).finish
  · exact h

theorem Listens.onConnected (now : ℕ) : (t.onConnected now).Listens := by
  intro side
  cases side with
  | client => exact ((h .client).write established).setPaused _
  | target =>
    have hwrite := (h .target).write t.head
    exact ⟨hwrite.onError, hwrite.uncaught⟩

/-- No event of a socket takes a listener away, or misses one. -/
theorem Listens.step {move : ℕ × TunnelMove} (hstep : t.step move = some t') : t'.Listens := by
  obtain ⟨now, move⟩ := move
  cases moves_of_step hstep with
  | connected => exact h.onConnected now
  | @arrives side bytes s harrives => exact h.set ((h side).arrives harrives)
  | @peerEnds side s hends => exact h.set ((h side).peerEnds hends)
  | @data side n chunk s _ hdata => exact (h.set ((h side).data hdata)).forward
  | @ends side s _ hends => exact (h.set ((h side).ends hends)).onEnd
  | @flushed side n s hflushed => exact h.set ((h side).flushed hflushed)
  | @drained side s hdrained =>
    exact (h.set ((h side).drained hdrained)).set ((h side.other).setPaused false)
  | @error side s hfails => exact (h.set ((h side).fails hfails)).emitError
  | @close side s hcloses => exact (h.set ((h side).closes hcloses)).emitClose

theorem Listens.uncaught : (Connection.tunnel t).uncaught = false := by
  have hclient : t.client.uncaught = false := (h .client).uncaught
  have htarget : t.target.uncaught = false := (h .target).uncaught
  rw [Connection.uncaught, hclient, htarget]
  rfl

end Listens

end Tunnel

/-! ### Rejected connections -/

namespace Connection

/-- A tunnel has its listeners, and the socket of a rejected client none. -/
def Listens : Connection → Prop
  | .rejected client _ => Wired false client
  | .tunnel t => t.Listens

/-- An error event of a rejected client's socket. -/
def Misses (c : Connection) (move : TunnelMove) : Prop :=
  (∃ client events, c = .rejected client events) ∧ move = .error .client

variable {c c' : Connection} {now : ℕ} {move : TunnelMove}

theorem Listens.uncaught (h : c.Listens) : c.uncaught = false := by
  cases c with
  | rejected client events => exact Wired.uncaught h
  | tunnel t => exact Tunnel.Listens.uncaught h

/-- The only event that finds no listener is an error of a rejected client's socket. -/
theorem Listens.step (h : c.Listens) (hstep : c.step (now, move) = some c') :
    (c'.uncaught = false ∧ c'.Listens ∧ ¬ c.Misses move) ∨ (c'.uncaught = true ∧ c.Misses move) := by
  cases c with
  | tunnel t =>
    obtain ⟨t', htunnel, rfl⟩ := Option.map_eq_some_iff.mp hstep
    have h' : t'.Listens := Tunnel.Listens.step h htunnel
    exact Or.inl ⟨h'.uncaught, h', fun hmisses => nomatch hmisses.1.choose_spec.choose_spec⟩
  | rejected client events =>
    have hkeep {s : Socket UInt8} (hs : Wired false s) (hnot : move ≠ .error .client) :
        (Connection.rejected s events).uncaught = false ∧ (Connection.rejected s events).Listens ∧
          ¬ (Connection.rejected client events).Misses move :=
      ⟨hs.uncaught, hs, fun hmisses => hnot hmisses.2⟩
    cases move with
    | arrives side bytes =>
      cases side with
      | client =>
        obtain ⟨s, harrives, rfl⟩ := Option.map_eq_some_iff.mp hstep
        exact Or.inl (hkeep (Wired.arrives h harrives) nofun)
      | target => cases hstep
    | peerEnds side =>
      cases side with
      | client =>
        obtain ⟨s, hends, rfl⟩ := Option.map_eq_some_iff.mp hstep
        exact Or.inl (hkeep (Wired.peerEnds h hends) nofun)
      | target => cases hstep
    | ends side =>
      cases side with
      | client =>
        obtain ⟨s, hends, rfl⟩ := Option.map_eq_some_iff.mp hstep
        exact Or.inl (hkeep (Wired.ends h hends) nofun)
      | target => cases hstep
    | flushed side n =>
      cases side with
      | client =>
        obtain ⟨s, hflushed, rfl⟩ := Option.map_eq_some_iff.mp hstep
        exact Or.inl (hkeep (Wired.flushed h hflushed) nofun)
      | target => cases hstep
    | error side =>
      cases side with
      | client =>
        obtain ⟨s, hfails, rfl⟩ := Option.map_eq_some_iff.mp hstep
        refine Or.inr ⟨?_, ⟨client, events, rfl⟩, rfl⟩
        have hs := Wired.fails h hfails
        rw [Connection.uncaught, hs.onError]
        exact Bool.or_true _
      | target => cases hstep
    | close side =>
      cases side with
      | client =>
        obtain ⟨s, hcloses, rfl⟩ := Option.map_eq_some_iff.mp hstep
        exact Or.inl (hkeep (Wired.closes h hcloses) nofun)
      | target => cases hstep
    | connected | data side n | drained side => cases hstep

theorem listens_onConnect {server : TunnelServer} {sign : Sign} {highWaterMark : ℕ} {req : ConnectRequest}
    {head : Bytes} (h : server.onConnect sign highWaterMark now req head = .ok c) : c.Listens := by
  rcases onConnect_cases h with ⟨client, events, rfl, honError, huncaught⟩ | ⟨port, host, -, rfl⟩
  · exact ⟨honError, huncaught⟩
  · intro side
    cases side <;> exact ⟨rfl, rfl⟩

end Connection

/-! ### Crashes -/

namespace Process

/-- The move ends the process: a CONNECT with a signed token that cannot be used, or an
    error of the client's socket of a rejected CONNECT. -/
def Fatal (server : TunnelServer) (sign : Sign) (p : Process) : ℕ × ProcessMove → Prop
  | (now, .connect req _) => req.WellFormed ∧ req.Broken sign server.secret now
  | (_, .socket i move) => ∃ c, p.connections[i]? = some c ∧ c.Misses move

/-- A process that has not crashed has listeners on every tunnel. -/
def Listens (p : Process) : Prop := p.crashed = false → ∀ c ∈ p.connections, c.Listens

section Crash

variable {server : TunnelServer} {sign : Sign} {highWaterMark : ℕ} {p p' : Process}
  {move : ℕ × ProcessMove}

theorem step_cases (h : p.Listens) (hstep : p.step server sign highWaterMark move = some p') :
    p.crashed = false ∧ p'.Listens ∧ (p'.crashed = false ↔ ¬ p.Fatal server sign move) := by
  obtain ⟨now, move⟩ := move
  cases move with
  | connect req head =>
    obtain ⟨hcrashed, hstep⟩ := Option.ite_none_left_eq_some.mp hstep
    rw [Bool.not_eq_true] at hcrashed
    have hfatal : p.Fatal server sign (now, .connect req head) ↔
        ∃ err, server.onConnect sign highWaterMark now req head = .error err :=
      throws_iff.symm.trans onConnect_error_iff.symm
    rw [hfatal]
    rcases hconnect : server.onConnect sign highWaterMark now req head with err | c
    · rw [hconnect] at hstep
      obtain rfl := Option.some.inj hstep
      refine ⟨hcrashed, nofun, ?_⟩
      exact iff_of_false nofun fun hnot => hnot ⟨err, rfl⟩
    · rw [hconnect] at hstep
      obtain rfl := Option.some.inj hstep
      refine ⟨hcrashed, ?_, iff_of_true hcrashed nofun⟩
      intro _ c' hc'
      rcases List.mem_append.mp hc' with hmem | hmem
      · exact h hcrashed c' hmem
      · rw [List.mem_singleton.mp hmem]
        exact Connection.listens_onConnect hconnect
  | socket i move =>
    obtain ⟨hcrashed, hstep⟩ := Option.ite_none_left_eq_some.mp hstep
    rw [Bool.not_eq_true] at hcrashed
    obtain ⟨c, hc, hstep⟩ := Option.bind_eq_some_iff.mp hstep
    obtain ⟨c', hmove, rfl⟩ := Option.map_eq_some_iff.mp hstep
    have hlistens := h hcrashed c (List.mem_of_getElem? hc)
    have hfatal : p.Fatal server sign (now, .socket i move) ↔ c.Misses move := by
      constructor
      · rintro ⟨c₁, hc₁, hmisses⟩
        obtain rfl := Option.some.inj (hc.symm.trans hc₁)
        exact hmisses
      · intro hmisses
        exact ⟨c, hc, hmisses⟩
    rw [hfatal]
    rcases hlistens.step hmove with ⟨hcaught, hlistens', hnot⟩ | ⟨hmissed, hmisses⟩
    · refine ⟨hcrashed, ?_, iff_of_true hcaught hnot⟩
      intro _ c₁ hc₁
      rcases List.mem_or_eq_of_mem_set hc₁ with hmem | rfl
      · exact h hcrashed c₁ hmem
      · exact hlistens'
    · refine ⟨hcrashed, ?_, iff_of_false ?_ (not_not.mpr hmisses)⟩
      · intro hcaught
        exact nomatch hmissed.symm.trans hcaught
      · intro hcaught
        exact nomatch hmissed.symm.trans hcaught

/-- **When a relay crashes.**  In every run, each error event has found a listener and
    the handler has thrown nothing exactly where no CONNECT had a well-formed target and
    a signed token that cannot be used, and no client whose CONNECT was rejected has reset
    its connection. -/
theorem no_crash_iff {moves : List (ℕ × ProcessMove)}
    (hrun : run (step server sign highWaterMark) start moves = some p) :
    p.crashed = false ↔
      AllMoves (step server sign highWaterMark) (fun p move => ¬ p.Fatal server sign move) start moves := by
  have hgood : p.crashed = false ↔ start.crashed = false ∧
      AllMoves (step server sign highWaterMark) (fun p move => ¬ p.Fatal server sign move) start moves := by
    refine run_good_iff (I := Listens) (P := fun p => p.crashed = false) ?_ ?_ hrun ?_
    · exact fun h hstep => (step_cases h hstep).2.1
    · intro s m s' h hstep
      obtain ⟨hcrashed, -, hiff⟩ := step_cases h hstep
      exact hiff.trans (and_iff_right hcrashed).symm
    · intro _ _ hc
      exact nomatch hc
  exact hgood.trans (and_iff_right rfl)

end Crash

end Process

/-! ### A reset after a rejection -/

def noToken : ConnectRequest := ⟨some "example.com:443", none⟩

theorem no_crash_iff_rejected : ∃ p, run (Process.step sampleServer sampleSign 16384) .start
      [(0, .connect noToken []), (0, .socket 0 (.flushed .client 44))] = some p ∧
    AllMoves (Process.step sampleServer sampleSign 16384)
      (fun p move => ¬ p.Fatal sampleServer sampleSign move) .start
      [(0, .connect noToken []), (0, .socket 0 (.flushed .client 44))] := by
  have heval : (run (Process.step sampleServer sampleSign 16384) .start
      [(0, .connect noToken []), (0, .socket 0 (.flushed .client 44))]).any (fun p => !p.crashed) = true := by
    decide +kernel
  obtain ⟨p, hrun, hcrashed⟩ := (Option.any_eq_true _ _).mp heval
  exact ⟨p, hrun, (Process.no_crash_iff hrun).mp (Bool.not_eq_true' _ ▸ hcrashed)⟩

/-- A CONNECT without a token is rejected, and the client resets the connection. -/
theorem reset_crashes : (run (Process.step sampleServer sampleSign 16384) .start
    [(0, .connect noToken []), (0, .socket 0 (.error .client))]).map Process.crashed = some true := by
  decide +kernel

end DVoD.Relay
