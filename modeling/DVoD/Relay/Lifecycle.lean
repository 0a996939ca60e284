import DVoD.Relay.ConnectTarget

/-!
# Lifecycle events

What `onEvent` is given for one CONNECT.  `closeBoth` reports a close each time that it
runs, and it runs on four events of the two sockets: `Lifecycle` counts them.
-/

namespace DVoD.Relay

open DVoD.Machine DVoD.Net DVoD.Session

/-! ### Phases of a socket -/

/-- The part of a socket that its 'error' and 'close' events depend on. -/
structure Phase where
  listening : Bool
  destroyed : Bool
  closed : Bool

def phase (s : Socket UInt8) : Phase := ⟨s.onError && s.onClose, s.destroyed, s.closed⟩

section Phases

variable {s s' : Socket UInt8} {bytes chunk : Bytes} {n : ℕ}

@[simp] theorem phase_write (s : Socket UInt8) (bytes : Bytes) : phase (s.write bytes) = phase s := by
  unfold Socket.write
  split <;> rfl

theorem phase_arrives (h : s.arrives bytes = some s') : phase s' = phase s := by
  obtain ⟨-, -, rfl⟩ := Socket.arrives_eq_some h
  rfl

theorem phase_peerEnds (h : s.peerEnds = some s') : phase s' = phase s := by
  obtain ⟨-, -, rfl⟩ := Socket.peerEnds_eq_some h
  rfl

theorem phase_data (h : s.data n = some (chunk, s')) : phase s' = phase s := by
  rw [(Socket.data_eq_some h).2.2.2.2]
  rfl

theorem phase_ends (h : s.ends = some s') : phase s' = phase s := by
  obtain ⟨-, -, -, rfl⟩ := Socket.ends_eq_some h
  rfl

theorem phase_flushed (h : s.flushed n = some s') : phase s' = phase s := by
  rw [(Socket.flushed_eq_some h).2.2]
  rfl

theorem phase_drained (h : s.drained = some s') : phase s' = phase s := by
  obtain ⟨-, rfl⟩ := Socket.drained_eq_some h
  rfl

theorem not_closed_of_closes (h : s.closes = some s') : s.closed = false := by
  obtain ⟨hnot, -⟩ := Option.ite_none_left_eq_some.mp h
  rw [not_or, Bool.not_eq_true] at hnot
  exact hnot.1

end Phases

namespace Tunnel

variable {t t' t'' : Tunnel} {side : Side} {s : Socket UInt8} {now n : ℕ} {move : TunnelMove}

def kinds (t : Tunnel) : List TunnelEventKind := t.events.map TunnelEvent.event

def phaseOf (t : Tunnel) (side : Side) : Phase := phase (t.socket side)

/-- Nothing has happened that events are about. -/
structure Quiet (t t' : Tunnel) : Prop where
  phases : t'.phaseOf = t.phaseOf
  connected : t'.connected = t.connected
  kinds : t'.kinds = t.kinds

theorem Quiet.trans (h : Quiet t t') (h' : Quiet t' t'') : Quiet t t'' :=
  ⟨h'.phases.trans h.phases, h'.connected.trans h.connected, h'.kinds.trans h.kinds⟩

theorem kinds_set (t : Tunnel) (side : Side) (s : Socket UInt8) : (t.set side s).kinds = t.kinds := by
  cases side <;> rfl

theorem phaseOf_set (h : phase s = t.phaseOf side) : (t.set side s).phaseOf = t.phaseOf := by
  funext side'
  by_cases hside : side' = side
  · subst hside
    rw [phaseOf, socket_set_self, h]
  · rw [Side.eq_other_of_ne hside, phaseOf, socket_set_other]
    rfl

theorem Quiet.set (h : phase s = t.phaseOf side) : Quiet t (t.set side s) :=
  ⟨phaseOf_set h, connected_set .., kinds_set ..⟩

theorem Quiet.onEnd (t : Tunnel) (side : Side) : Quiet t (t.onEnd side) := by
  unfold Tunnel.onEnd
  split
  · have hother : Quiet t (t.set side.other (t.socket side.other).finish) := .set rfl
    dsimp only
    split
    · exact hother
    · exact hother.trans (.set rfl)
  · exact ⟨rfl, rfl, rfl⟩

/-! ### How often `closeBoth` has run -/

def closedSockets (t : Tunnel) : ℕ := t.client.closed.toNat + t.target.closed.toNat

/-- `closeBoth` has run `n` times. -/
structure Lifecycle (n : ℕ) (t : Tunnel) : Prop where
  listening : ∀ side, (t.phaseOf side).listening = true
  kinds : t.kinds = (if t.connected then [.opened] else []) ++ List.replicate n .closed
  destroyed : ∀ side, (t.phaseOf side).destroyed = decide (0 < n)
  least : t.closedSockets ≤ n
  most : n ≤ t.closedSockets + 1

theorem closedSockets_eq (side : Side) : t.closedSockets =
    (t.phaseOf side).closed.toNat + (t.phaseOf side.other).closed.toNat := by
  cases side
  · rfl
  · exact Nat.add_comm _ _

namespace Lifecycle

variable (h : Lifecycle n t)

include h

theorem congr (hquiet : Quiet t t') : Lifecycle n t' := by
  have hclosed : t'.closedSockets = t.closedSockets := by
    rw [closedSockets_eq .client, closedSockets_eq .client, hquiet.phases]
  constructor
  · rw [hquiet.phases]
    exact h.listening
  · rw [hquiet.kinds, hquiet.connected]
    exact h.kinds
  · rw [hquiet.phases]
    exact h.destroyed
  · rw [hclosed]
    exact h.least
  · rw [hclosed]
    exact h.most

theorem eq_zero (hdestroyed : (t.socket side).destroyed = false) : n = 0 := by
  have hdecide := (h.destroyed side).symm.trans hdestroyed
  simpa using hdecide

/-- `closeBoth` runs, after an event of a socket. -/
theorem closeBoth (hlistening : (phase s).listening = (t.phaseOf side).listening)
    (hleast : (t.set side s).closedSockets ≤ n + 1) (hmost : n ≤ (t.set side s).closedSockets) :
    Lifecycle (n + 1) (t.set side s).closeBoth := by
  have hphase (side' : Side) : ((t.set side s).phaseOf side').listening = true := by
    by_cases hside : side' = side
    · rw [hside, phaseOf, socket_set_self, hlistening]
      exact h.listening side
    · rw [Side.eq_other_of_ne hside, phaseOf, socket_set_other]
      exact h.listening side.other
  constructor
  · intro side'
    rw [phaseOf, socket_closeBoth]
    exact hphase side'
  · have hevents : (t.set side s).closeBoth.kinds = (t.set side s).kinds ++ [.closed] := List.map_append ..
    have hconnected : (t.set side s).closeBoth.connected = (t.set side s).connected := rfl
    rw [hevents, hconnected, kinds_set, connected_set, h.kinds, List.append_assoc,
      List.replicate_succ']
  · intro side'
    rw [phaseOf, socket_closeBoth]
    simp [phase, Socket.destroy]
  · exact hleast
  · exact Nat.succ_le_succ hmost

theorem listens (side : Side) : (t.socket side).onError = true ∧ (t.socket side).onClose = true :=
  Bool.and_eq_true_iff.mp (h.listening side)

theorem error (hfails : (t.socket side).fails = some s) :
    Lifecycle (n + 1) ((t.set side s).emitError side) ∧ n = 0 := by
  obtain ⟨hdestroyed, rfl⟩ := Socket.fails_eq_some hfails
  have hn := h.eq_zero hdestroyed
  have hclosed : (t.set side (t.socket side).destroy).closedSockets = t.closedSockets := by
    cases side <;> rfl
  have hlisten : ((t.set side (t.socket side).destroy).socket side).onError = true := by
    rw [socket_set_self]
    exact (h.listens side).1
  rw [emitError_of_listening hlisten]
  refine ⟨h.closeBoth rfl ?_ ?_, hn⟩
  · rw [hclosed]
    exact h.least.trans (Nat.le_succ n)
  · rw [hn]
    exact Nat.zero_le _

theorem close (hcloses : (t.socket side).closes = some s) :
    Lifecycle (n + 1) ((t.set side s).emitClose side) := by
  have hnot := not_closed_of_closes hcloses
  obtain ⟨-, hs⟩ := Socket.closes_eq_some hcloses
  have hphase : phase s = ⟨(t.phaseOf side).listening, true, true⟩ := by
    rw [hs]
    rfl
  have hclosed : (t.set side s).closedSockets = t.closedSockets + 1 := by
    rw [closedSockets_eq side, closedSockets_eq (t := t) side, phaseOf, phaseOf, socket_set_self,
      socket_set_other, hphase, phaseOf, phaseOf]
    simp [phase, hnot, Nat.add_comm]
  have hlisten : ((t.set side s).socket side).onClose = true := by
    rw [socket_set_self, hs]
    exact (h.listens side).2
  rw [emitClose_of_listening hlisten]
  apply h.closeBoth (by rw [hphase])
  · rw [hclosed]
    exact Nat.succ_le_succ h.least
  · rw [hclosed]
    exact h.most

/-- A chunk is passed on, or it comes too late and tears the tunnel down. -/
theorem forward {chunk : Bytes} {k : ℕ} (hdata : (t.socket side).data k = some (chunk, s)) :
    Lifecycle n ((t.set side s).forward now side chunk) ∨
    Lifecycle (n + 1) ((t.set side s).forward now side chunk) ∧ n = 0 := by
  have hn := h.eq_zero (Socket.data_eq_some hdata).1
  have hdestroyed : (t.socket side.other).destroyed = false := by
    have hother := h.destroyed side.other
    rw [hn] at hother
    exact hother
  have hphase : phase s = t.phaseOf side := phase_data hdata
  rcases hfinishing : (t.socket side.other).finishing with _ | _
  · left
    obtain ⟨paused, heq⟩ := forward_of_open s now chunk hdestroyed hfinishing
    have hpaused : Quiet t (t.set side { s with paused := paused }) := .set hphase
    rw [heq]
    apply h.congr
    apply hpaused.trans
    have hwrite : Quiet (t.set side { s with paused := paused })
        ((t.set side { s with paused := paused }).set side.other ((t.socket side.other).write chunk)) := by
      apply Quiet.set
      rw [phase_write, phaseOf, socket_set_other]
    exact ⟨hwrite.phases, hwrite.connected, hwrite.kinds⟩
  · right
    rw [forward_of_finishing s now chunk hdestroyed hfinishing]
    have hfails : ((t.set side s).socket side.other).fails = some (t.socket side.other).destroy := by
      rw [socket_set_other, Socket.fails, hdestroyed]
      rfl
    exact (h.congr (.set hphase)).error hfails

theorem onConnected (hnot : t.connected = false) (hdestroyed : t.target.destroyed = false) :
    Lifecycle n (t.onConnected now) := by
  have hn : n = 0 := h.eq_zero (show (t.socket .target).destroyed = false from hdestroyed)
  have hphases : (t.onConnected now).phaseOf = t.phaseOf := by
    funext side
    cases side
    · exact phase_write t.client established
    · exact phase_write t.target t.head
  have hclosed : (t.onConnected now).closedSockets = t.closedSockets := by
    rw [closedSockets_eq .client, closedSockets_eq .client, hphases]
  have hkinds : (t.onConnected now).kinds = t.kinds ++ [.opened] := List.map_append ..
  constructor
  · rw [hphases]
    exact h.listening
  · rw [hkinds, h.kinds, hnot, hn]
    rfl
  · rw [hphases]
    exact h.destroyed
  · rw [hclosed]
    exact h.least
  · rw [hclosed]
    exact h.most

/-- A move makes `closeBoth` run at most once; again, only by a 'close' event. -/
theorem step (hstep : t.step (now, move) = some t') :
    (Lifecycle n t' ∧ ∀ side, move ≠ .close side) ∨
    (Lifecycle (n + 1) t' ∧ (n = 0 ∨ ∃ side, move = .close side)) := by
  cases moves_of_step hstep with
  | connected hnot hdestroyed => exact Or.inl ⟨h.onConnected hnot hdestroyed, nofun⟩
  | arrives harrives => exact Or.inl ⟨h.congr (.set (phase_arrives harrives)), nofun⟩
  | peerEnds hends => exact Or.inl ⟨h.congr (.set (phase_peerEnds hends)), nofun⟩
  | data hconnected hdata =>
    rcases h.forward hdata with hsame | ⟨hmore, hn⟩
    · exact Or.inl ⟨hsame, nofun⟩
    · exact Or.inr ⟨hmore, Or.inl hn⟩
  | ends hnot hends =>
    have hset : Quiet t (t.set _ _) := .set (phase_ends hends)
    exact Or.inl ⟨h.congr (hset.trans (.onEnd ..)), nofun⟩
  | flushed hflushed => exact Or.inl ⟨h.congr (.set (phase_flushed hflushed)), nofun⟩
  | @drained side s hdrained =>
    have hset : Quiet t (t.set side s) := .set (phase_drained hdrained)
    have hresume : Quiet (t.set side s) ((t.set side s).set side.other (t.socket side.other).resume) := by
      apply Quiet.set
      rw [phaseOf, socket_set_other]
      rfl
    exact Or.inl ⟨h.congr (hset.trans hresume), nofun⟩
  | error hfails =>
    obtain ⟨hmore, hn⟩ := h.error hfails
    exact Or.inr ⟨hmore, Or.inl hn⟩
  | close hcloses => exact Or.inr ⟨h.close hcloses, Or.inr ⟨_, rfl⟩⟩

end Lifecycle

/-- A tunnel whose sockets have closed has been torn down more than once. -/
theorem Lifecycle.two_le (h : Lifecycle n t) (hclosed : ∀ side, (t.socket side).closed = true) : 2 ≤ n := by
  have hcount : t.closedSockets = 2 := by
    rw [closedSockets, show t.client.closed = true from hclosed .client,
      show t.target.closed = true from hclosed .target]
    rfl
  exact hcount ▸ h.least

end Tunnel

/-! ### Bracketed events -/

/-- What a request may report. -/
inductive Bracket : List TunnelEventKind → Prop
  | rejected : Bracket [.rejected]
  | opened : Bracket [.opened, .closed]
  | dialFailed : Bracket [.closed]

theorem Bracket.count_le {kinds : List TunnelEventKind} (h : Bracket kinds) : kinds.count .closed ≤ 1 := by
  cases h <;> decide

/-- What the handler has made of a request: a connection, or the exception that ends the
    process. -/
abbrev Outcome := Except JsError Connection

namespace Outcome

def step : Outcome → ℕ × TunnelMove → Option Outcome
  | .ok c, move => (c.step move).map .ok
  | .error _, _ => none

def kinds : Outcome → List TunnelEventKind
  | .ok (.rejected _ events) => events.map TunnelEvent.event
  | .ok (.tunnel t) => t.kinds
  | .error _ => []

/-- No event of a socket of the request is still to come that has a listener. -/
def Finished : Outcome → Prop
  | .ok (.tunnel t) => ∀ side, (t.socket side).closed = true
  | _ => True

/-- The events can be brought to one of the brackets, and are one if no more can come. -/
def WellBracketed (o : Outcome) : Prop :=
  (∃ kinds, Bracket kinds ∧ o.kinds <+: kinds) ∧ (o.Finished → Bracket o.kinds)

/-- The move is not a 'close' of a socket that was torn down before. -/
def FirstTeardown : Outcome → ℕ × TunnelMove → Prop
  | .ok (.tunnel t), (_, .close side) => (t.socket side).destroyed = false
  | _, _ => True

/-- The invariant: one rejection, or as many closes as `closeBoth` has run. -/
def Counted : Outcome → Prop
  | .ok (.rejected client events) => kinds (.ok (.rejected client events)) = [.rejected]
  | .ok (.tunnel t) => ∃ n, t.Lifecycle n
  | .error _ => True

variable {o o' : Outcome} {t : Tunnel} {n : ℕ}

theorem wellBracketed_rejected (h : o.kinds = [.rejected]) : o.WellBracketed :=
  ⟨⟨_, .rejected, by rw [h]⟩, fun _ => by rw [h]; exact .rejected⟩

theorem wellBracketed_tunnel (h : t.Lifecycle n) : WellBracketed (.ok (.tunnel t)) ↔ n ≤ 1 := by
  constructor
  · rintro ⟨⟨kinds', hbracket, hkinds⟩, -⟩
    have hcount : (kinds (.ok (.tunnel t))).count .closed = n := by
      rw [Outcome.kinds, h.kinds]
      cases t.connected <;> simp
    rw [← hcount]
    exact (hkinds.sublist.count_le _).trans hbracket.count_le
  · intro hn
    have hfinished (hclosed : Finished (.ok (.tunnel t))) : False := by
      have htwo := h.two_le hclosed
      omega
    refine ⟨?_, fun hclosed => (hfinished hclosed).elim⟩
    obtain rfl | rfl : n = 0 ∨ n = 1 := by omega
    · refine ⟨[.opened, .closed], .opened, ?_⟩
      rw [kinds, h.kinds]
      cases t.connected <;> simp
    · cases hconnected : t.connected with
      | true =>
        refine ⟨[.opened, .closed], .opened, ?_⟩
        rw [kinds, h.kinds, hconnected]
        exact List.prefix_rfl
      | false =>
        refine ⟨[.closed], .dialFailed, ?_⟩
        rw [kinds, h.kinds, hconnected]
        exact List.prefix_rfl

theorem not_wellBracketed_error (err : JsError) : ¬ WellBracketed (.error err) := by
  rintro ⟨-, hfinished⟩
  cases hfinished trivial

/-- The sockets of a tunnel are destroyed from the first time on that `closeBoth` runs. -/
theorem firstTeardown_iff (h : t.Lifecycle n) (now : ℕ) (side : Side) :
    FirstTeardown (.ok (.tunnel t)) (now, .close side) ↔ n = 0 := by
  have hdestroyed : (t.socket side).destroyed = decide (0 < n) := h.destroyed side
  rw [FirstTeardown, hdestroyed, decide_eq_false_iff_not, Nat.not_lt, Nat.le_zero]

theorem firstTeardown_of_not_close {now : ℕ} {move : TunnelMove} (h : ∀ side, move ≠ .close side) :
    FirstTeardown o (now, move) := by
  unfold FirstTeardown
  split
  · next side hmove => exact absurd (congrArg Prod.snd hmove) (h side)
  · trivial

/-- The client of a request that was turned down moves, or the tunnel does. -/
theorem step_cases {move : ℕ × TunnelMove} (hstep : o.step move = some o') :
    (∃ client client' events, o = .ok (.rejected client events) ∧
      o' = .ok (.rejected client' events)) ∨
    ∃ t t', o = .ok (.tunnel t) ∧ o' = .ok (.tunnel t') ∧ t.step move = some t' := by
  rcases o with err | c
  · cases hstep
  obtain ⟨c', hc, rfl⟩ := Option.map_eq_some_iff.mp hstep
  cases c with
  | rejected client events =>
    obtain ⟨client', rfl⟩ := Connection.rejected_step hc
    exact Or.inl ⟨client, client', events, rfl, rfl⟩
  | tunnel t =>
    obtain ⟨t', ht, rfl⟩ := Option.map_eq_some_iff.mp hc
    exact Or.inr ⟨t, t', rfl, rfl, ht⟩

theorem counted_step {move : ℕ × TunnelMove} (h : o.Counted) (hstep : o.step move = some o') :
    o'.Counted := by
  obtain ⟨now, move⟩ := move
  rcases step_cases hstep with ⟨client, client', events, rfl, rfl⟩ | ⟨t, t', rfl, rfl, ht⟩
  · exact h
  · obtain ⟨n, hn⟩ := h
    rcases hn.step ht with ⟨hsame, -⟩ | ⟨hmore, -⟩
    · exact ⟨n, hsame⟩
    · exact ⟨n + 1, hmore⟩

theorem wellBracketed_step {move : ℕ × TunnelMove} (h : o.Counted) (hstep : o.step move = some o') :
    o'.WellBracketed ↔ o.WellBracketed ∧ o.FirstTeardown move := by
  obtain ⟨now, move⟩ := move
  rcases step_cases hstep with ⟨client, client', events, rfl, rfl⟩ | ⟨t, t', rfl, rfl, ht⟩
  · exact iff_of_true (wellBracketed_rejected h) ⟨wellBracketed_rejected h, trivial⟩
  · obtain ⟨n, hn⟩ := h
    rw [wellBracketed_tunnel hn]
    rcases hn.step ht with ⟨hsame, hnot⟩ | ⟨hmore, hfirst⟩
    · rw [wellBracketed_tunnel hsame, and_iff_left (firstTeardown_of_not_close hnot)]
    · rw [wellBracketed_tunnel hmore]
      by_cases hclose : ∃ side, move = .close side
      · obtain ⟨side, rfl⟩ := hclose
        rw [firstTeardown_iff hn]
        omega
      · have hzero := hfirst.resolve_right hclose
        rw [and_iff_left (firstTeardown_of_not_close (not_exists.mp hclose))]
        omega

/-- The handler has turned the request down. -/
def Rejected : Outcome → Prop
  | .ok (.rejected ..) => True
  | _ => False

theorem rejected_step {move : ℕ × TunnelMove} (hstep : o.step move = some o') : o'.Rejected ↔ o.Rejected := by
  rcases step_cases hstep with ⟨client, client', events, rfl, rfl⟩ | ⟨t, t', rfl, rfl, -⟩
  · exact Iff.rfl
  · exact Iff.rfl

/-- In the end the events are a bracket for the requests that were turned down, only. -/
theorem wellBracketed_of_finished (h : o.Counted) (hfinished : o.Finished) :
    o.WellBracketed ↔ o.Rejected := by
  rcases o with err | client | t
  · exact iff_of_false (not_wellBracketed_error err) id
  · exact iff_of_true (wellBracketed_rejected h) trivial
  · obtain ⟨n, hn⟩ := h
    have htwo := hn.two_le hfinished
    rw [wellBracketed_tunnel hn]
    exact iff_of_false (by omega) id

end Outcome

section Requests

variable {server : TunnelServer} {sign : Sign} {highWaterMark now : ℕ} {req : ConnectRequest} {head : Bytes}

theorem onConnect_of_rejects {effects : List Effect} (h : server.connect sign now req = .ok effects)
    (hrejects : Rejects effects) : ∃ client events,
      server.onConnect sign highWaterMark now req head = .ok (.rejected client events) ∧
      events.map TunnelEvent.event = [.rejected] := by
  obtain ⟨event, status, rfl, hevent, -⟩ := hrejects
  rw [onConnect_of_connect h]
  exact ⟨_, _, rfl, congrArg (fun kind => [kind]) hevent⟩

theorem counted_dial (port : ℤ) (host : List Char) : Tunnel.Lifecycle 0
    (.dial req head highWaterMark port host (.fresh highWaterMark) []) where
  listening side := by cases side <;> rfl
  kinds := rfl
  destroyed side := by cases side <;> rfl
  least := Nat.le_refl 0
  most := Nat.zero_le 1

theorem counted_onConnect : Outcome.Counted (server.onConnect sign highWaterMark now req head) := by
  rcases connect_cases server sign now req with
    ⟨effects, hok, hrejects⟩ | ⟨_, _, port, host, _, _, _, hok⟩ | ⟨_, err, _, herr, _⟩
  · obtain ⟨client, events, hconnect, hkinds⟩ := onConnect_of_rejects hok hrejects
    rw [hconnect]
    exact hkinds
  · rw [onConnect_of_connect hok]
    exact ⟨0, counted_dial port host⟩
  · rw [TunnelServer.onConnect, herr]
    trivial

theorem wellBracketed_onConnect :
    Outcome.WellBracketed (server.onConnect sign highWaterMark now req head) ↔
      ¬ (req.WellFormed ∧ req.Broken sign server.secret now) := by
  rw [← throws_iff]
  rcases connect_cases server sign now req with
    ⟨effects, hok, hrejects⟩ | ⟨_, _, port, host, _, _, _, hok⟩ | ⟨_, err, _, herr, _⟩
  · obtain ⟨client, events, hconnect, hkinds⟩ := onConnect_of_rejects hok hrejects
    rw [hconnect, hok]
    exact iff_of_true (Outcome.wellBracketed_rejected hkinds) nofun
  · rw [onConnect_of_connect hok, hok]
    exact iff_of_true ((Outcome.wellBracketed_tunnel (counted_dial port host)).mpr (Nat.zero_le 1)) nofun
  · rw [TunnelServer.onConnect, herr]
    exact iff_of_false (Outcome.not_wellBracketed_error err) (not_not.mpr ⟨err, rfl⟩)

/-- Which requests are turned down. -/
theorem rejected_onConnect_iff : Outcome.Rejected (server.onConnect sign highWaterMark now req head) ↔
    ¬ (req.WellFormed ∧ (req.Broken sign server.secret now ∨
      ∃ token, req.token = some token ∧ server.Authorizes sign now token)) := by
  rcases connect_cases server sign now req with
    ⟨effects, hok, hrejects⟩ | ⟨token, payload, port, host, htoken, hverify, hrelay, hok⟩ |
    ⟨_, err, _, herr, _⟩
  · obtain ⟨client, events, hconnect, -⟩ := onConnect_of_rejects hok hrejects
    rw [hconnect]
    refine iff_of_true trivial ?_
    rintro ⟨hform, hbroken | ⟨token, htoken, hauth⟩⟩
    · obtain ⟨err, herr⟩ := throws_iff.mpr ⟨hform, hbroken⟩
      cases hok.symm.trans herr
    · obtain ⟨port, hport⟩ := hform
      obtain ⟨event, status, rfl, -⟩ := hrejects
      cases hok.symm.trans (connect_of_port hauth htoken hport)
  · rw [onConnect_of_connect hok]
    refine iff_of_false id (not_not.mpr ⟨⟨port, ?_⟩, Or.inr ⟨token, htoken, payload, hverify, hrelay⟩⟩)
    exact (target_of_dial hok).1
  · obtain ⟨hform, hbroken⟩ := throws_iff.mp ⟨err, herr⟩
    rw [TunnelServer.onConnect, herr]
    exact iff_of_false id (not_not.mpr ⟨hform, Or.inl hbroken⟩)

/-- **When the events of a request are well bracketed**: as long as no socket closes that was
    torn down before, which both do in the end. -/
theorem events_bracketed_iff {moves : List (ℕ × TunnelMove)} {o : Outcome}
    (hrun : run Outcome.step (server.onConnect sign highWaterMark now req head) moves = some o) :
    (o.WellBracketed ↔ ¬ (req.WellFormed ∧ req.Broken sign server.secret now) ∧
      AllMoves Outcome.step Outcome.FirstTeardown (server.onConnect sign highWaterMark now req head) moves) ∧
    (o.Finished → (o.WellBracketed ↔ ¬ (req.WellFormed ∧ (req.Broken sign server.secret now ∨
      ∃ token, req.token = some token ∧ server.Authorizes sign now token)))) := by
  constructor
  · have hiff := run_good_iff (I := Outcome.Counted) (P := Outcome.WellBracketed)
      (fun h hstep => Outcome.counted_step h hstep)
      (fun h hstep => Outcome.wellBracketed_step h hstep) hrun counted_onConnect
    rw [hiff, wellBracketed_onConnect]
  · intro hfinished
    obtain ⟨hcounted, hrejected⟩ := run_keeps
      (I := fun o => o.Counted ∧
        (o.Rejected ↔ Outcome.Rejected (server.onConnect sign highWaterMark now req head)))
      (fun h hstep => ⟨Outcome.counted_step h.1 hstep, (Outcome.rejected_step hstep).trans h.2⟩)
      hrun ⟨counted_onConnect, Iff.rfl⟩
    rw [Outcome.wellBracketed_of_finished hcounted hfinished, hrejected, rejected_onConnect_iff]

end Requests

/-- A tunnel whose dial fails: the error of the socket, and the two closes. -/
def failedDial : List (ℕ × TunnelMove) :=
  [(1000000001001, .error .target), (1000000001002, .close .target), (1000000001003, .close .client)]

theorem events_bracketed_iff_failedDial : ∃ o,
    run Outcome.step (sampleServer.onConnect sampleSign 16384 1000000001000 sampleRequest []) failedDial = some o ∧
    (o.WellBracketed ↔ ¬ (sampleRequest.WellFormed ∧
        sampleRequest.Broken sampleSign sampleServer.secret 1000000001000) ∧
      AllMoves Outcome.step Outcome.FirstTeardown
        (sampleServer.onConnect sampleSign 16384 1000000001000 sampleRequest []) failedDial) ∧
    (o.Finished → (o.WellBracketed ↔ ¬ (sampleRequest.WellFormed ∧
      (sampleRequest.Broken sampleSign sampleServer.secret 1000000001000 ∨
        ∃ token, sampleRequest.token = some token ∧
          sampleServer.Authorizes sampleSign 1000000001000 token)))) := by
  have hrun : ∃ o, run Outcome.step
      (sampleServer.onConnect sampleSign 16384 1000000001000 sampleRequest []) failedDial = some o := by
    rw [onConnect_sample]
    exact ⟨_, rfl⟩
  obtain ⟨o, ho⟩ := hrun
  exact ⟨o, ho, events_bracketed_iff ho⟩

theorem closed_three_times : ∃ o,
    run Outcome.step (sampleServer.onConnect sampleSign 16384 1000000001000 sampleRequest []) failedDial = some o ∧
    o.Finished ∧ o.kinds = [.closed, .closed, .closed] ∧ ¬ o.WellBracketed := by
  rw [onConnect_sample]
  refine ⟨_, rfl, ?_, rfl, ?_⟩
  · intro side
    cases side <;> rfl
  · rintro ⟨⟨kinds, hbracket, hkinds⟩, -⟩
    have hcount := (hkinds.sublist.count_le .closed).trans hbracket.count_le
    exact absurd hcount (by decide)

end DVoD.Relay
