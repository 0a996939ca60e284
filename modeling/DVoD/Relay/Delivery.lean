import DVoD.Relay.Tunnel

/-!
# What a tunnel delivers

Between two peers that end their sides cleanly, a tunnel loses bytes only where it is torn
down.  `Intact` is the invariant of its two pipes, and `delivers_iff` says in which runs
everything arrives.
-/

namespace DVoD.Relay

open DVoD.Machine DVoD.Net DVoD.Session

/-! ### The invariant -/

section Holds

variable {first chunk : Bytes} {connected halfOpen : Bool} {s s' o o' : Socket UInt8} {n : ℕ}

/-- What holds of the socket `s` of a tunnel, where `o` is the other one. -/
structure Holds (first : Bytes) (connected halfOpen : Bool) (s o : Socket UInt8) : Prop where
  onError : s.onError = true
  onClose : s.onClose = true
  carries : Carries first o s
  atEnd : s.AtEnd
  finishing : s.finishing = true → o.ended = true ∨ halfOpen = false ∧ s.ended = true
  unconnected : connected = false → s.read = [] ∧ s.destroyed = false ∧ (halfOpen = false → s.ended = false)

namespace Holds

variable (h : Holds first connected halfOpen s o)

include h

theorem congr_other (hread : o'.read = o.read) (hended : o.ended = true → o'.ended = true) :
    Holds first connected halfOpen s o' where
  onError := h.onError
  onClose := h.onClose
  carries := h.carries.congr hread rfl rfl rfl
  atEnd := h.atEnd
  finishing hfinishing := (h.finishing hfinishing).imp_left hended
  unconnected := h.unconnected

theorem arrives {bytes : Bytes} (harrives : s.arrives bytes = some s') :
    Holds first connected halfOpen s' o := by
  obtain ⟨-, hpeer, rfl⟩ := Socket.arrives_eq_some harrives
  exact {
    onError := h.onError
    onClose := h.onClose
    carries := h.carries.congr rfl rfl rfl rfl
    atEnd := fun hended => nomatch hpeer.symm.trans (h.atEnd hended).1
    finishing := h.finishing
    unconnected := h.unconnected }

theorem peerEnds (hends : s.peerEnds = some s') : Holds first connected halfOpen s' o := by
  obtain ⟨-, hpeer, rfl⟩ := Socket.peerEnds_eq_some hends
  exact {
    onError := h.onError
    onClose := h.onClose
    carries := h.carries.congr rfl rfl rfl rfl
    atEnd := fun hended => nomatch hpeer.symm.trans (h.atEnd hended).1
    finishing := h.finishing
    unconnected := h.unconnected }

theorem flushed (hflushed : s.flushed n = some s') : Holds first connected halfOpen s' o := by
  have hcarries := h.carries.flushed hflushed
  obtain ⟨-, -, heq⟩ := Socket.flushed_eq_some hflushed
  rw [heq] at hcarries ⊢
  exact ⟨h.onError, h.onClose, hcarries, h.atEnd, h.finishing, h.unconnected⟩

theorem drained (hdrained : s.drained = some s') : Holds first connected halfOpen s' o := by
  obtain ⟨-, rfl⟩ := Socket.drained_eq_some hdrained
  exact ⟨h.onError, h.onClose, h.carries.congr rfl rfl rfl rfl, h.atEnd, h.finishing, h.unconnected⟩

theorem setPaused (paused : Bool) : Holds first connected halfOpen { s with paused := paused } o :=
  ⟨h.onError, h.onClose, h.carries.congr rfl rfl rfl rfl, h.atEnd, h.finishing, h.unconnected⟩

theorem setFinishing (ended : Bool) (hended : ended = true → o.ended = true) :
    Holds first connected halfOpen { s with finishing := s.finishing || ended } o := by
  refine ⟨h.onError, h.onClose, h.carries.congr rfl rfl rfl rfl, h.atEnd, ?_, h.unconnected⟩
  intro hfinishing
  rcases (Bool.or_eq_true ..).mp hfinishing with hself | hother
  · exact h.finishing hself
  · exact Or.inl (hended hother)

theorem setClosed (closed : Bool) : Holds first connected halfOpen { s with closed := closed } o :=
  ⟨h.onError, h.onClose, h.carries.congr rfl rfl rfl rfl, h.atEnd, h.finishing, h.unconnected⟩

/-- The client may end before the target is connected. -/
theorem ends (hends : s.ends = some s') (hhalf : connected = false → halfOpen = true) :
    Holds first connected halfOpen s' o := by
  obtain ⟨-, hpeer, hunread, rfl⟩ := Socket.ends_eq_some hends
  exact {
    onError := h.onError
    onClose := h.onClose
    carries := h.carries.congr rfl rfl rfl rfl
    atEnd := fun _ => ⟨hpeer, hunread⟩
    finishing := fun hfinishing => (h.finishing hfinishing).imp_right fun hself => ⟨hself.1, rfl⟩
    unconnected := fun hnot =>
      ⟨(h.unconnected hnot).1, (h.unconnected hnot).2.1, fun hno => nomatch (hhalf hnot).symm.trans hno⟩ }

theorem finish (hended : o.ended = true ∨ halfOpen = false ∧ s.ended = true) :
    Holds first connected halfOpen s.finish o :=
  ⟨h.onError, h.onClose, h.carries.congr rfl rfl rfl rfl, h.atEnd, fun _ => hended, h.unconnected⟩

end Holds

/-- The first bytes are written. -/
theorem Holds.opened (h : Holds [] false halfOpen s o) (hread : o.read = []) (bytes : Bytes) :
    Holds bytes true halfOpen (s.write bytes) o := by
  obtain ⟨-, hdestroyed, -⟩ := h.unconnected rfl
  have hwritten : s.sent ++ s.pending = [] := (h.carries.given hdestroyed).trans hread
  have hcarries : Carries bytes o (s.write bytes) := Carries.opened hread hdestroyed hwritten
  rw [Socket.write_of_not_destroyed hdestroyed] at hcarries ⊢
  exact ⟨h.onError, h.onClose, hcarries, h.atEnd, h.finishing, fun hnot => nomatch hnot⟩

section Connected

variable (h : Holds first true halfOpen s o)

include h

theorem Holds.destroy : Holds first true halfOpen s.destroy o :=
  ⟨h.onError, h.onClose, h.carries.destroy, h.atEnd, h.finishing, fun hnot => nomatch hnot⟩

/-- A chunk is read from `s`. -/
theorem Holds.data (hdata : s.data n = some (chunk, s')) : Holds first true halfOpen s' o := by
  obtain ⟨-, hunread, -, -, heq⟩ := Socket.data_eq_some hdata
  have hended : s.ended ≠ true := fun hended => hunread (h.atEnd hended).2
  rw [heq]
  exact {
    onError := h.onError
    onClose := h.onClose
    carries := h.carries.congr rfl rfl rfl rfl
    atEnd := fun h => absurd h hended
    finishing := h.finishing
    unconnected := fun hnot => nomatch hnot }

/-- A chunk is read from `o`, and written to `s`. -/
theorem Holds.write (hdata : o.data n = some (chunk, o')) (hdestroyed : s.destroyed = false) :
    Holds first true halfOpen (s.write chunk) o' := by
  have hcarries := h.carries.data hdata hdestroyed
  obtain ⟨-, -, -, -, heq⟩ := Socket.data_eq_some hdata
  have hended : o'.ended = o.ended := by rw [heq]
  rw [Socket.write_of_not_destroyed hdestroyed] at hcarries ⊢
  refine ⟨h.onError, h.onClose, hcarries, h.atEnd, ?_, fun hnot => nomatch hnot⟩
  rw [hended]
  exact h.finishing

/-- A chunk is read from `o`, and dropped with `s`. -/
theorem Holds.dropped (hdata : o.data n = some (chunk, o')) : Holds first true halfOpen s.destroy o' := by
  have hcarries := h.carries.dropped hdata
  obtain ⟨-, -, -, -, heq⟩ := Socket.data_eq_some hdata
  have hended : o'.ended = o.ended := by rw [heq]
  refine ⟨h.onError, h.onClose, hcarries, h.atEnd, ?_, fun hnot => nomatch hnot⟩
  rw [hended]
  exact h.finishing

end Connected

end Holds

namespace Tunnel

/-- What the peer on a side is sent before the bytes of the other peer. -/
def first (head : Bytes) (t : Tunnel) (side : Side) : Bytes :=
  if t.connected then
    match side with
    | .client => established
    | .target => head
  else []

structure Intact (head : Bytes) (t : Tunnel) : Prop where
  head_eq : t.head = head
  holds : ∀ side, Holds (t.first head side) t.connected side.allowHalfOpen (t.socket side)
    (t.socket side.other)
  destroyed : t.client.destroyed = t.target.destroyed

section Sockets

variable {head : Bytes} {t : Tunnel} {side : Side} {s o : Socket UInt8}

@[simp] theorem first_set (head : Bytes) (t : Tunnel) (side : Side) (s : Socket UInt8) :
    (t.set side s).first head = t.first head := by
  cases side <;> rfl

theorem holds_of_both (side : Side)
    (hself : Holds (t.first head side) t.connected side.allowHalfOpen (t.socket side)
      (t.socket side.other))
    (hother : Holds (t.first head side.other) t.connected side.other.allowHalfOpen
      (t.socket side.other) (t.socket side)) (side' : Side) :
    Holds (t.first head side') t.connected side'.allowHalfOpen (t.socket side')
      (t.socket side'.other) := by
  rcases eq_or_ne side' side with rfl | hne
  · exact hself
  · obtain rfl := Side.eq_other_of_ne hne
    rwa [Side.other_other]

theorem intact_of_both (side : Side) (hhead : t.head = head)
    (hself : Holds (t.first head side) t.connected side.allowHalfOpen (t.socket side)
      (t.socket side.other))
    (hother : Holds (t.first head side.other) t.connected side.other.allowHalfOpen
      (t.socket side.other) (t.socket side))
    (hdestroyed : (t.socket side).destroyed = (t.socket side.other).destroyed) : Intact head t := by
  refine ⟨hhead, holds_of_both side hself hother, ?_⟩
  cases side
  · exact hdestroyed
  · exact hdestroyed.symm

theorem intact_closeBoth (side : Side) (hhead : t.head = head) (hconnected : t.connected = true)
    (hself : Holds (t.first head side) true side.allowHalfOpen (t.socket side) (t.socket side.other))
    (hother : Holds (t.first head side.other) true side.other.allowHalfOpen
      (t.socket side.other) (t.socket side)) : Intact head t.closeBoth := by
  have hfirst : t.closeBoth.first head = t.first head := rfl
  have hconnected' : t.closeBoth.connected = true := hconnected
  apply intact_of_both side
  · exact hhead
  · rw [hfirst, hconnected', socket_closeBoth, socket_closeBoth]
    exact hself.destroy.congr_other rfl id
  · rw [hfirst, hconnected', socket_closeBoth, socket_closeBoth]
    exact hother.destroy.congr_other rfl id
  · rw [socket_closeBoth, socket_closeBoth]
    rfl

section Intact

variable (h : Intact head t)

include h

theorem Intact.other (side : Side) : Holds (t.first head side.other) t.connected side.other.allowHalfOpen
    (t.socket side.other) (t.socket side) := by
  have hholds := h.holds side.other
  rwa [Side.other_other] at hholds

theorem Intact.destroyed_eq (side : Side) :
    (t.socket side).destroyed = (t.socket side.other).destroyed := by
  cases side
  · exact h.destroyed
  · exact h.destroyed.symm

/-- One socket changes, and has read nothing meanwhile. -/
theorem Intact.set (side : Side) (hself : Holds (t.first head side) t.connected side.allowHalfOpen s
      (t.socket side.other)) (hread : s.read = (t.socket side).read)
    (hended : (t.socket side).ended = true → s.ended = true)
    (hdestroyed : s.destroyed = (t.socket side).destroyed) : Intact head (t.set side s) := by
  apply intact_of_both side
  · rw [head_set, h.head_eq]
  · simpa using hself
  · simpa using (h.other side).congr_other hread hended
  · simpa [hdestroyed] using h.destroyed_eq side

/-- Both sockets change. -/
theorem Intact.set_set
    (hself : Holds (t.first head side) t.connected side.allowHalfOpen s o)
    (hother : Holds (t.first head side.other) t.connected side.other.allowHalfOpen o s)
    (hdestroyed : s.destroyed = o.destroyed) : Intact head ((t.set side s).set side.other o) := by
  have hset : ((t.set side s).set side.other o).socket side = s := by cases side <;> rfl
  apply intact_of_both side
  · rw [head_set, head_set, h.head_eq]
  · simpa [hset] using hself
  · simpa [hset] using hother
  · simpa [hset] using hdestroyed

end Intact

end Sockets

/-! ### Moves between peers that end cleanly -/

/-- No connection breaks, and the client does not close first. -/
def Clean (t : Tunnel) : ℕ × TunnelMove → Prop
  | (_, .error _) => False
  | (_, .close .client) => t.client.destroyed = true
  | _ => True

section Step

variable {head chunk : Bytes} {t t' : Tunnel} {side : Side} {s : Socket UInt8} {n : ℕ}

theorem Intact.onConnected (h : Intact head t) (hnot : t.connected = false) (now : ℕ) :
    Intact head (t.onConnected now) := by
  have hfirst (side : Side) : t.first head side = [] := by
    simp [first, hnot]
  have hholds (side : Side) (bytes : Bytes) : Holds bytes true side.allowHalfOpen
      ((t.socket side).write bytes) (t.socket side.other) := by
    have hside := h.holds side
    have hread := (h.holds side.other).unconnected hnot
    rw [hfirst, hnot] at hside
    exact hside.opened hread.1 bytes
  apply intact_of_both .client
  · exact h.head_eq
  · exact ((hholds .client established).setPaused _).congr_other (Socket.read_write ..)
      fun hended => (Socket.ended_write ..).trans hended
  · rw [← h.head_eq]
    have hended : (t.client.write established).ended = true → t.client.ended = true :=
      fun hended => (Socket.ended_write ..).symm.trans hended
    have htarget := ((hholds .target t.head).setPaused (t.client.write established).needDrain).setFinishing
      (t.client.write established).ended hended
    exact htarget.congr_other (Socket.read_write ..) fun hended => (Socket.ended_write ..).trans hended
  · exact (Socket.destroyed_write ..).trans (h.destroyed.trans (Socket.destroyed_write ..).symm)

theorem Intact.forward (h : Intact head t) (hconnected : t.connected = true)
    (hdata : (t.socket side).data n = some (chunk, s)) (now : ℕ) :
    Intact head ((t.set side s).forward now side chunk) := by
  have hself := h.holds side
  have hother := h.other side
  rw [hconnected] at hself hother
  have hdestroyed : (t.socket side.other).destroyed = false := by
    rw [← h.destroyed_eq side]
    exact (Socket.data_eq_some hdata).1
  have hopen : s.destroyed = false := by
    rw [(Socket.data_eq_some hdata).2.2.2.2]
    exact (Socket.data_eq_some hdata).1
  rcases hfinishing : (t.socket side.other).finishing with _ | _
  · obtain ⟨paused, heq⟩ := forward_of_open s now chunk hdestroyed hfinishing
    rw [heq]
    have hset : Intact head ((t.set side { s with paused := paused }).set side.other
        ((t.socket side.other).write chunk)) := by
      apply h.set_set
      · rw [hconnected]
        exact ((hself.data hdata).setPaused paused).congr_other (Socket.read_write ..)
          fun hended => (Socket.ended_write ..).trans hended
      · rw [hconnected]
        exact (hother.write hdata hdestroyed).congr_other rfl id
      · rw [Socket.destroyed_write, hdestroyed]
        exact hopen
    exact ⟨hset.head_eq, hset.holds, hset.destroyed⟩
  · have hlisten : (((t.set side s).set side.other (t.socket side.other).destroy).socket
        side.other).onError = true := by
      rw [socket_set_self]
      exact hother.onError
    rw [forward_of_finishing s now chunk hdestroyed hfinishing, emitError_of_listening hlisten]
    apply intact_closeBoth side
    · simpa using h.head_eq
    · simpa using hconnected
    · rw [socket_set_set, socket_set_self, first_set, first_set]
      exact (hself.data hdata).congr_other rfl id
    · rw [socket_set_set, socket_set_self, first_set, first_set]
      exact hother.dropped hdata

theorem Intact.onEnd_connected (h : Intact head t) (hconnected : t.connected = true)
    (hends : (t.socket side).ends = some s) : Intact head ((t.set side s).onEnd side) := by
  obtain ⟨-, -, -, hended⟩ := Socket.ends_eq_some hends
  have hself := h.holds side
  have hother := h.other side
  rw [hconnected] at hself hother
  have hself' : Holds (t.first head side) true side.allowHalfOpen s (t.socket side.other).finish :=
    (hself.ends hends nofun).congr_other rfl id
  have hother' : Holds (t.first head side.other) true side.other.allowHalfOpen (t.socket side.other) s :=
    hother.congr_other (by rw [hended]) (by simp [hended])
  have hset : Intact head ((t.set side s).set side.other (t.socket side.other).finish) := by
    apply h.set_set
    · rw [hconnected]
      exact hself'
    · rw [hconnected]
      exact hother'.finish (Or.inl (by rw [hended]))
    · rw [hended]
      exact h.destroyed_eq side
  cases side with
  | client =>
    have hclient : (t.set .client s).onEnd .client = (t.set .client s).set .target t.target.finish :=
      if_pos hconnected
    rw [hclient]
    exact hset
  | target =>
    have htarget : (t.set .target s).onEnd .target =
        ((t.set .target s).set .client t.client.finish).set .target s.finish := if_pos hconnected
    rw [htarget]
    apply hset.set .target
    · exact (hset.holds .target).finish (Or.inr ⟨rfl, by rw [hended]; rfl⟩)
    · rfl
    · exact id
    · rfl

/-- A client that ends before the target is connected is heard only then. -/
theorem Intact.onEnd (h : Intact head t) (hside : ¬ (side = .target ∧ ¬ t.connected))
    (hends : (t.socket side).ends = some s) : Intact head ((t.set side s).onEnd side) := by
  rcases hconnected : t.connected with _ | _
  · have hnot : ¬ (t.connected = true) := by rw [hconnected]; exact Bool.false_ne_true
    cases side with
    | target => exact absurd ⟨rfl, hnot⟩ hside
    | client =>
      have hwaits : (t.set .client s).onEnd .client = t.set .client s := if_neg hnot
      have hended := (Socket.ends_eq_some hends).2.2.2
      rw [hwaits]
      exact h.set .client ((h.holds .client).ends hends fun _ => rfl) (by rw [hended]) (by simp [hended])
        (by rw [hended])
  · exact h.onEnd_connected hconnected hends

theorem Intact.emitClose (h : Intact head t) (hconnected : t.connected = true)
    (hcloses : (t.socket side).closes = some s) : Intact head ((t.set side s).emitClose side) := by
  obtain ⟨-, rfl⟩ := Socket.closes_eq_some hcloses
  have hself := h.holds side
  have hother := h.other side
  rw [hconnected] at hself hother
  have hlisten : ((t.set side { (t.socket side).destroy with closed := true }).socket side).onClose =
      true := by
    rw [socket_set_self]
    exact hself.onClose
  rw [emitClose_of_listening hlisten]
  apply intact_closeBoth side
  · simpa using h.head_eq
  · simpa using hconnected
  · rw [socket_set_self, socket_set_other, first_set]
    exact hself.destroy.setClosed true
  · rw [socket_set_self, socket_set_other, first_set]
    exact hother.congr_other rfl id

/-- Before a socket closes in a clean run, the target was connected. -/
theorem Intact.connected_of_closes (h : Intact head t) (hcloses : (t.socket side).closes = some s) :
    t.connected = true := by
  by_contra hnot
  rw [Bool.not_eq_true] at hnot
  have hended : t.target.ended = false := ((h.holds .target).unconnected hnot).2.2 rfl
  rcases (Socket.closes_eq_some hcloses).1 with htorn | ⟨hboth, hfinishing, -⟩
  · cases ((h.holds side).unconnected hnot).2.1.symm.trans htorn
  · cases side with
    | client =>
      rcases (h.holds .client).finishing hfinishing with hother | ⟨hhalf, -⟩
      · cases hended.symm.trans hother
      · cases hhalf
    | target => cases hended.symm.trans hboth

theorem Intact.step {move : ℕ × TunnelMove} (h : Intact head t) (hclean : Clean t move)
    (hstep : t.step move = some t') : Intact head t' := by
  obtain ⟨now, move⟩ := move
  cases moves_of_step hstep with
  | connected hnot => exact h.onConnected hnot now
  | @arrives side bytes s harrives =>
    have heq := (Socket.arrives_eq_some harrives).2.2
    exact h.set side ((h.holds side).arrives harrives) (by rw [heq]) (by simp [heq]) (by rw [heq])
  | @peerEnds side s hends =>
    have heq := (Socket.peerEnds_eq_some hends).2.2
    exact h.set side ((h.holds side).peerEnds hends) (by rw [heq]) (by simp [heq]) (by rw [heq])
  | data hconnected hdata => exact h.forward hconnected hdata now
  | ends hside hends => exact h.onEnd hside hends
  | @flushed side n s hflushed =>
    have heq := (Socket.flushed_eq_some hflushed).2.2
    exact h.set side ((h.holds side).flushed hflushed) (by rw [heq]) (by rw [heq]; exact id) (by rw [heq])
  | @drained side s hdrained =>
    obtain rfl := (Socket.drained_eq_some hdrained).2
    apply h.set_set
    · exact ((h.holds side).drained hdrained).congr_other rfl id
    · exact ((h.other side).setPaused false).congr_other rfl id
    · exact h.destroyed_eq side
  | error => exact hclean.elim
  | close hcloses => exact h.emitClose (h.connected_of_closes hcloses) hcloses

end Step

/-! ### Torn tunnels -/

/-- Once a tunnel is torn down, its client was sent all that the target had sent, and the
    target all that the client had, if that has ended its side. -/
structure Delivered (head : Bytes) (t : Tunnel) : Prop where
  toClient : t.client.destroyed = true → t.client.sent = established ++ t.target.arrived
  toTarget : t.client.destroyed = true → t.client.peerEnded = true →
    t.target.sent = head ++ t.client.arrived

/-- The move tears the tunnel down: the target's socket closes, or the client's next bytes
    are read although the target's socket has been ended. -/
def Tears (t : Tunnel) : ℕ × TunnelMove → Prop
  | (_, .close .target) => t.client.destroyed = false
  | (_, .data .client _) => t.target.finishing = true
  | _ => False

/-- The move does not tear the tunnel down while bytes for the client are pending, or bytes
    of a client that has ended its side are unread. -/
def InTime (t : Tunnel) (move : ℕ × TunnelMove) : Prop :=
  t.Tears move → t.client.pending = [] ∧ (t.client.peerEnded = true → t.client.unread = [])

structure SameBytes (t t' : Tunnel) : Prop where
  sent : ∀ side, (t'.socket side).sent = (t.socket side).sent
  arrived : ∀ side, (t'.socket side).arrived = (t.socket side).arrived
  peerEnded : ∀ side, (t'.socket side).peerEnded = (t.socket side).peerEnded

section Torn

variable {head chunk : Bytes} {t t' : Tunnel} {move : ℕ × TunnelMove} {side : Side} {s : Socket UInt8}
  {n : ℕ}

theorem delivered_of_open (h : t.client.destroyed = false) : Delivered head t where
  toClient htorn := nomatch h.symm.trans htorn
  toTarget htorn := nomatch h.symm.trans htorn

theorem SameBytes.delivered_iff (h : SameBytes t t') (htorn : t'.client.destroyed = true) :
    Delivered head t' ↔ t.client.sent = established ++ t.target.arrived ∧
      (t.client.peerEnded = true → t.target.sent = head ++ t.client.arrived) := by
  have hsent : t'.client.sent = t.client.sent := h.sent .client
  have hsent' : t'.target.sent = t.target.sent := h.sent .target
  have harrived : t'.client.arrived = t.client.arrived := h.arrived .client
  have harrived' : t'.target.arrived = t.target.arrived := h.arrived .target
  have hpeer : t'.client.peerEnded = t.client.peerEnded := h.peerEnded .client
  rw [← hsent, ← hsent', ← harrived, ← harrived', ← hpeer]
  exact ⟨fun h => ⟨h.toClient htorn, h.toTarget htorn⟩, fun h => ⟨fun _ => h.1, fun _ => h.2⟩⟩

/-- **What a tear-down loses**: the bytes that were pending for the client, and those of
    the client that were unread. -/
theorem Intact.delivered_iff (h : Intact head t) (hopen : t.client.destroyed = false)
    (hended : t.target.ended = true) (hlast : t.target.pending = [] ∨ t.client.unread ≠ []) :
    (t.client.sent = established ++ t.target.arrived ∧
      (t.client.peerEnded = true → t.target.sent = head ++ t.client.arrived)) ↔
    t.client.pending = [] ∧ (t.client.peerEnded = true → t.client.unread = []) := by
  have hconnected : t.connected = true := by
    by_contra hnot
    rw [Bool.not_eq_true] at hnot
    cases hended.symm.trans (((h.holds .target).unconnected hnot).2.2 rfl)
  have hclient : t.client.sent ++ t.client.pending = established ++ t.target.read := by
    have hgiven := (h.holds .client).carries.given hopen
    rwa [first, hconnected] at hgiven
  have htarget : t.target.sent ++ t.target.pending = head ++ t.client.read := by
    have hgiven := (h.holds .target).carries.given (h.destroyed.symm.trans hopen)
    rwa [first, hconnected] at hgiven
  have hunread : t.target.unread = [] := ((h.holds .target).atEnd hended).2
  have hread : t.target.arrived = t.target.read := by
    rw [Socket.arrived, hunread, List.append_nil]
  apply and_congr
  · rw [hread, ← hclient]
    exact List.self_eq_append_right
  · apply imp_congr_right
    intro _
    rw [Socket.arrived, ← List.append_assoc, ← htarget, List.append_assoc, List.self_eq_append_right,
      List.append_eq_nil_iff]
    refine ⟨And.right, fun hunread => ⟨?_, hunread⟩⟩
    exact hlast.resolve_right fun hne => hne hunread

theorem Intact.close_sameBytes (h : Intact head t) (hcloses : (t.socket side).closes = some s) :
    SameBytes t ((t.set side s).emitClose side) ∧
      ((t.set side s).emitClose side).client.destroyed = true := by
  obtain ⟨-, rfl⟩ := Socket.closes_eq_some hcloses
  have hlisten : ((t.set side { (t.socket side).destroy with closed := true }).socket side).onClose =
      true := by
    rw [socket_set_self]
    exact (h.holds side).onClose
  rw [emitClose_of_listening hlisten]
  refine ⟨⟨?_, ?_, ?_⟩, rfl⟩
  · intro side'
    cases side <;> cases side' <;> rfl
  · intro side'
    cases side <;> cases side' <;> rfl
  · intro side'
    cases side <;> cases side' <;> rfl

/-- Bytes of the client that are read too late. -/
theorem Intact.data_sameBytes (h : Intact head t) (hfinishing : t.target.finishing = true)
    (hdata : (t.socket .client).data n = some (chunk, s)) (now : ℕ) :
    SameBytes t ((t.set .client s).forward now .client chunk) ∧
      ((t.set .client s).forward now .client chunk).client.destroyed = true := by
  obtain ⟨hopen, -, -, -, heq⟩ := Socket.data_eq_some hdata
  have hdestroyed : t.target.destroyed = false := h.destroyed.symm.trans hopen
  have hlisten : (((t.set .client s).set .target t.target.destroy).socket .target).onError = true :=
    (h.holds .target).onError
  have hforward : (t.set .client s).forward now .client chunk =
      ((t.set .client s).set .target t.target.destroy).emitError .target :=
    forward_of_finishing s now chunk hdestroyed hfinishing
  have hsent : s.sent = t.client.sent := by
    rw [heq]
    rfl
  have hpeer : s.peerEnded = t.client.peerEnded := by
    rw [heq]
    rfl
  have harrived : s.arrived = t.client.arrived := Socket.arrived_of_data hdata
  rw [hforward, emitError_of_listening hlisten]
  refine ⟨⟨?_, ?_, ?_⟩, rfl⟩
  · intro side
    cases side with
    | client => exact hsent
    | target => rfl
  · intro side
    cases side with
    | client => exact harrived
    | target => rfl
  · intro side
    cases side with
    | client => exact hpeer
    | target => rfl

theorem destroyed_onEnd (t : Tunnel) (side side' : Side) :
    ((t.onEnd side).socket side').destroyed = (t.socket side').destroyed := by
  unfold onEnd
  split
  · cases side <;> cases side' <;> rfl
  · rfl

theorem Intact.open_of (h : Intact head t) (side : Side) (hopen : (t.socket side).destroyed = false) :
    t.client.destroyed = false := by
  cases side with
  | client => exact hopen
  | target => exact h.destroyed.trans hopen

theorem Intact.stays_open (h : Intact head t) (h' : Intact head t') (side : Side)
    (hopen : (t.socket side).destroyed = false)
    (hsame : (t'.socket side).destroyed = (t.socket side).destroyed) :
    t.client.destroyed = false ∧ t'.client.destroyed = false :=
  ⟨h.open_of side hopen, h'.open_of side (hsame.trans hopen)⟩

/-- **What a move does to the bytes.**  It leaves the tunnel open, or tears it down, or
    comes after that. -/
theorem Intact.step_cases (h : Intact head t) (hclean : Clean t move) (hstep : t.step move = some t') :
    (¬ t.Tears move ∧ t.client.destroyed = false ∧ t'.client.destroyed = false) ∨
    (t.Tears move ∧ t.client.destroyed = false ∧ t.target.ended = true ∧
      (t.target.pending = [] ∨ t.client.unread ≠ []) ∧ SameBytes t t' ∧ t'.client.destroyed = true) ∨
    (¬ t.Tears move ∧ t.client.destroyed = true ∧ SameBytes t t' ∧ t'.client.destroyed = true) := by
  have h' := h.step hclean hstep
  obtain ⟨now, move⟩ := move
  cases moves_of_step hstep with
  | connected _ hopen =>
    exact Or.inl ⟨id, h.stays_open h' .target hopen (Socket.destroyed_write ..)⟩
  | @arrives side bytes s harrives =>
    obtain ⟨hopen, -, heq⟩ := Socket.arrives_eq_some harrives
    exact Or.inl ⟨id, h.stays_open h' side hopen (by simp [heq])⟩
  | @peerEnds side s hends =>
    obtain ⟨hopen, -, heq⟩ := Socket.peerEnds_eq_some hends
    exact Or.inl ⟨id, h.stays_open h' side hopen (by simp [heq])⟩
  | @data side n chunk s _ hdata =>
    obtain ⟨hopen, hunread, -, -, heq⟩ := Socket.data_eq_some hdata
    have hnotEnded : (t.socket side).ended ≠ true := fun hended => hunread ((h.holds side).atEnd hended).2
    rcases hfinishing : (t.socket side.other).finishing with _ | _
    · obtain ⟨paused, hforward⟩ := forward_of_open s now chunk
        ((h.destroyed_eq side).symm.trans hopen) hfinishing
      refine Or.inl ⟨?_, h.stays_open h' side hopen ?_⟩
      · cases side with
        | client => exact fun htears => nomatch hfinishing.symm.trans htears
        | target => exact id
      · have hsame : s.destroyed = (t.socket side).destroyed := by rw [heq]
        rw [hforward]
        cases side <;> exact hsame
    · -- only the target's socket can have been ended before the other one has ended
      cases side with
      | client =>
        obtain ⟨hsame, htorn⟩ := h.data_sameBytes hfinishing hdata now
        have hended := ((h.holds .target).finishing hfinishing).resolve_left hnotEnded
        exact Or.inr (Or.inl ⟨hfinishing, hopen, hended.2, Or.inr hunread, hsame, htorn⟩)
      | target =>
        rcases (h.holds .client).finishing hfinishing with hended | ⟨hhalf, -⟩
        · exact absurd hended hnotEnded
        · cases hhalf
  | @ends side s _ hends =>
    obtain ⟨hopen, -, -, heq⟩ := Socket.ends_eq_some hends
    refine Or.inl ⟨id, h.stays_open h' side hopen ?_⟩
    rw [destroyed_onEnd, socket_set_self, heq]
  | @flushed side n s hflushed =>
    obtain ⟨hopen, -, heq⟩ := Socket.flushed_eq_some hflushed
    refine Or.inl ⟨id, h.stays_open h' side hopen ?_⟩
    rw [socket_set_self, heq]
  | @drained side s hdrained =>
    obtain ⟨hopen, heq⟩ := Socket.drained_eq_some hdrained
    refine Or.inl ⟨id, h.stays_open h' side hopen ?_⟩
    rw [socket_set_set, heq]
  | error => exact hclean.elim
  | @close side s hcloses =>
    obtain ⟨hsame, htorn⟩ := h.close_sameBytes hcloses
    rcases hdestroyed : t.client.destroyed with _ | _
    · cases side with
      | client => cases hdestroyed.symm.trans hclean
      | target =>
        rcases (Socket.closes_eq_some hcloses).1 with htorn' | ⟨hended, -, hpending⟩
        · cases (h.destroyed.symm.trans hdestroyed).symm.trans htorn'
        · exact Or.inr (Or.inl ⟨hdestroyed, rfl, hended, Or.inl hpending, hsame, htorn⟩)
    · refine Or.inr (Or.inr ⟨?_, rfl, hsame, htorn⟩)
      cases side with
      | client => exact id
      | target => exact fun hopen => nomatch hdestroyed.symm.trans hopen

theorem Intact.delivered_step (h : Intact head t) (hclean : Clean t move)
    (hstep : t.step move = some t') : Delivered head t' ↔ Delivered head t ∧ t.InTime move := by
  rcases h.step_cases hclean hstep with ⟨hnot, hopen, hopen'⟩ | ⟨htears, hopen, hended, hlast, hsame, htorn⟩ |
    ⟨hnot, hdestroyed, hsame, htorn⟩
  · exact iff_of_true (delivered_of_open hopen') ⟨delivered_of_open hopen, fun htears => absurd htears hnot⟩
  · rw [and_iff_right (delivered_of_open hopen), hsame.delivered_iff htorn,
      h.delivered_iff hopen hended hlast, InTime, forall_prop_of_true htears]
  · have hinTime : t.InTime move := fun htears => absurd htears hnot
    have hself : SameBytes t t := ⟨fun _ => rfl, fun _ => rfl, fun _ => rfl⟩
    rw [and_iff_left hinTime, hsame.delivered_iff htorn, hself.delivered_iff hdestroyed]

theorem intact_dial (request : ConnectRequest) (head : Bytes) (highWaterMark : ℕ) (port : ℤ)
    (host : List Char) : Intact head (.dial request head highWaterMark port host (.fresh highWaterMark) []) := by
  refine ⟨rfl, ?_, rfl⟩
  intro side
  cases side <;>
    exact ⟨rfl, rfl, .of_given rfl, (nomatch ·), (nomatch ·), fun _ => ⟨rfl, rfl, fun _ => rfl⟩⟩

theorem Intact.sent_in_order (h : Intact head t) :
    t.client.sent <+: established ++ t.target.arrived ∧ t.target.sent <+: head ++ t.client.arrived := by
  have hsent (side : Side) {bytes : Bytes} (hfirst : t.connected = true → t.first head side = bytes) :
      (t.socket side).sent <+: bytes ++ (t.socket side.other).arrived := by
    have hcarried := (h.holds side).carries.sent
    rcases hconnected : t.connected with _ | _
    · have hread := ((h.holds side.other).unconnected hconnected).1
      have hnil : t.first head side = [] := by simp [first, hconnected]
      rw [hread, hnil] at hcarried
      exact hcarried.trans List.nil_prefix
    · rw [hfirst hconnected] at hcarried
      exact hcarried.trans ((List.prefix_append_right_inj _).mpr (List.prefix_append ..))
  exact ⟨hsent .client fun h => if_pos h, hsent .target fun h => if_pos h⟩

/-- A tunnel that is torn down has seen the end of its target. -/
theorem Intact.ended_step (h : Intact head t) (hclean : Clean t move) (hstep : t.step move = some t')
    (hended : t.client.destroyed = true → t.target.peerEnded = true) :
    t'.client.destroyed = true → t'.target.peerEnded = true := by
  intro htorn
  rcases h.step_cases hclean hstep with ⟨-, -, hopen'⟩ | ⟨-, -, hended', -, hsame, -⟩ |
    ⟨-, hdestroyed, hsame, -⟩
  · cases hopen'.symm.trans htorn
  · exact (hsame.peerEnded .target).trans ((h.holds .target).atEnd hended').1
  · exact (hsame.peerEnded .target).trans (hended hdestroyed)

end Torn

end Tunnel

/-- **What a tunnel delivers.**  In every run of a tunnel between peers that end cleanly,
    where the client does not close first: each peer is sent the bytes of the other in
    order and once, and the tunnel is torn down only after the target's end.  Everything
    is delivered by then exactly where each move is made in time. -/
theorem delivers_iff {server : TunnelServer} {sign : Sign} {highWaterMark now : ℕ} {req : ConnectRequest}
    {head : Bytes} {t₀ t : Tunnel} {moves : List (ℕ × TunnelMove)}
    (haccept : server.onConnect sign highWaterMark now req head = .ok (.tunnel t₀))
    (hrun : run Tunnel.step t₀ moves = some t) (hclean : AllMoves Tunnel.step Tunnel.Clean t₀ moves) :
    (t.client.sent <+: established ++ t.target.arrived ∧ t.target.sent <+: head ++ t.client.arrived) ∧
    (t.client.destroyed = true → t.target.peerEnded = true) ∧
    (Tunnel.Delivered head t ↔ AllMoves Tunnel.step Tunnel.InTime t₀ moves) := by
  obtain ⟨port, host, -, rfl⟩ : ∃ port host, server.connect sign now req = .ok [.dial port host] ∧
      t₀ = .dial req head highWaterMark port host (.fresh highWaterMark) [] := by
    rcases onConnect_cases haccept with ⟨_, _, heq, -⟩ | ⟨port, host, hconnect, heq⟩
    · cases heq
    · exact ⟨port, host, hconnect, Connection.tunnel.inj heq⟩
  have hintact := Tunnel.intact_dial req head highWaterMark port host
  refine ⟨(run_invariant Tunnel.Intact.step hrun hclean hintact).sent_in_order, ?_, ?_⟩
  · refine (run_invariant (I := fun t => Tunnel.Intact head t ∧
      (t.client.destroyed = true → t.target.peerEnded = true)) ?_ hrun hclean ⟨hintact, ?_⟩).2
    · intro t move t' h hclean hstep
      exact ⟨h.1.step hclean hstep, h.1.ended_step hclean hstep h.2⟩
    · intro htorn
      exact nomatch htorn
  · rw [run_iff Tunnel.Intact.step Tunnel.Intact.delivered_step hrun hclean hintact]
    exact and_iff_right (Tunnel.delivered_of_open rfl)

/-! ### Two runs -/

/-- The target sends one byte and ends its side. -/
def oneByte : List (ℕ × TunnelMove) :=
  [(0, .connected), (0, .flushed .client 39), (0, .arrives .target [120]), (0, .data .target 1),
    (0, .peerEnds .target), (0, .ends .target)]

def closedEarly : List (ℕ × TunnelMove) := oneByte ++ [(0, .close .target)]

def closedInTime : List (ℕ × TunnelMove) := oneByte ++ [(0, .flushed .client 1), (0, .close .target)]

theorem delivers_iff_closedInTime : AllMoves Tunnel.step Tunnel.InTime sampleTunnel closedInTime := by
  have heval : (run Tunnel.step sampleTunnel closedInTime).any (fun t =>
      decide (t.client.sent = established ++ t.target.arrived ∧ t.client.peerEnded = false)) = true := by
    decide +kernel
  obtain ⟨t, hrun, hsent⟩ := (Option.any_eq_true _ _).mp heval
  obtain ⟨hsent, hpeer⟩ := of_decide_eq_true hsent
  have hclean : AllMoves Tunnel.step Tunnel.Clean sampleTunnel closedInTime := by
    apply allMoves_of_mem
    simp [closedInTime, oneByte, Tunnel.Clean]
  exact (delivers_iff onConnect_sample hrun hclean).2.2.mp
    ⟨fun _ => hsent, fun _ hended => nomatch hpeer.symm.trans hended⟩

/-- The client has not been sent the byte when the tunnel is torn down. -/
theorem closed_early : ∃ t₀ t,
    sampleServer.onConnect sampleSign 16384 1000000001000 sampleRequest [] = .ok (.tunnel t₀) ∧
    run Tunnel.step t₀ closedEarly = some t ∧ AllMoves Tunnel.step Tunnel.Clean t₀ closedEarly ∧
    ¬ Tunnel.Delivered [] t := by
  have heval : (run Tunnel.step sampleTunnel closedEarly).any (fun t =>
      decide (t.client.destroyed = true ∧ t.client.sent ≠ established ++ t.target.arrived)) = true := by
    decide +kernel
  obtain ⟨t, hrun, hlost⟩ := (Option.any_eq_true _ _).mp heval
  obtain ⟨htorn, hne⟩ := of_decide_eq_true hlost
  refine ⟨sampleTunnel, t, onConnect_sample, hrun, ?_, fun h => hne (h.toClient htorn)⟩
  apply allMoves_of_mem
  simp [closedEarly, oneByte, Tunnel.Clean]

end DVoD.Relay
