import DVoD.Relay.Delivery

/-!
# What a tunnel passes on when connections break

In every run of a tunnel, also where connections break and peers go away, each peer is sent
a beginning of what the other one has sent, behind some first bytes.  `Piped` is the
invariant; while the tunnel is up it also says that what has been read is written.
-/

namespace DVoD.Relay

open DVoD.Machine DVoD.Net DVoD.Session

namespace Tunnel

/-- What stays as it was when the target was dialled. -/
def dialled (t : Tunnel) : ConnectRequest × Bytes × ℤ × List Char :=
  (t.request, t.head, t.targetPort, t.targetHost)

structure Piped (t : Tunnel) : Prop where
  listens : ∀ side, (t.socket side).onError = true ∧ (t.socket side).onClose = true
  carries : ∀ side, Carries (t.first t.head side) (t.socket side.other) (t.socket side)
  destroyed : ∀ side, (t.socket side).destroyed = (t.socket side.other).destroyed
  unread : t.connected = false → ∀ side, (t.socket side).read = []

section Dialled

variable (t : Tunnel) (side : Side) (s : Socket UInt8)

@[simp] theorem dialled_set : (t.set side s).dialled = t.dialled := by
  cases side <;> rfl

@[simp] theorem dialled_closeBoth : t.closeBoth.dialled = t.dialled := rfl

@[simp] theorem dialled_emitError : (t.emitError side).dialled = t.dialled := by
  unfold emitError
  split
  · rfl
  · exact dialled_set ..

@[simp] theorem dialled_emitClose : (t.emitClose side).dialled = t.dialled := by
  unfold emitClose
  split <;> rfl

@[simp] theorem dialled_onEnd : (t.onEnd side).dialled = t.dialled := by
  unfold onEnd
  dsimp only
  split
  · split
    · exact dialled_set ..
    · rw [dialled_set, dialled_set]
  · rfl

@[simp] theorem dialled_forward (now : ℕ) (chunk : Bytes) :
    (t.forward now side chunk).dialled = t.dialled := by
  unfold forward
  dsimp only
  split
  · rfl
  · split
    · rw [dialled_emitError, dialled_set]
    · change dialled (((t.set side _).set side.other _)) = t.dialled
      rw [dialled_set, dialled_set]

theorem dialled_step {t t' : Tunnel} {move : ℕ × TunnelMove} (hstep : t.step move = some t') :
    t'.dialled = t.dialled := by
  obtain ⟨now, move⟩ := move
  cases moves_of_step hstep with
  | connected => rfl
  | arrives => exact dialled_set ..
  | peerEnds => exact dialled_set ..
  | data => rw [dialled_forward, dialled_set]
  | ends => rw [dialled_onEnd, dialled_set]
  | flushed => exact dialled_set ..
  | drained => rw [dialled_set, dialled_set]
  | error => rw [dialled_emitError, dialled_set]
  | close => rw [dialled_emitClose, dialled_set]

end Dialled

section Piped

variable {t t' : Tunnel} {side : Side} {s s' o : Socket UInt8} {n : ℕ} {chunk : Bytes}

theorem piped_of_both (side : Side)
    (hlistens : ∀ side, (t.socket side).onError = true ∧ (t.socket side).onClose = true)
    (hself : Carries (t.first t.head side) (t.socket side.other) (t.socket side))
    (hother : Carries (t.first t.head side.other) (t.socket side) (t.socket side.other))
    (hdestroyed : (t.socket side).destroyed = (t.socket side.other).destroyed)
    (hunread : t.connected = false → (t.socket side).read = [] ∧ (t.socket side.other).read = []) :
    t.Piped := by
  refine ⟨hlistens, fun side' => ?_, fun side' => ?_, fun hnot side' => ?_⟩
  · rcases eq_or_ne side' side with rfl | hne
    · exact hself
    · obtain rfl := Side.eq_other_of_ne hne
      rwa [Side.other_other]
  · rcases eq_or_ne side' side with rfl | hne
    · exact hdestroyed
    · obtain rfl := Side.eq_other_of_ne hne
      rw [Side.other_other]
      exact hdestroyed.symm
  · rcases eq_or_ne side' side with rfl | hne
    · exact (hunread hnot).1
    · obtain rfl := Side.eq_other_of_ne hne
      exact (hunread hnot).2

theorem Piped.other (h : t.Piped) (side : Side) :
    Carries (t.first t.head side.other) (t.socket side) (t.socket side.other) := by
  have hcarries := h.carries side.other
  rwa [Side.other_other] at hcarries

theorem first_set_head (side side' : Side) (s : Socket UInt8) :
    (t.set side s).first (t.set side s).head side' = t.first t.head side' := by
  rw [head_set, first_set]

/-- One socket changes, and has read nothing meanwhile. -/
theorem Piped.set (h : t.Piped) (side : Side) (hself : Carries (t.first t.head side) (t.socket side.other) s)
    (hread : s.read = (t.socket side).read) (hdestroyed : s.destroyed = (t.socket side).destroyed)
    (herror : s.onError = (t.socket side).onError) (hclose : s.onClose = (t.socket side).onClose) :
    (t.set side s).Piped := by
  apply piped_of_both side
  · intro side'
    rcases eq_or_ne side' side with rfl | hne
    · rw [socket_set_self, herror, hclose]
      exact h.listens side'
    · obtain rfl := Side.eq_other_of_ne hne
      rw [socket_set_other]
      exact h.listens side.other
  · rw [first_set_head, socket_set_self, socket_set_other]
    exact hself
  · rw [first_set_head, socket_set_self, socket_set_other]
    exact (h.other side).congr hread rfl rfl rfl
  · rw [socket_set_self, socket_set_other, hdestroyed]
    exact h.destroyed side
  · intro hnot
    rw [connected_set] at hnot
    rw [socket_set_self, socket_set_other, hread]
    exact ⟨h.unread hnot side, h.unread hnot side.other⟩

/-- One socket changes, and nothing is read, written or flushed. -/
theorem Piped.set_congr (h : t.Piped) (side : Side) (hread : s.read = (t.socket side).read)
    (hsent : s.sent = (t.socket side).sent) (hpending : s.pending = (t.socket side).pending)
    (hdestroyed : s.destroyed = (t.socket side).destroyed) (herror : s.onError = (t.socket side).onError)
    (hclose : s.onClose = (t.socket side).onClose) : (t.set side s).Piped :=
  h.set side ((h.carries side).congr rfl hsent hpending hdestroyed) hread hdestroyed herror hclose

/-- Both sockets are torn down. -/
theorem piped_closeBoth (side : Side)
    (hlistens : ∀ side, (t.socket side).onError = true ∧ (t.socket side).onClose = true)
    (hself : Carries (t.first t.head side) (t.socket side.other) (t.socket side))
    (hother : Carries (t.first t.head side.other) (t.socket side) (t.socket side.other))
    (hunread : t.connected = false → (t.socket side).read = [] ∧ (t.socket side.other).read = []) :
    t.closeBoth.Piped := by
  have hfirst : t.closeBoth.first t.closeBoth.head = t.first t.head := rfl
  apply piped_of_both side
  · intro side'
    rw [socket_closeBoth]
    exact hlistens side'
  · rw [hfirst, socket_closeBoth, socket_closeBoth]
    exact hself.destroy.congr rfl rfl rfl rfl
  · rw [hfirst, socket_closeBoth, socket_closeBoth]
    exact hother.destroy.congr rfl rfl rfl rfl
  · rw [socket_closeBoth, socket_closeBoth]
    rfl
  · intro hnot
    rw [socket_closeBoth, socket_closeBoth]
    exact hunread hnot

/-- An error or a close event of a socket tears both down. -/
theorem Piped.torn (h : t.Piped) (side : Side) {closed : Bool} :
    (t.set side { (t.socket side).destroy with closed := closed }).closeBoth.Piped := by
  apply piped_closeBoth side
  · intro side'
    rcases eq_or_ne side' side with rfl | hne
    · rw [socket_set_self]
      exact h.listens side'
    · obtain rfl := Side.eq_other_of_ne hne
      rw [socket_set_other]
      exact h.listens side.other
  · rw [first_set_head, socket_set_self, socket_set_other]
    exact (h.carries side).destroy.congr rfl rfl rfl rfl
  · rw [first_set_head, socket_set_self, socket_set_other]
    exact (h.other side).congr rfl rfl rfl rfl
  · intro hnot
    rw [connected_set] at hnot
    rw [socket_set_self, socket_set_other]
    exact ⟨h.unread hnot side, h.unread hnot side.other⟩

theorem Piped.onConnected (h : t.Piped) (hnot : t.connected = false) (hopen : t.target.destroyed = false)
    (now : ℕ) : (t.onConnected now).Piped := by
  have hfirst (side : Side) : t.first t.head side = [] := by
    simp [first, hnot]
  have hdestroyed (side : Side) : (t.socket side).destroyed = false := by
    cases side
    · exact (h.destroyed .client).trans hopen
    · exact hopen
  have hcarries (side : Side) (bytes : Bytes) :
      Carries bytes (t.socket side.other) ((t.socket side).write bytes) := by
    have hgiven := (h.carries side).given (hdestroyed side)
    rw [hfirst, List.nil_append, h.unread hnot side.other] at hgiven
    exact .opened (h.unread hnot side.other) (hdestroyed side) hgiven
  have hlistens (s : Socket UInt8) (bytes : Bytes) (hs : s.onError = true ∧ s.onClose = true) :
      (s.write bytes).onError = true ∧ (s.write bytes).onClose = true := by
    unfold Socket.write
    split
    · exact hs
    · exact hs
  apply piped_of_both .client
  · intro side'
    cases side' with
    | client => exact hlistens t.client established (h.listens .client)
    | target => exact hlistens t.target t.head (h.listens .target)
  · exact (hcarries .client established).congr (Socket.read_write ..) rfl rfl rfl
  · exact (hcarries .target t.head).congr (Socket.read_write ..) rfl rfl rfl
  · exact (Socket.destroyed_write ..).trans ((h.destroyed .client).trans (Socket.destroyed_write ..).symm)
  · intro hnever
    cases hnever

theorem Piped.forward (h : t.Piped) (hconnected : t.connected = true)
    (hdata : (t.socket side).data n = some (chunk, s)) (now : ℕ) :
    ((t.set side s).forward now side chunk).Piped := by
  obtain ⟨hopen, -, -, -, hs⟩ := Socket.data_eq_some hdata
  have hdestroyed : (t.socket side.other).destroyed = false := by
    rw [← h.destroyed side]
    exact hopen
  have hlistens : s.onError = true ∧ s.onClose = true := by
    rw [hs]
    exact h.listens side
  have hunread (hnot : t.connected = false) : False := Bool.false_ne_true (hnot.symm.trans hconnected)
  -- what was written to the side itself is what it was
  have hself {s' o : Socket UInt8} (hsent : s'.sent = (t.socket side).sent)
      (hpending : s'.pending = (t.socket side).pending) (hdestroyed' : s'.destroyed = (t.socket side).destroyed)
      (hread : o.read = (t.socket side.other).read) : Carries (t.first t.head side) o s' :=
    (h.carries side).congr hread hsent hpending hdestroyed'
  cases hfinishing : (t.socket side.other).finishing with
  | false =>
    obtain ⟨paused, heq⟩ := forward_of_open s now chunk hdestroyed hfinishing
    rw [heq]
    suffices hset : ((t.set side { s with paused := paused }).set side.other
        ((t.socket side.other).write chunk)).Piped from ⟨hset.listens, hset.carries, hset.destroyed, hset.unread⟩
    have hother := (h.other side).data hdata hdestroyed
    apply piped_of_both side
    · intro side'
      rcases eq_or_ne side' side with rfl | hne
      · rw [socket_set_set]
        exact hlistens
      · obtain rfl := Side.eq_other_of_ne hne
        rw [socket_set_self, Socket.write_of_not_destroyed hdestroyed]
        exact h.listens side.other
    · rw [first_set_head, first_set_head, socket_set_set, socket_set_self]
      exact hself (by rw [hs]) (by rw [hs]) (by rw [hs]) (Socket.read_write ..)
    · rw [first_set_head, first_set_head, socket_set_set, socket_set_self]
      exact hother.congr rfl rfl rfl rfl
    · rw [socket_set_set, socket_set_self, Socket.destroyed_write, hs]
      exact h.destroyed side
    · intro hnot
      rw [connected_set, connected_set] at hnot
      exact (hunread hnot).elim
  | true =>
    rw [forward_of_finishing s now chunk hdestroyed hfinishing, emitError_of_listening]
    · have hother := (h.other side).dropped hdata
      apply piped_closeBoth side
      · intro side'
        rcases eq_or_ne side' side with rfl | hne
        · rw [socket_set_set]
          exact hlistens
        · obtain rfl := Side.eq_other_of_ne hne
          rw [socket_set_self]
          exact h.listens side.other
      · rw [first_set_head, first_set_head, socket_set_set, socket_set_self]
        exact hself (by rw [hs]) (by rw [hs]) (by rw [hs]) rfl
      · rw [first_set_head, first_set_head, socket_set_set, socket_set_self]
        exact hother
      · intro hnot
        rw [connected_set, connected_set] at hnot
        exact (hunread hnot).elim
    · rw [socket_set_self]
      exact (h.listens side.other).1

theorem Piped.onEnd (h : t.Piped) (side : Side) : (t.onEnd side).Piped := by
  have hset := h.set_congr (s := (t.socket side.other).finish) side.other rfl rfl rfl rfl rfl rfl
  unfold Tunnel.onEnd
  dsimp only
  split
  · split
    · exact hset
    · exact hset.set_congr side rfl rfl rfl rfl rfl rfl
  · exact h

/-- Every move keeps the invariant. -/
theorem Piped.step {move : ℕ × TunnelMove} (h : t.Piped) (hstep : t.step move = some t') : t'.Piped := by
  obtain ⟨now, move⟩ := move
  cases moves_of_step hstep with
  | connected hnot hopen => exact h.onConnected hnot hopen now
  | @arrives side bytes s harrives =>
    obtain ⟨-, -, rfl⟩ := Socket.arrives_eq_some harrives
    exact h.set_congr side rfl rfl rfl rfl rfl rfl
  | @peerEnds side s hends =>
    obtain ⟨-, -, rfl⟩ := Socket.peerEnds_eq_some hends
    exact h.set_congr side rfl rfl rfl rfl rfl rfl
  | data hconnected hdata => exact h.forward hconnected hdata now
  | @ends side s hnot hends =>
    obtain ⟨-, -, -, rfl⟩ := Socket.ends_eq_some hends
    have hset := h.set_congr (s := { t.socket side with ended := true }) side rfl rfl rfl rfl rfl rfl
    exact hset.onEnd side
  | @flushed side n s hflushed =>
    have hcarries := (h.carries side).flushed hflushed
    obtain ⟨-, -, hs⟩ := Socket.flushed_eq_some hflushed
    refine h.set side hcarries ?_ ?_ ?_ ?_ <;> rw [hs]
  | @drained side s hdrained =>
    obtain ⟨-, rfl⟩ := Socket.drained_eq_some hdrained
    have hset := h.set_congr (s := { t.socket side with needDrain := false }) side rfl rfl rfl rfl rfl rfl
    apply hset.set_congr side.other
    all_goals rw [socket_set_other]; rfl
  | @error side s hfails =>
    obtain ⟨-, rfl⟩ := Socket.fails_eq_some hfails
    rw [emitError_of_listening]
    · exact h.torn side
    · rw [socket_set_self]
      exact (h.listens side).1
  | @close side s hcloses =>
    obtain ⟨-, rfl⟩ := Socket.closes_eq_some hcloses
    rw [emitClose_of_listening]
    · exact h.torn side
    · rw [socket_set_self]
      exact (h.listens side).2

theorem piped_dial (request : ConnectRequest) (head : Bytes) (highWaterMark : ℕ) (port : ℤ)
    (host : List Char) : Piped (.dial request head highWaterMark port host (.fresh highWaterMark) []) := by
  refine ⟨fun side => ?_, fun side => ?_, fun side => ?_, fun _ side => ?_⟩
  · cases side <;> exact ⟨rfl, rfl⟩
  · cases side <;> exact .of_given rfl
  · cases side <;> rfl
  · cases side <;> rfl

/-- A tunnel that has sent its client anything is connected. -/
theorem Piped.connected_of_sent (h : t.Piped) (hsent : t.client.sent ≠ []) : t.connected = true := by
  by_contra hnot
  rw [Bool.not_eq_true] at hnot
  have hcarried := (h.carries .client).sent
  rw [first, hnot, show (t.socket Side.client.other).read = [] from h.unread hnot _] at hcarried
  exact hsent (List.prefix_nil.mp hcarried)

/-- Wherever the run breaks off, each peer has been sent a beginning of what the other sent. -/
theorem Piped.sent_in_order (h : t.Piped) :
    t.client.sent <+: established ++ t.target.arrived ∧ t.target.sent <+: t.head ++ t.client.arrived := by
  have hsent (side : Side) {bytes : Bytes} (hfirst : t.connected = true → t.first t.head side = bytes) :
      (t.socket side).sent <+: bytes ++ (t.socket side.other).arrived := by
    have hcarried := (h.carries side).sent
    cases hconnected : t.connected with
    | false =>
      have hnil : t.first t.head side = [] := by simp [first, hconnected]
      rw [h.unread hconnected side.other, hnil] at hcarried
      exact hcarried.trans List.nil_prefix
    | true =>
      rw [hfirst hconnected] at hcarried
      exact hcarried.trans ((List.prefix_append_right_inj _).mpr (List.prefix_append ..))
  exact ⟨hsent .client fun h => if_pos h, hsent .target fun h => if_pos h⟩

/-- While the tunnel is up, all that was read is written. -/
theorem Piped.given (h : t.Piped) (hconnected : t.connected = true) (hopen : t.client.destroyed = false) :
    t.client.sent ++ t.client.pending = established ++ t.target.read ∧
      t.target.sent ++ t.target.pending = t.head ++ t.client.read := by
  have hclient := (h.carries .client).given hopen
  have htarget := (h.carries .target).given ((h.destroyed .target).trans hopen)
  have hestablished : t.first t.head .client = established := if_pos hconnected
  have hhead : t.first t.head .target = t.head := if_pos hconnected
  rw [hestablished] at hclient
  rw [hhead] at htarget
  exact ⟨hclient, htarget⟩

end Piped

/-- Nothing has come in, and what was sent stays so. -/
def Grows (t t' : Tunnel) : Prop :=
  ∀ side, (t.socket side).sent <+: (t'.socket side).sent ∧ (t'.socket side).arrived = (t.socket side).arrived

section Grows

variable {t t' t'' : Tunnel} {side : Side} {s : Socket UInt8} {n : ℕ} {chunk : Bytes}

theorem Grows.refl (t : Tunnel) : Grows t t := fun _ => ⟨List.prefix_rfl, rfl⟩

theorem Grows.trans (h : Grows t t') (h' : Grows t' t'') : Grows t t'' :=
  fun side => ⟨(h side).1.trans (h' side).1, (h' side).2.trans (h side).2⟩

theorem Grows.set (hsent : (t.socket side).sent <+: s.sent) (harrived : s.arrived = (t.socket side).arrived) :
    Grows t (t.set side s) := by
  intro side'
  rcases eq_or_ne side' side with rfl | hne
  · rw [socket_set_self]
    exact ⟨hsent, harrived⟩
  · obtain rfl := Side.eq_other_of_ne hne
    rw [socket_set_other]
    exact ⟨List.prefix_rfl, rfl⟩

theorem Grows.closeBoth (t : Tunnel) : Grows t t.closeBoth := by
  intro side
  rw [socket_closeBoth]
  exact ⟨List.prefix_rfl, rfl⟩

theorem Grows.emitError (t : Tunnel) (side : Side) : Grows t (t.emitError side) := by
  unfold Tunnel.emitError
  split
  · exact Grows.closeBoth t
  · exact Grows.set List.prefix_rfl rfl

theorem Grows.emitClose (t : Tunnel) (side : Side) : Grows t (t.emitClose side) := by
  unfold Tunnel.emitClose
  split
  · exact Grows.closeBoth t
  · exact Grows.refl t

theorem Grows.onEnd (t : Tunnel) (side : Side) : Grows t (t.onEnd side) := by
  have hset : Grows t (t.set side.other (t.socket side.other).finish) := Grows.set List.prefix_rfl rfl
  unfold Tunnel.onEnd
  dsimp only
  split
  · split
    · exact hset
    · apply hset.trans
      exact Grows.set List.prefix_rfl rfl
  · exact Grows.refl t

theorem Grows.write (t : Tunnel) (side : Side) (bytes : Bytes) :
    Grows t (t.set side ((t.socket side).write bytes)) := by
  apply Grows.set
  · unfold Socket.write
    split
    · exact List.prefix_rfl
    · exact List.prefix_rfl
  · unfold Socket.write
    split
    · rfl
    · rfl

theorem Grows.forward (t : Tunnel) (side : Side) (chunk : Bytes) (now : ℕ) :
    Grows t (t.forward now side chunk) := by
  unfold Tunnel.forward
  dsimp only
  split
  · exact Grows.refl t
  · split
    · have hset : Grows t (t.set side.other (t.socket side.other).destroy) := Grows.set List.prefix_rfl rfl
      exact hset.trans (Grows.emitError _ _)
    · have hwrite : Grows t (t.set side.other ((t.socket side.other).write chunk)) := Grows.write _ _ _
      intro side'
      rcases eq_or_ne side' side with rfl | hne
      · change _ <+: (((t.set side' _).set side'.other _).socket side').sent ∧
          (((t.set side' _).set side'.other _).socket side').arrived = _
        rw [socket_set_set]
        split
        · exact ⟨List.prefix_rfl, rfl⟩
        · exact ⟨List.prefix_rfl, rfl⟩
      · obtain rfl := Side.eq_other_of_ne hne
        have hother := hwrite side.other
        rw [socket_set_self] at hother
        change _ <+: (((t.set side _).set side.other _).socket side.other).sent ∧
          (((t.set side _).set side.other _).socket side.other).arrived = _
        rw [socket_set_self]
        exact hother

/-- Only what a peer sends comes in. -/
theorem grows_or_arrives {now : ℕ} {move : TunnelMove} (hstep : t.step (now, move) = some t') :
    (∀ side bytes, move ≠ .arrives side bytes) ∧ Grows t t' ∨ ∃ side bytes, move = .arrives side bytes ∧
      t' = t.set side { t.socket side with unread := (t.socket side).unread ++ bytes } := by
  cases moves_of_step hstep with
  | connected =>
    refine Or.inl ⟨nofun, fun side => ?_⟩
    have hwrite (side : Side) (bytes : Bytes) := Grows.write t side bytes side
    simp only [socket_set_self] at hwrite
    cases side with
    | client => exact hwrite .client established
    | target => exact hwrite .target t.head
  | @arrives side bytes s harrives =>
    obtain ⟨-, -, rfl⟩ := Socket.arrives_eq_some harrives
    exact Or.inr ⟨side, bytes, rfl, rfl⟩
  | @peerEnds side s hends =>
    obtain ⟨-, -, rfl⟩ := Socket.peerEnds_eq_some hends
    exact Or.inl ⟨nofun, Grows.set List.prefix_rfl rfl⟩
  | @data side n chunk s hconnected hdata =>
    have harrived := Socket.arrived_of_data hdata
    have hs := (Socket.data_eq_some hdata).2.2.2.2
    have hset : Grows t (t.set side s) := Grows.set (by rw [hs]) harrived
    exact Or.inl ⟨nofun, hset.trans (Grows.forward _ _ _ _)⟩
  | @ends side s hnot hends =>
    obtain ⟨-, -, -, rfl⟩ := Socket.ends_eq_some hends
    have hset : Grows t (t.set side { t.socket side with ended := true }) := Grows.set List.prefix_rfl rfl
    exact Or.inl ⟨nofun, hset.trans (Grows.onEnd _ _)⟩
  | @flushed side n s hflushed =>
    obtain ⟨-, h⟩ := Option.ite_none_left_eq_some.mp hflushed
    obtain rfl := Option.some.inj h
    exact Or.inl ⟨nofun, Grows.set (List.prefix_append ..) rfl⟩
  | @drained side s hdrained =>
    obtain ⟨-, rfl⟩ := Socket.drained_eq_some hdrained
    have hset : Grows t (t.set side { t.socket side with needDrain := false }) := Grows.set List.prefix_rfl rfl
    refine Or.inl ⟨nofun, hset.trans (Grows.set ?_ ?_)⟩
    · rw [socket_set_other]
      exact List.prefix_rfl
    · rw [socket_set_other]
      rfl
  | @error side s hfails =>
    obtain ⟨-, rfl⟩ := Socket.fails_eq_some hfails
    have hset : Grows t (t.set side (t.socket side).destroy) := Grows.set List.prefix_rfl rfl
    exact Or.inl ⟨nofun, hset.trans (Grows.emitError _ _)⟩
  | @close side s hcloses =>
    obtain ⟨-, rfl⟩ := Socket.closes_eq_some hcloses
    have hset : Grows t (t.set side { (t.socket side).destroy with closed := true }) :=
      Grows.set List.prefix_rfl rfl
    exact Or.inl ⟨nofun, hset.trans (Grows.emitClose _ _)⟩

end Grows

end Tunnel

end DVoD.Relay
