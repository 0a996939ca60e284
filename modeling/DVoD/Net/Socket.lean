import Mathlib.Data.List.Infix

/-!
# Sockets

A socket of an event loop: a readable side, on which the bytes of the peer come in, and a
writable side, which buffers what is written until it is flushed.  The functions that
return an option are the events of the loop; `none` is an event that cannot happen.

`Carries` is the invariant of a pipe between two sockets: what was read from the one
has been written to the other, in order and once, behind some first bytes.
-/

namespace DVoD.Net

/-- `onError` and `onClose` say whether the socket has listeners for these events,
    `uncaught` that an error event found none. -/
structure Socket (β : Type) where
  read : List β
  unread : List β
  peerEnded : Bool
  ended : Bool
  paused : Bool
  sent : List β
  pending : List β
  highWaterMark : ℕ
  needDrain : Bool
  finishing : Bool
  destroyed : Bool
  closed : Bool
  onError : Bool
  onClose : Bool
  uncaught : Bool

namespace Socket

variable {β : Type}

def fresh (highWaterMark : ℕ) : Socket β where
  read := []
  unread := []
  peerEnded := false
  ended := false
  paused := false
  sent := []
  pending := []
  highWaterMark := highWaterMark
  needDrain := false
  finishing := false
  destroyed := false
  closed := false
  onError := false
  onClose := false
  uncaught := false

/-! ### What a program does -/

/-- A write to a destroyed socket is dropped. -/
def write (s : Socket β) (bytes : List β) : Socket β :=
  if s.destroyed then s
  else
    { s with
      pending := s.pending ++ bytes
      needDrain := s.needDrain || decide (s.highWaterMark ≤ (s.pending ++ bytes).length) }

/-- `end()`: no more is written, but what is pending is still flushed. -/
def finish (s : Socket β) : Socket β := { s with finishing := true }

/-- What is pending is discarded. -/
def destroy (s : Socket β) : Socket β := { s with destroyed := true, pending := [] }

def listen (s : Socket β) : Socket β := { s with onError := true, onClose := true }

/-! ### What happens to it -/

def arrives (s : Socket β) (bytes : List β) : Option (Socket β) :=
  if s.destroyed ∨ s.peerEnded then none else some { s with unread := s.unread ++ bytes }

def peerEnds (s : Socket β) : Option (Socket β) :=
  if s.destroyed ∨ s.peerEnded then none else some { s with peerEnded := true }

/-- A 'data' event with the next `n` bytes. -/
def data (s : Socket β) (n : ℕ) : Option (List β × Socket β) :=
  if s.destroyed ∨ s.paused ∨ n = 0 ∨ s.unread.length < n then none
  else
    some (s.unread.take n, { s with read := s.read ++ s.unread.take n, unread := s.unread.drop n })

/-- The 'end' event, once everything is read; it comes to a paused socket as well. -/
def ends (s : Socket β) : Option (Socket β) :=
  if s.destroyed ∨ s.ended ∨ ¬ s.peerEnded ∨ s.unread ≠ [] then none
  else some { s with ended := true }

def flushed (s : Socket β) (n : ℕ) : Option (Socket β) :=
  if s.destroyed ∨ n = 0 ∨ s.pending.length < n then none
  else some { s with sent := s.sent ++ s.pending.take n, pending := s.pending.drop n }

/-- The 'drain' event. -/
def drained (s : Socket β) : Option (Socket β) :=
  if s.destroyed ∨ s.finishing ∨ ¬ s.needDrain ∨ s.pending ≠ [] then none
  else some { s with needDrain := false }

/-- An error of the connection, which destroys the socket. -/
def fails (s : Socket β) : Option (Socket β) := if s.destroyed then none else some s.destroy

/-- The 'close' event: of a destroyed socket, or of one that has ended on both sides. -/
def closes (s : Socket β) : Option (Socket β) :=
  if s.closed ∨ ¬ (s.destroyed ∨ s.ended ∧ s.finishing ∧ s.pending = []) then none
  else some { s.destroy with closed := true }

def pause (s : Socket β) : Socket β := { s with paused := true }

def resume (s : Socket β) : Socket β := { s with paused := false }

/-- All the bytes of the peer that have come in. -/
def arrived (s : Socket β) : List β := s.read ++ s.unread

section Events

variable {s s' : Socket β} {bytes chunk : List β} {n : ℕ}

theorem arrives_eq_some (h : s.arrives bytes = some s') :
    s.destroyed = false ∧ s.peerEnded = false ∧ s' = { s with unread := s.unread ++ bytes } := by
  obtain ⟨hnot, h⟩ := Option.ite_none_left_eq_some.mp h
  simp only [not_or, Bool.not_eq_true] at hnot
  exact ⟨hnot.1, hnot.2, (Option.some.inj h).symm⟩

theorem peerEnds_eq_some (h : s.peerEnds = some s') :
    s.destroyed = false ∧ s.peerEnded = false ∧ s' = { s with peerEnded := true } := by
  obtain ⟨hnot, h⟩ := Option.ite_none_left_eq_some.mp h
  simp only [not_or, Bool.not_eq_true] at hnot
  exact ⟨hnot.1, hnot.2, (Option.some.inj h).symm⟩

theorem data_eq_some (h : s.data n = some (chunk, s')) :
    s.destroyed = false ∧ s.unread ≠ [] ∧ chunk ≠ [] ∧ s.unread = chunk ++ s'.unread ∧
      s' = { s with read := s.read ++ chunk, unread := s'.unread } := by
  obtain ⟨hnot, h⟩ := Option.ite_none_left_eq_some.mp h
  simp only [not_or, Bool.not_eq_true, not_lt] at hnot
  obtain ⟨hdestroyed, -, hn, hlength⟩ := hnot
  obtain ⟨rfl, rfl⟩ := Prod.mk.inj (Option.some.inj h)
  have hunread : s.unread ≠ [] := by
    rintro hnil
    rw [hnil] at hlength
    exact hn (Nat.le_zero.mp hlength)
  refine ⟨hdestroyed, hunread, ?_, (List.take_append_drop n s.unread).symm, rfl⟩
  simp [hn, hunread]

theorem chunk_of_data (h : s.data n = some (chunk, s')) : chunk = s.unread.take n := by
  obtain ⟨-, h⟩ := Option.ite_none_left_eq_some.mp h
  exact (congrArg Prod.fst (Option.some.inj h)).symm

theorem read_of_data (h : s.data n = some (chunk, s')) : s'.read = s.read ++ chunk :=
  congrArg Socket.read (data_eq_some h).2.2.2.2

theorem arrived_of_data (h : s.data n = some (chunk, s')) : s'.arrived = s.arrived := by
  rw [arrived, read_of_data h, List.append_assoc, ← (data_eq_some h).2.2.2.1]
  rfl

theorem ends_eq_some (h : s.ends = some s') :
    s.destroyed = false ∧ s.peerEnded = true ∧ s.unread = [] ∧ s' = { s with ended := true } := by
  obtain ⟨hnot, h⟩ := Option.ite_none_left_eq_some.mp h
  simp only [not_or, Bool.not_eq_true, not_not, Bool.not_eq_false] at hnot
  exact ⟨hnot.1, hnot.2.2.1, hnot.2.2.2, (Option.some.inj h).symm⟩

theorem flushed_eq_some (h : s.flushed n = some s') :
    s.destroyed = false ∧ s'.sent ++ s'.pending = s.sent ++ s.pending ∧
      s' = { s with sent := s'.sent, pending := s'.pending } := by
  obtain ⟨hnot, h⟩ := Option.ite_none_left_eq_some.mp h
  simp only [not_or, Bool.not_eq_true] at hnot
  obtain rfl := Option.some.inj h
  refine ⟨hnot.1, ?_, rfl⟩
  simp

theorem drained_eq_some (h : s.drained = some s') :
    s.destroyed = false ∧ s' = { s with needDrain := false } := by
  obtain ⟨hnot, h⟩ := Option.ite_none_left_eq_some.mp h
  simp only [not_or, Bool.not_eq_true] at hnot
  exact ⟨hnot.1, (Option.some.inj h).symm⟩

theorem fails_eq_some (h : s.fails = some s') : s.destroyed = false ∧ s' = s.destroy := by
  obtain ⟨hnot, h⟩ := Option.ite_none_left_eq_some.mp h
  exact ⟨Bool.not_eq_true _ ▸ hnot, (Option.some.inj h).symm⟩

theorem closes_eq_some (h : s.closes = some s') :
    (s.destroyed = true ∨ s.ended = true ∧ s.finishing = true ∧ s.pending = []) ∧
      s' = { s.destroy with closed := true } := by
  obtain ⟨hnot, h⟩ := Option.ite_none_left_eq_some.mp h
  rw [not_or, not_not] at hnot
  exact ⟨hnot.2, (Option.some.inj h).symm⟩

end Events

theorem write_of_not_destroyed {s : Socket β} (h : s.destroyed = false) (bytes : List β) :
    s.write bytes = { s with
      pending := s.pending ++ bytes
      needDrain := s.needDrain || decide (s.highWaterMark ≤ (s.pending ++ bytes).length) } := by
  rw [write, h]
  rfl

section Write

variable (s : Socket β) (bytes : List β)

@[simp] theorem read_write : (s.write bytes).read = s.read := by
  unfold write
  split <;> rfl

@[simp] theorem ended_write : (s.write bytes).ended = s.ended := by
  unfold write
  split <;> rfl

@[simp] theorem destroyed_write : (s.write bytes).destroyed = s.destroyed := by
  unfold write
  split <;> rfl

end Write

/-- A socket that has ended has nothing left to read. -/
def AtEnd (s : Socket β) : Prop := s.ended = true → s.peerEnded = true ∧ s.unread = []

end Socket

/-! ### Pipes -/

section Pipe

variable {β : Type} {first chunk : List β} {src src' dst dst' : Socket β} {n : ℕ}

/-- The socket `dst` has been given `first`, and then what was read from `src`. -/
structure Carries (first : List β) (src dst : Socket β) : Prop where
  given : dst.destroyed = false → dst.sent ++ dst.pending = first ++ src.read
  sent : dst.sent <+: first ++ src.read

namespace Carries

/-- What is read from `src` has not changed, nor what was written to `dst`. -/
theorem congr (h : Carries first src dst) (hread : src'.read = src.read)
    (hsent : dst'.sent = dst.sent) (hpending : dst'.pending = dst.pending)
    (hdestroyed : dst'.destroyed = dst.destroyed) : Carries first src' dst' := by
  constructor
  · rw [hread, hsent, hpending, hdestroyed]
    exact h.given
  · rw [hread, hsent]
    exact h.sent

theorem of_given (h : dst.sent ++ dst.pending = first ++ src.read) : Carries first src dst :=
  ⟨fun _ => h, ⟨dst.pending, h⟩⟩

theorem flushed (h : Carries first src dst) (hflushed : dst.flushed n = some dst') :
    Carries first src dst' := by
  obtain ⟨hdestroyed, heq, -⟩ := Socket.flushed_eq_some hflushed
  exact of_given (heq.trans (h.given hdestroyed))

theorem destroy (h : Carries first src dst) : Carries first src dst.destroy where
  given hdestroyed := nomatch hdestroyed
  sent := h.sent

/-- A chunk that is read is written. -/
theorem data (h : Carries first src dst) (hdata : src.data n = some (chunk, src'))
    (hdestroyed : dst.destroyed = false) : Carries first src' (dst.write chunk) := by
  have hread := Socket.read_of_data hdata
  apply of_given
  rw [Socket.write_of_not_destroyed hdestroyed, hread]
  simp only
  rw [← List.append_assoc, h.given hdestroyed, List.append_assoc]

/-- A chunk that is read too late is dropped, with what is pending. -/
theorem dropped (h : Carries first src dst) (hdata : src.data n = some (chunk, src')) :
    Carries first src' dst.destroy := by
  constructor
  · intro hdestroyed
    cases hdestroyed
  · rw [Socket.read_of_data hdata, ← List.append_assoc]
    exact h.sent.trans (List.prefix_append ..)

theorem opened (hread : src.read = []) (hdestroyed : dst.destroyed = false)
    (hwritten : dst.sent ++ dst.pending = []) : Carries first src (dst.write first) := by
  apply of_given
  rw [Socket.write_of_not_destroyed hdestroyed, hread]
  simp only
  rw [← List.append_assoc, hwritten, List.nil_append, List.append_nil]

end Carries

end Pipe

end DVoD.Net
