import Mathlib.Data.List.Infix

/-!
# Connections with receive callbacks

A connection of which a program asks for the next bytes, one callback at a time.  What it
sends is delivered in the order of the calls, and `cancel` ends both directions.  The
functions that return an option are what happens to it; `none` cannot happen.
-/

namespace DVoD.Net

/-- `incoming` is what the peer has sent and no callback was given yet. -/
structure Channel (β : Type) where
  received : List β
  incoming : List β
  peerEnded : Bool
  sends : List (List β)
  cancelled : Bool

namespace Channel

variable {β : Type}

def fresh : Channel β := ⟨[], [], false, [], false⟩

/-- All that the peer has sent. -/
def stream (c : Channel β) : List β := c.received ++ c.incoming

def sent (c : Channel β) : List β := c.sends.flatten

/-! ### What a program does -/

def send (c : Channel β) (content : List β) : Channel β :=
  if c.cancelled then c else { c with sends := c.sends ++ [content] }

/-- `send`, where there is anything to send. -/
def sendAny (c : Channel β) (content : List β) : Channel β :=
  if content.isEmpty then c else c.send content

def cancel (c : Channel β) : Channel β := { c with cancelled := true }

/-! ### What happens to it -/

def peerSends (c : Channel β) (bytes : List β) : Option (Channel β) :=
  if c.peerEnded then none else some { c with incoming := c.incoming ++ bytes }

def peerEnds (c : Channel β) : Option (Channel β) :=
  if c.peerEnded then none else some { c with peerEnded := true }

/-- A callback with the next `n` bytes, at most `maximumLength`.  It has bytes unless it tells
    that the peer's stream is complete, or of an error. -/
def receive (c : Channel β) (maximumLength n : ℕ) (isComplete error : Bool) :
    Option (List β × Channel β) :=
  if c.cancelled ∨ c.incoming.length < n ∨ maximumLength < n ∨
      (n = 0 ∧ isComplete = false ∧ error = false) ∨
      (isComplete ∧ ¬ (c.peerEnded ∧ c.incoming.length = n)) then none
  else
    some (c.incoming.take n,
      { c with received := c.received ++ c.incoming.take n, incoming := c.incoming.drop n })

/-- `chunk` was received, and nothing else has happened. -/
structure Took (c : Channel β) (chunk : List β) (c' : Channel β) : Prop where
  received : c'.received = c.received ++ chunk
  incoming : c.incoming = chunk ++ c'.incoming
  sends : c'.sends = c.sends
  cancelled : c'.cancelled = c.cancelled

section Steps

variable {c c' : Channel β} {bytes chunk : List β} {maximumLength n : ℕ} {isComplete error : Bool}

theorem send_of_open (h : c.cancelled = false) (content : List β) :
    c.send content = { c with sends := c.sends ++ [content] } := by
  simp [send, h]

@[simp] theorem received_send (content : List β) : (c.send content).received = c.received := by
  unfold send
  split <;> rfl

@[simp] theorem incoming_send (content : List β) : (c.send content).incoming = c.incoming := by
  unfold send
  split <;> rfl

@[simp] theorem cancelled_send (content : List β) : (c.send content).cancelled = c.cancelled := by
  unfold send
  split <;> rfl

theorem sent_send (h : c.cancelled = false) (content : List β) :
    (c.send content).sent = c.sent ++ content := by
  rw [send_of_open h]
  simp [sent]

@[simp] theorem received_sendAny (content : List β) : (c.sendAny content).received = c.received := by
  unfold sendAny
  split
  · rfl
  · exact received_send content

@[simp] theorem incoming_sendAny (content : List β) : (c.sendAny content).incoming = c.incoming := by
  unfold sendAny
  split
  · rfl
  · exact incoming_send content

@[simp] theorem cancelled_sendAny (content : List β) : (c.sendAny content).cancelled = c.cancelled := by
  unfold sendAny
  split
  · rfl
  · exact cancelled_send content

theorem sent_sendAny (h : c.cancelled = false) (content : List β) :
    (c.sendAny content).sent = c.sent ++ content := by
  unfold sendAny
  split
  · next hempty => rw [List.isEmpty_iff.mp hempty, List.append_nil]
  · exact sent_send h content

/-- What was sent first stays so. -/
theorem head?_sends_sendAny {first : List β} (h : c.sends.head? = some first) (content : List β) :
    (c.sendAny content).sends.head? = some first := by
  unfold sendAny send
  split
  · exact h
  · split
    · exact h
    · rw [List.head?_append, h]
      rfl

theorem peerSends_eq_some (h : c.peerSends bytes = some c') :
    c' = { c with incoming := c.incoming ++ bytes } := by
  obtain ⟨-, h⟩ := Option.ite_none_left_eq_some.mp h
  exact (Option.some.inj h).symm

theorem peerEnds_eq_some (h : c.peerEnds = some c') : c' = { c with peerEnded := true } := by
  obtain ⟨-, h⟩ := Option.ite_none_left_eq_some.mp h
  exact (Option.some.inj h).symm

/-- What is received is taken from what has come. -/
theorem receive_eq_some (h : c.receive maximumLength n isComplete error = some (chunk, c')) :
    c.Took chunk c' ∧ c'.incoming = c.incoming.drop n := by
  obtain ⟨-, h⟩ := Option.ite_none_left_eq_some.mp h
  cases Option.some.inj h
  exact ⟨⟨rfl, (List.take_append_drop n c.incoming).symm, rfl, rfl⟩, rfl⟩

end Steps

end Channel

end DVoD.Net
