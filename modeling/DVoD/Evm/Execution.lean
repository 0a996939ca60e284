import DVoD.Evm.Word

/-!
# Transactions through one contract, with re-entrancy

One contract is modelled in full; everything else on the chain is code we know
nothing about.  `Code` is what such code does in one execution: it emits logs
under its own address, forces ether into the contract, calls the contract with any
arguments and value, calls other contracts, and returns or reverts.  An execution
of arbitrary code is a finite tree of this shape, so a theorem about all trees is
a theorem about all callers and callees, re-entrant ones included.  A frame that
runs out of gas is a frame that reverts.

The contract hands control away only where its own code sends value: `entry`
takes the effect of that hand-over as a parameter, and `exec` ties the knot.
`Frames` is the rule for proofs: a preorder on worlds that holds across every action
of foreign code, and across every entry whenever it holds across the hand-overs of
that entry, holds across every execution.
-/

namespace DVoD.Evm

structure Log where
  address : Address
  topics : List Word
  data : Bytes
deriving DecidableEq

structure Msg where
  sender : Address
  value : Nat
  timestamp : Nat

structure Transfer where
  payee : Address
  amount : Nat
deriving DecidableEq

/-- The part of the chain that execution reads and writes: storage and balance of
    the modelled contract, and all logs so far.  `forced` and `sent` are history
    variables: the ether that ever reached the contract without a call to it, and
    every transfer of value out of it. -/
structure World (S : Type) where
  storage : S
  balance : Nat
  forced : Nat
  sent : List Transfer
  logs : List Log

variable {S Call Err : Type}

namespace World

def emit (w : World S) (address : Address) (topics : List Word) (data : Bytes) : World S :=
  { w with logs := w.logs ++ [⟨address, topics, data⟩] }

def force (w : World S) (amount : Nat) : World S :=
  { w with balance := w.balance + amount, forced := w.forced + amount }

def credit (w : World S) (value : Nat) : World S := { w with balance := w.balance + value }

def debit (w : World S) (payee : Address) (amount : Nat) : World S :=
  { w with balance := w.balance - amount, sent := w.sent ++ [⟨payee, amount⟩] }

variable (w : World S) (value amount : Nat) (payee : Address)

@[simp] theorem credit_zero : w.credit 0 = w := rfl
@[simp] theorem credit_storage : (w.credit value).storage = w.storage := rfl
@[simp] theorem credit_balance : (w.credit value).balance = w.balance + value := rfl
@[simp] theorem credit_forced : (w.credit value).forced = w.forced := rfl
@[simp] theorem credit_sent : (w.credit value).sent = w.sent := rfl
@[simp] theorem debit_storage : (w.debit payee amount).storage = w.storage := rfl
@[simp] theorem debit_balance : (w.debit payee amount).balance = w.balance - amount := rfl
@[simp] theorem debit_forced : (w.debit payee amount).forced = w.forced := rfl
@[simp] theorem debit_sent : (w.debit payee amount).sent = w.sent ++ [⟨payee, amount⟩] := rfl
@[simp] theorem debit_logs : (w.debit payee amount).logs = w.logs := rfl

end World

/-- One execution of code that is not the modelled contract's. -/
inductive Code (Call : Type) where
  | stop
  | revert
  | emit (topics : List Word) (data : Bytes) (next : Code Call)
  | force (amount : Nat) (next : Code Call)
  -- `callee` is what whoever the contract pays during this call does with control
  | invoke (call : Call) (value : Nat) (callee next : Code Call)
  | visit (contract : Address) (body next : Code Call)

/-- The effect of handing control to an address: the world it returns in, or
    `none` where the call failed. -/
abbrev Receive (S : Type) := Address → World S → Option (World S)

/-- `payee.call{value: amount}("")`. -/
def transfer (receive : Receive S) (payee : Address) (amount : Nat) (w : World S) :
    Option (World S) :=
  if w.balance < amount then none else receive payee (w.debit payee amount)

theorem transfer_eq_some {receive : Receive S} {payee : Address} {amount : Nat} {w w' : World S}
    (h : transfer receive payee amount w = some w') :
    amount ≤ w.balance ∧ receive payee (w.debit payee amount) = some w' := by
  simp only [transfer] at h
  split at h
  · cases h
  · next hle => exact ⟨Nat.le_of_not_lt hle, h⟩

/-- The modelled contract.  `entry` starts from the world in which `msg.value` is
    already credited; an error reverts the frame. -/
structure Contract (S Call Err : Type) where
  address : Address
  entry : Receive S → Msg → Call → World S → Except Err (World S)

namespace Contract

variable (K : Contract S Call Err)

/-- Call the contract; a frame that reverts leaves the world as it was. -/
def callFrame (receive : Receive S) (msg : Msg) (call : Call) (w : World S) :
    Except Err (World S) :=
  K.entry receive msg call (w.credit msg.value)

/-- Run code under the address `self`; `none` where it reverts.  The contract has no
    `receive` function and no code but its own, so paying or visiting it fails. -/
def exec (now : Nat) : Code Call → Address → World S → Option (World S)
  | .stop, _, w => some w
  | .revert, _, _ => none
  | .emit topics data next, self, w => exec now next self (w.emit self topics data)
  | .force amount next, self, w => exec now next self (w.force amount)
  | .invoke call value callee next, self, w =>
      let receive : Receive S := fun payee w =>
        if payee = K.address then none else exec now callee payee w
      match K.callFrame receive ⟨self, value, now⟩ call w with
      | .ok w' => exec now next self w'
      | .error _ => exec now next self w
  | .visit dest body next, self, w =>
      match if dest = K.address then none else exec now body dest w with
      | some w' => exec now next self w'
      | none => exec now next self w

/-- Hand control to whoever the contract pays, running `callee` there. -/
def receiver (now : Nat) (callee : Code Call) : Receive S := fun payee w =>
  if payee = K.address then none else K.exec now callee payee w

theorem exec_invoke (now : Nat) (call : Call) (value : Nat) (callee next : Code Call)
    (self : Address) (w : World S) :
    K.exec now (.invoke call value callee next) self w =
      match K.callFrame (K.receiver now callee) ⟨self, value, now⟩ call w with
      | .ok w' => K.exec now next self w'
      | .error _ => K.exec now next self w := rfl

/-- A relation of worlds that holds across every action of foreign code, and across
    every entry whenever it holds across the hand-overs of that entry. -/
structure Frames (rel : World S → World S → Prop) : Prop where
  refl : ∀ w, rel w w
  trans : ∀ {w₁ w₂ w₃}, rel w₁ w₂ → rel w₂ w₃ → rel w₁ w₃
  emit : ∀ w self topics data, self ≠ K.address → rel w (w.emit self topics data)
  force : ∀ w amount, rel w (w.force amount)
  entry : ∀ {receive msg call w w'}, msg.sender ≠ K.address →
    (∀ {payee w₁ w₂}, receive payee w₁ = some w₂ → payee ≠ K.address ∧ rel w₁ w₂) →
    K.callFrame receive msg call w = .ok w' → rel w w'

variable {K} {rel : World S → World S → Prop}

/-- **The re-entrancy rule.**  What frames a contract holds across every execution. -/
theorem Frames.exec (hK : K.Frames rel) {now : Nat} {code : Code Call} {self : Address}
    {w w' : World S} (hself : self ≠ K.address) (h : K.exec now code self w = some w') :
    rel w w' := by
  induction code generalizing self w w' with
  | stop => simp only [Contract.exec, Option.some.injEq] at h; exact h ▸ hK.refl w
  | revert => simp [Contract.exec] at h
  | emit topics data next ih => exact hK.trans (hK.emit w self topics data hself) (ih hself h)
  | force amount next ih => exact hK.trans (hK.force w amount) (ih hself h)
  | invoke call value callee next ihCallee ihNext =>
    simp only [Contract.exec] at h
    split at h
    · next w₁ hcall =>
      have hsender : (⟨self, value, now⟩ : Msg).sender ≠ K.address := hself
      refine hK.trans (hK.entry hsender ?_ hcall) (ihNext hself h)
      intro payee w₂ w₃ hreceive
      split at hreceive
      · cases hreceive
      · next hto => exact ⟨hto, ihCallee hto hreceive⟩
    · exact ihNext hself h
  | visit dest body next ihBody ihNext =>
    simp only [Contract.exec] at h
    split at h
    · next w₁ hbody =>
      split at hbody
      · cases hbody
      · next hto => exact hK.trans (ihBody hto hbody) (ihNext hself h)
    · exact ihNext hself h

theorem Frames.receiver (hK : K.Frames rel) {now : Nat} {callee : Code Call} {payee : Address}
    {w w' : World S} (h : K.receiver now callee payee w = some w') :
    payee ≠ K.address ∧ rel w w' := by
  simp only [Contract.receiver] at h
  split at h
  · cases h
  · next hto => exact ⟨hto, hK.exec hto h⟩

end Contract

end DVoD.Evm
