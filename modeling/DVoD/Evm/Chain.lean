import DVoD.Evm.Execution
import Mathlib.Data.List.Induction

/-!
# Chains of transactions

A transaction calls the contract, or runs other code that may.  It leaves a receipt;
where it reverts, the receipt is all it leaves.  `Contract.Frames.mineAll` lifts the
re-entrancy rule of `DVoD.Evm.Execution` to transactions and to chains.
-/

namespace DVoD.Evm

inductive Status where
  | success
  | reverted
deriving DecidableEq

/-- What a node reports of a mined transaction.  `dest` is `none` for a contract
    creation. -/
structure Receipt where
  transactionHash : Word
  status : Status
  dest : Option Address
  logs : List Log

variable {S Call Err : Type}

/-- What the sender signed: a call to the modelled contract, or code at an address
    (for a creation, at the address created). -/
inductive Action (Call : Type) where
  | call (call : Call) (value : Nat) (callee : Code Call)
  | visit (dest : Address) (body : Code Call)
  | create (created : Address) (body : Code Call)

/-- A transaction.  Its sender has a key, so it is not the contract. -/
structure Transaction (K : Contract S Call Err) where
  hash : Word
  sender : Address
  sender_ne : sender ≠ K.address
  timestamp : Nat
  action : Action Call

/-- The world, and the receipt of every transaction mined so far. -/
structure Chain (S : Type) where
  world : World S
  receipts : List Receipt

namespace Transaction

variable {K : Contract S Call Err}

def execute (tx : Transaction K) (w : World S) : Option (World S) :=
  match tx.action with
  | .call call value callee =>
      match K.callFrame (K.receiver tx.timestamp callee) ⟨tx.sender, value, tx.timestamp⟩ call w with
      | .ok w' => some w'
      | .error _ => none
  | .visit dest body => K.receiver tx.timestamp body dest w
  | .create created body => K.receiver tx.timestamp body created w

def dest (tx : Transaction K) : Option Address :=
  match tx.action with
  | .call .. => some K.address
  | .visit dest _ => some dest
  | .create .. => none

def receipt (tx : Transaction K) (w : World S) : Receipt :=
  match tx.execute w with
  | some w' => ⟨tx.hash, .success, tx.dest, w'.logs.drop w.logs.length⟩
  | none => ⟨tx.hash, .reverted, tx.dest, []⟩

theorem receipt_status (tx : Transaction K) (w : World S) :
    (tx.receipt w).status = .success ↔ (tx.execute w).isSome := by
  unfold receipt
  cases tx.execute w with
  | none => simp
  | some w' => simp

theorem receipt_transactionHash (tx : Transaction K) (w : World S) :
    (tx.receipt w).transactionHash = tx.hash := by
  unfold receipt
  split <;> rfl

theorem receipt_dest (tx : Transaction K) (w : World S) : (tx.receipt w).dest = tx.dest := by
  unfold receipt
  split <;> rfl

end Transaction

namespace Chain

variable {K : Contract S Call Err}

def mine (chain : Chain S) (tx : Transaction K) : Chain S :=
  ⟨(tx.execute chain.world).getD chain.world, chain.receipts ++ [tx.receipt chain.world]⟩

theorem mine_world (chain : Chain S) (tx : Transaction K) :
    (chain.mine tx).world = (tx.execute chain.world).getD chain.world := rfl

def mineAll (chain : Chain S) (txs : List (Transaction K)) : Chain S := txs.foldl mine chain

@[simp] theorem mineAll_nil (chain : Chain S) : chain.mineAll ([] : List (Transaction K)) = chain := rfl
@[simp] theorem mineAll_cons (chain : Chain S) (tx : Transaction K) (txs : List (Transaction K)) :
    chain.mineAll (tx :: txs) = (chain.mine tx).mineAll txs := rfl

theorem mineAll_append (chain : Chain S) (txs txs' : List (Transaction K)) :
    chain.mineAll (txs ++ txs') = (chain.mineAll txs).mineAll txs' :=
  List.foldl_append

/-- The receipts of transactions mined on top of the chain. -/
def receiptsOf (chain : Chain S) (txs : List (Transaction K)) : List Receipt :=
  (chain.mineAll txs).receipts.drop chain.receipts.length

theorem prefix_receipts (chain : Chain S) (txs : List (Transaction K)) :
    chain.receipts <+: (chain.mineAll txs).receipts := by
  induction txs generalizing chain with
  | nil => exact List.prefix_rfl
  | cons tx txs ih => exact (List.prefix_append _ _).trans (ih (chain.mine tx))

@[simp] theorem receiptsOf_nil (chain : Chain S) :
    chain.receiptsOf ([] : List (Transaction K)) = [] := List.drop_length

@[simp] theorem receiptsOf_cons (chain : Chain S) (tx : Transaction K) (txs : List (Transaction K)) :
    chain.receiptsOf (tx :: txs) = tx.receipt chain.world :: (chain.mine tx).receiptsOf txs := by
  obtain ⟨new, hnew⟩ := (chain.mine tx).prefix_receipts txs
  have hmine : (chain.mine tx).receipts = chain.receipts ++ [tx.receipt chain.world] := rfl
  rw [receiptsOf, receiptsOf, mineAll_cons, ← hnew, List.drop_left, hmine, List.append_assoc,
    List.drop_left, List.singleton_append]

/-- Every receipt is that of a transaction in the state it was mined in. -/
theorem exists_of_mem_receipts {chain : Chain S} {txs : List (Transaction K)} {receipt : Receipt}
    (h : receipt ∈ (chain.mineAll txs).receipts) : receipt ∈ chain.receipts ∨
      ∃ before tx after, txs = before ++ tx :: after ∧
        receipt = tx.receipt (chain.mineAll before).world := by
  induction txs generalizing chain with
  | nil => exact .inl h
  | cons tx txs ih =>
    rcases ih h with hmem | ⟨before, tx', after, rfl, rfl⟩
    · rcases List.mem_append.mp hmem with hmem | hmem
      · exact .inl hmem
      · exact .inr ⟨[], tx, txs, rfl, List.mem_singleton.mp hmem⟩
    · exact .inr ⟨tx :: before, tx', after, rfl, rfl⟩

end Chain

/-! ### The re-entrancy rule, for transactions and chains -/

section Rules

variable {K : Contract S Call Err} {rel : World S → World S → Prop}

theorem Contract.Frames.execute (hK : K.Frames rel) {tx : Transaction K} {w w' : World S}
    (h : tx.execute w = some w') : rel w w' := by
  simp only [Transaction.execute] at h
  split at h
  · split at h
    · next hcall => exact Option.some.inj h ▸ hK.entry tx.sender_ne hK.receiver hcall
    · cases h
  · exact (hK.receiver h).2
  · exact (hK.receiver h).2

theorem Contract.Frames.mine (hK : K.Frames rel) (chain : Chain S) (tx : Transaction K) :
    rel chain.world (chain.mine tx).world := by
  rcases h : tx.execute chain.world with _ | w
  · simpa only [Chain.mine, h, Option.getD_none] using hK.refl _
  · simpa only [Chain.mine, h, Option.getD_some] using hK.execute h

theorem Contract.Frames.mineAll (hK : K.Frames rel) (chain : Chain S)
    (txs : List (Transaction K)) : rel chain.world (chain.mineAll txs).world := by
  induction txs generalizing chain with
  | nil => exact hK.refl _
  | cons tx txs ih => exact hK.trans (hK.mine chain tx) (ih (chain.mine tx))

end Rules

end DVoD.Evm
