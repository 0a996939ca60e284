import DVoD.Evm.Chain

/-!
# Executions without an owner

A contract may do some things for one address only.  `Code.Avoids` says of an execution that
no code runs under that address; `Contract.Guarded` is the rule for what holds across all
such executions: what the contract does for others has to be looked at, and only as far
as it hands control to others.
-/

namespace DVoD.Evm

variable {S Call Err : Type}

/-- No code runs under the address, unless the contract hands control to it. -/
def Code.Avoids (owner : Address) : Code Call → Prop
  | .stop | .revert => True
  | .emit _ _ next => next.Avoids owner
  | .force _ next => next.Avoids owner
  | .invoke _ _ callee next => callee.Avoids owner ∧ next.Avoids owner
  | .visit contract body next => contract ≠ owner ∧ body.Avoids owner ∧ next.Avoids owner

namespace Contract

/-- As `Frames`, where the owner does not call, and is not handed control either. -/
structure Guarded (K : Contract S Call Err) (owner : Address) (rel : World S → World S → Prop) : Prop where
  refl : ∀ w, rel w w
  trans : ∀ {w₁ w₂ w₃}, rel w₁ w₂ → rel w₂ w₃ → rel w₁ w₃
  emit : ∀ w self topics data, self ≠ K.address → rel w (w.emit self topics data)
  force : ∀ w amount, rel w (w.force amount)
  entry : ∀ {receive msg call w w'}, msg.sender ≠ K.address → msg.sender ≠ owner →
    (∀ {payee w₁ w₂}, receive payee w₁ = some w₂ → payee ≠ K.address ∧ (payee ≠ owner → rel w₁ w₂)) →
    K.callFrame receive msg call w = .ok w' → rel w w'

variable {K : Contract S Call Err} {owner : Address} {rel : World S → World S → Prop}

/-- **The rule for outsiders.**  What the contract keeps where others call it holds across
    every execution in which no code runs under the owner's address. -/
theorem Guarded.exec (hK : K.Guarded owner rel) {now : Nat} {code : Code Call} {self : Address}
    {w w' : World S} (havoids : code.Avoids owner) (hself : self ≠ K.address) (howner : self ≠ owner)
    (h : K.exec now code self w = some w') : rel w w' := by
  induction code generalizing self w w' with
  | stop =>
    simp only [Contract.exec, Option.some.injEq] at h
    rw [h]
    exact hK.refl w'
  | revert => cases h
  | emit topics data next ih =>
    exact hK.trans (hK.emit w self topics data hself) (ih havoids hself howner h)
  | force amount next ih => exact hK.trans (hK.force w amount) (ih havoids hself howner h)
  | invoke call value callee next ihCallee ihNext =>
    obtain ⟨hcallee, hnext⟩ := havoids
    simp only [Contract.exec] at h
    split at h
    · next w₁ hcall =>
      have hsender : (⟨self, value, now⟩ : Msg).sender ≠ K.address := hself
      refine hK.trans (hK.entry hsender howner ?_ hcall) (ihNext hnext hself howner h)
      intro payee w₂ w₃ hreceive
      split at hreceive
      · cases hreceive
      · next hto => exact ⟨hto, fun hpayee => ihCallee hcallee hto hpayee hreceive⟩
    · exact ihNext hnext hself howner h
  | visit dest body next ihBody ihNext =>
    obtain ⟨hdest, hbody, hnext⟩ := havoids
    simp only [Contract.exec] at h
    split at h
    · next w₁ hvisit =>
      split at hvisit
      · cases hvisit
      · next hto => exact hK.trans (ihBody hbody hto hdest hvisit) (ihNext hnext hself howner h)
    · exact ihNext hnext hself howner h

theorem Guarded.receiver (hK : K.Guarded owner rel) {now : Nat} {callee : Code Call}
    (havoids : callee.Avoids owner) {payee : Address} {w w' : World S}
    (h : K.receiver now callee payee w = some w') :
    payee ≠ K.address ∧ (payee ≠ owner → rel w w') := by
  simp only [Contract.receiver] at h
  split at h
  · cases h
  · next hto => exact ⟨hto, fun hpayee => hK.exec havoids hto hpayee h⟩

end Contract

/-! ### Transactions -/

/-- The owner has not signed the transaction, and no code runs under its address. -/
def Transaction.Avoids {K : Contract S Call Err} (owner : Address) (tx : Transaction K) : Prop :=
  tx.sender ≠ owner ∧
  match tx.action with
  | .call _ _ callee => callee.Avoids owner
  | .visit dest body => dest ≠ owner ∧ body.Avoids owner
  | .create created body => created ≠ owner ∧ body.Avoids owner

section Rules

variable {K : Contract S Call Err} {owner : Address} {rel : World S → World S → Prop}

theorem Contract.Guarded.execute (hK : K.Guarded owner rel) {tx : Transaction K} {w w' : World S}
    (havoids : tx.Avoids owner) (h : tx.execute w = some w') : rel w w' := by
  obtain ⟨hsender, haction⟩ := havoids
  unfold Transaction.execute at h
  split at h
  · next hcall =>
    rw [hcall] at haction
    split at h
    · next hentry =>
      rw [← Option.some.inj h]
      exact hK.entry tx.sender_ne hsender (hK.receiver haction) hentry
    · cases h
  · next hvisit =>
    rw [hvisit] at haction
    exact (hK.receiver haction.2 h).2 haction.1
  · next hcreate =>
    rw [hcreate] at haction
    exact (hK.receiver haction.2 h).2 haction.1

theorem Contract.Guarded.mineAll (hK : K.Guarded owner rel) (chain : Chain S) {txs : List (Transaction K)}
    (havoids : ∀ tx ∈ txs, tx.Avoids owner) : rel chain.world (chain.mineAll txs).world := by
  induction txs generalizing chain with
  | nil => exact hK.refl _
  | cons tx txs ih =>
    obtain ⟨htx, htxs⟩ := List.forall_mem_cons.mp havoids
    refine hK.trans ?_ (ih (chain.mine tx) htxs)
    cases h : tx.execute chain.world with
    | none => simpa only [Chain.mine, h, Option.getD_none] using hK.refl _
    | some w => simpa only [Chain.mine, h, Option.getD_some] using hK.execute htx h

end Rules

end DVoD.Evm
