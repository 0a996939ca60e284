import DVoD.Arc.Books
import DVoD.Evm.Guard

/-!
# Who moves the money

Value leaves the escrow only for its admin: whatever others do, and however they nest their
calls, the escrow pays nobody, refunds nothing and loses nothing
(`outsiders_take_nothing`).  The escrow keeps no reserve for refunds: every session that is
not refunded yet still can be as long as operators were paid no more than what reached the
escrow unasked (`outstanding_refundable_iff`).
-/

namespace DVoD.Arc

open DVoD.Evm

/-! ### Outsiders -/

/-- Nothing has left the escrow, no session has changed, and no payout or refund was
    reported. -/
structure Untouched (D : Deployment) (w w' : EscrowWorld) : Prop where
  sent : w'.sent = w.sent
  balance : w.balance ≤ w'.balance
  next : w.storage.nextSessionId ≤ w'.storage.nextSessionId
  sessions : ∀ i < w.storage.nextSessionId, w'.storage.sessions i = w.storage.sessions i
  reported : ∃ new, w'.logs = w.logs ++ new ∧
    ∀ log ∈ new, log.address = D.address → ∃ i payer tier hours_ paidAmount,
      log = D.log (.SessionPurchased i payer tier hours_ paidAmount)

section Outsiders

variable {D : Deployment} {w w₁ w₂ w' : EscrowWorld} {msg : Msg} {receive : Receive Storage}

theorem Untouched.refl (D : Deployment) (w : EscrowWorld) : Untouched D w w where
  sent := rfl
  balance := Nat.le_refl _
  next := Nat.le_refl _
  sessions _ _ := rfl
  reported := ⟨[], (List.append_nil _).symm, List.forall_mem_nil _⟩

theorem Untouched.trans (h₁ : Untouched D w w₁) (h₂ : Untouched D w₁ w₂) : Untouched D w w₂ where
  sent := h₂.sent.trans h₁.sent
  balance := Nat.le_trans h₁.balance h₂.balance
  next := Nat.le_trans h₁.next h₂.next
  sessions i hi := (h₂.sessions i (Nat.lt_of_lt_of_le hi h₁.next)).trans (h₁.sessions i hi)
  reported := by
    obtain ⟨new₁, hnew₁, hlogs₁⟩ := h₁.reported
    obtain ⟨new₂, hnew₂, hlogs₂⟩ := h₂.reported
    refine ⟨new₁ ++ new₂, by rw [hnew₂, hnew₁, List.append_assoc], ?_⟩
    intro log hlog
    rcases List.mem_append.mp hlog with hlog | hlog
    · exact hlogs₁ log hlog
    · exact hlogs₂ log hlog

theorem untouched_purchaseSession {tier : EscrowTier} {hours_ : ℕ}
    (h : D.purchaseSession msg tier hours_ (w.credit msg.value) = .ok w') : Untouched D w w' := by
  simp only [Deployment.purchaseSession] at h
  split at h
  · cases h
  split at h
  · cases h
  split at h
  · cases h
  obtain rfl := Except.ok.inj h
  refine ⟨rfl, Nat.le_add_right _ _, Nat.le_succ _, ?_, ⟨[_], rfl, ?_⟩⟩
  · intro i hi
    exact w.storage.create_sessions_of_ne _ (Nat.ne_of_lt hi)
  · intro log hlog _
    rw [List.mem_singleton.mp hlog]
    exact ⟨_, _, _, _, _, rfl⟩

/-- Only the admin makes the escrow pay. -/
theorem payoutOperator_sender {payee : Address} {amount : ℕ}
    (h : D.payoutOperator receive msg payee amount w = .ok w') : msg.sender = D.ADMIN := by
  by_contra hne
  unfold Deployment.payoutOperator at h
  split at h
  · cases h
  · cases h

theorem refundSession_sender {sessionId : ℕ}
    (h : D.refundSession receive msg sessionId w = .ok w') : msg.sender = D.ADMIN := by
  by_contra hne
  unfold Deployment.refundSession at h
  split at h
  · cases h
  · cases h

theorem guarded_untouched (D : Deployment) : D.escrow.Guarded D.ADMIN (Untouched D) where
  refl := Untouched.refl D
  trans := Untouched.trans
  emit w self topics data hself := by
    refine ⟨rfl, Nat.le_refl _, Nat.le_refl _, fun _ _ => rfl, ⟨[_], rfl, ?_⟩⟩
    intro log hlog haddress
    rw [List.mem_singleton.mp hlog] at haddress
    exact absurd haddress hself
  force w amount :=
    ⟨rfl, Nat.le_add_right _ _, Nat.le_refl _, fun _ _ => rfl, (Untouched.refl D w).reported⟩
  entry {receive msg call w w'} _ howner _ h := by
    cases call with
    | purchaseSession tier hours_ => exact untouched_purchaseSession h
    | payoutOperator payee amount => exact absurd (payoutOperator_sender h) howner
    | refundSession sessionId => exact absurd (refundSession_sender h) howner

end Outsiders

/-- **Outsiders take nothing.**  After any transactions, further transactions in which no
    code runs for the admin leave all that was sent, every session and its refund as they
    were, and the balance at least what it was, whatever they call, force or nest. -/
theorem outsiders_take_nothing (D : Deployment) (txs txs' : List (Transaction D.escrow))
    (havoids : ∀ tx ∈ txs', tx.Avoids D.ADMIN) :
    Untouched D (D.chain txs).world (D.chain (txs ++ txs')).world := by
  rw [D.chain_append]
  exact (guarded_untouched D).mineAll (D.chain txs) havoids

/-- Somebody buys a session and fails to refund it, which reverts only the refund. -/
theorem outsiders_take_nothing_refused :
    let D : Deployment := ⟨1, 2⟩
    let buy : Transaction D.escrow :=
      ⟨0, 3, by decide, 1000, .call (.purchaseSession .Lite 1) 100000000000000000 .stop⟩
    let attempt : Transaction D.escrow :=
      ⟨1, 3, by decide, 1001, .visit 4 (.invoke (.refundSession 0) 0 .stop .stop)⟩
    (∀ tx ∈ [attempt], tx.Avoids D.ADMIN) ∧
      Untouched D (D.chain [buy]).world (D.chain ([buy] ++ [attempt])).world := by
  have havoids : ∀ tx ∈ [(⟨1, 3, by decide, 1001, .visit 4 (.invoke (.refundSession 0) 0 .stop .stop)⟩ :
      Transaction (Deployment.escrow ⟨1, 2⟩))], tx.Avoids 2 := by
    intro tx htx
    rw [List.mem_singleton.mp htx]
    exact ⟨by decide, by decide, ⟨trivial, trivial⟩⟩
  exact ⟨havoids, outsiders_take_nothing ⟨1, 2⟩ _ _ havoids⟩

/-! ### Refunds -/

/-- Every session was bought by an account of its own, not by the escrow. -/
def Payers (D : Deployment) (w : EscrowWorld) : Prop :=
  ∀ i < w.storage.nextSessionId, (w.storage.sessions i).payer ≠ D.address

section Payers

variable {D : Deployment} {w w' : EscrowWorld} {msg : Msg}

theorem payers_purchaseSession {tier : EscrowTier} {hours_ : ℕ} (hsender : msg.sender ≠ D.address)
    (hw : Payers D w) (h : D.purchaseSession msg tier hours_ (w.credit msg.value) = .ok w') :
    Payers D w' := by
  simp only [Deployment.purchaseSession] at h
  split at h
  · cases h
  split at h
  · cases h
  split at h
  · cases h
  obtain rfl := Except.ok.inj h
  intro i hi
  rw [emit_storage, World.credit_storage] at hi ⊢
  by_cases his : i = w.storage.nextSessionId
  · rw [his, Storage.create_sessions_self]
    exact hsender
  · rw [w.storage.create_sessions_of_ne _ his]
    exact hw i (by rw [Storage.create_nextSessionId] at hi; omega)

theorem payers_setRefunded (hw : Payers D w) (i : ℕ) :
    Payers D { w with storage := w.storage.setRefunded i } := by
  intro j hj
  by_cases hji : j = i
  · subst hji
    rw [Storage.setRefunded_sessions_self]
    exact hw j hj
  · rw [w.storage.setRefunded_sessions_of_ne hji]
    exact hw j hj

theorem frames_payers (D : Deployment) : D.escrow.Frames fun w w' => Payers D w → Payers D w' where
  refl _ hw := hw
  trans h₁ h₂ hw := h₂ (h₁ hw)
  emit _ _ _ _ _ hw := hw
  force _ _ hw := hw
  entry {receive msg call w w'} hsender hreceive h hw := by
    cases call with
    | purchaseSession tier hours_ => exact payers_purchaseSession hsender hw h
    | payoutOperator payee amount =>
      change D.payoutOperator receive msg payee amount.toNat (w.credit msg.value) = .ok w' at h
      unfold Deployment.payoutOperator at h
      split at h
      · cases h
      split at h
      · cases h
      split at h
      · cases h
      split at h
      · cases h
      next w₂ htransfer =>
      obtain rfl := Except.ok.inj h
      exact (hreceive (transfer_eq_some htransfer).2).2 hw
    | refundSession sessionId =>
      change D.refundSession receive msg sessionId.toNat (w.credit msg.value) = .ok w' at h
      simp only [Deployment.refundSession] at h
      split at h
      · cases h
      split at h
      · cases h
      split at h
      · cases h
      split at h
      · cases h
      split at h
      · cases h
      next w₂ htransfer =>
      obtain rfl := Except.ok.inj h
      exact (hreceive (transfer_eq_some htransfer).2).2 (payers_setRefunded hw sessionId.toNat)

theorem chain_payers (D : Deployment) (txs : List (Transaction D.escrow)) :
    Payers D (D.chain txs).world :=
  (frames_payers D).mineAll ⟨Deployment.genesis, []⟩ txs fun i hi => absurd hi (Nat.not_lt_zero i)

end Payers

/-- The sessions that are not refunded, oldest first. -/
def Storage.outstanding (s : Storage) : List ℕ :=
  (List.range s.nextSessionId).filter fun i => !(s.sessions i).refunded

/-- The session is there to be refunded, and its payer is not the escrow. -/
structure Owed (D : Deployment) (s : Storage) (i : ℕ) : Prop where
  lt : i < 2 ^ 256
  payer_ne_zero : (s.sessions i).payer ≠ 0
  payer_ne : (s.sessions i).payer ≠ D.address
  refunded : (s.sessions i).refunded = false

/-- The admin refunds the sessions one by one, to payers that take the value. -/
def Refunding (D : Deployment) (txs : List (Transaction D.escrow)) (ids : List ℕ) : Prop :=
  List.Forall₂ (fun tx i => tx.sender = D.ADMIN ∧ tx.action = .call (.refundSession (word i)) 0 .stop)
    txs ids

/-- The session is refunded and the money gone. -/
def Deployment.repaid (D : Deployment) (w : EscrowWorld) (i : ℕ) : EscrowWorld :=
  let session := w.storage.sessions i
  D.emit (World.debit { w with storage := w.storage.setRefunded i } session.payer session.paidAmount)
    (.SessionRefunded i session.payer session.paidAmount)

section Refunds

variable {D : Deployment} {w : EscrowWorld} {i : ℕ} {ids : List ℕ}

theorem callFrame_refundSession (receive : Receive Storage) (msg : Msg) (sessionId : Word) :
    D.escrow.callFrame receive msg (.refundSession sessionId) w =
      D.refundSession receive msg sessionId.toNat (w.credit msg.value) := rfl

/-- What the admin's refund does: it succeeds where the balance covers what was paid. -/
theorem refund_execute {tx : Transaction D.escrow} (howed : Owed D w.storage i)
    (hsender : tx.sender = D.ADMIN) (haction : tx.action = .call (.refundSession (word i)) 0 .stop) :
    tx.execute w =
      if (w.storage.sessions i).paidAmount ≤ w.balance then some (D.repaid w i) else none := by
  unfold Transaction.execute
  rw [haction]
  simp only [callFrame_refundSession, toNat_word howed.lt, World.credit_zero]
  unfold Deployment.refundSession
  have hreceive : ∀ w' : EscrowWorld, D.escrow.receiver tx.timestamp .stop
      (w.storage.sessions i).payer w' = some w' := fun w' => if_neg howed.payer_ne
  simp only [hsender, howed.payer_ne_zero, howed.refunded, transfer, hreceive, ne_eq,
    not_true_eq_false, if_false, Bool.false_eq_true]
  by_cases hle : (w.storage.sessions i).paidAmount ≤ w.balance
  · rw [if_neg (Nat.not_lt_of_le hle), if_pos hle]
    simp [Deployment.repaid]
  · rw [if_pos (Nat.lt_of_not_le hle), if_neg hle]

theorem Owed.repaid {j : ℕ} (h : Owed D w.storage j) (hne : j ≠ i) :
    Owed D (D.repaid w i).storage j := by
  have hsession : (D.repaid w i).storage.sessions j = w.storage.sessions j :=
    w.storage.setRefunded_sessions_of_ne hne
  exact ⟨h.lt, by rw [hsession]; exact h.payer_ne_zero, by rw [hsession]; exact h.payer_ne,
    by rw [hsession]; exact h.refunded⟩

theorem paidAmountOf_repaid {j : ℕ} :
    (D.repaid w i).storage.paidAmountOf j = w.storage.paidAmountOf j := by
  by_cases hne : j = i
  · subst hne
    simp [Deployment.repaid, Storage.paidAmountOf]
  · exact congrArg Session.paidAmount (w.storage.setRefunded_sessions_of_ne hne)

theorem refundOf_repaid {j : ℕ} :
    (D.repaid w i).storage.refundOf j = w.storage.refundOf j := by
  by_cases hne : j = i
  · subst hne
    simp [Deployment.repaid, Storage.refundOf]
  · exact congrArg (fun session : Session => (⟨session.payer, session.paidAmount⟩ : Transfer))
      (w.storage.setRefunded_sessions_of_ne hne)

/-- Refunds succeed, one after another, where the balance covers them all, and only there. -/
theorem refunds_succeed_iff {chain : Chain Storage} {refunds : List (Transaction D.escrow)}
    (hrefunds : Refunding D refunds ids) (hnodup : ids.Nodup)
    (howed : ∀ i ∈ ids, Owed D chain.world.storage i) :
    (∀ receipt ∈ chain.receiptsOf refunds, receipt.status = .success) ↔
      (ids.map chain.world.storage.paidAmountOf).sum ≤ chain.world.balance := by
  induction hrefunds generalizing chain with
  | nil => simp
  | @cons tx i refunds ids htx hrefunds ih =>
    obtain ⟨hi, hnodup⟩ := List.nodup_cons.mp hnodup
    obtain ⟨howed, hrest⟩ := List.forall_mem_cons.mp howed
    have hexecute := refund_execute howed htx.1 htx.2
    rw [Chain.receiptsOf_cons, List.forall_mem_cons, tx.receipt_status, List.map_cons, List.sum_cons]
    by_cases hle : (chain.world.storage.sessions i).paidAmount ≤ chain.world.balance
    · rw [if_pos hle] at hexecute
      have hworld : (chain.mine tx).world = D.repaid chain.world i := by
        rw [Chain.mine_world, hexecute, Option.getD_some]
      have hne : ∀ j ∈ ids, j ≠ i := fun j hj hji => hi (hji ▸ hj)
      have howed' : ∀ j ∈ ids, Owed D (chain.mine tx).world.storage j :=
        fun j hj => hworld ▸ (hrest j hj).repaid (hne j hj)
      have hiff := ih hnodup howed'
      have hsum : ids.map (D.repaid chain.world i).storage.paidAmountOf =
          ids.map chain.world.storage.paidAmountOf :=
        List.map_congr_left fun j _ => paidAmountOf_repaid
      have hbalance : (D.repaid chain.world i).balance =
          chain.world.balance - (chain.world.storage.sessions i).paidAmount := rfl
      rw [hworld, hsum, hbalance] at hiff
      rw [hiff, hexecute]
      simp only [Option.isSome_some, true_and]
      unfold Storage.paidAmountOf
      omega
    · rw [if_neg hle] at hexecute
      rw [hexecute]
      simp only [Option.isSome_none, Bool.false_eq_true, false_and, false_iff]
      intro hsum
      exact hle (Nat.le_trans (Nat.le_add_right _ _) hsum)

/-- What refunds that succeed leave: every payer is paid once, in their order. -/
theorem refunds_mineAll {chain : Chain Storage} {refunds : List (Transaction D.escrow)}
    (hrefunds : Refunding D refunds ids) (hnodup : ids.Nodup)
    (howed : ∀ i ∈ ids, Owed D chain.world.storage i)
    (hsuccess : ∀ receipt ∈ chain.receiptsOf refunds, receipt.status = .success) :
    (chain.mineAll refunds).world.sent =
        chain.world.sent ++ ids.map chain.world.storage.refundOf ∧
      (chain.mineAll refunds).world.storage.nextSessionId = chain.world.storage.nextSessionId ∧
      ∀ j, ((chain.mineAll refunds).world.storage.sessions j).refunded =
        ((chain.world.storage.sessions j).refunded || decide (j ∈ ids)) := by
  induction hrefunds generalizing chain with
  | nil => simp
  | @cons tx i refunds ids htx hrefunds ih =>
    obtain ⟨hi, hnodup⟩ := List.nodup_cons.mp hnodup
    obtain ⟨howed, hrest⟩ := List.forall_mem_cons.mp howed
    rw [Chain.receiptsOf_cons, List.forall_mem_cons, tx.receipt_status] at hsuccess
    obtain ⟨hsome, hsuccess⟩ := hsuccess
    have hexecute := refund_execute howed htx.1 htx.2
    have hworld : (chain.mine tx).world = D.repaid chain.world i := by
      rw [Chain.mine_world, hexecute]
      rw [hexecute] at hsome
      split at hsome
      · next hle => rw [if_pos hle, Option.getD_some]
      · cases hsome
    have hne : ∀ j ∈ ids, j ≠ i := fun j hj hji => hi (hji ▸ hj)
    have howed' : ∀ j ∈ ids, Owed D (chain.mine tx).world.storage j :=
      fun j hj => hworld ▸ (hrest j hj).repaid (hne j hj)
    obtain ⟨hsent, hnext, hrefunded⟩ := ih hnodup howed' hsuccess
    rw [hworld] at hsent hnext hrefunded
    refine ⟨?_, hnext, ?_⟩
    · rw [Chain.mineAll_cons, hsent, List.map_congr_left fun j _ => refundOf_repaid]
      change (chain.world.sent ++ [chain.world.storage.refundOf i]) ++ _ = _
      rw [List.append_assoc, List.singleton_append, List.map_cons]
    · intro j
      rw [Chain.mineAll_cons, hrefunded j]
      by_cases hji : j = i
      · subst hji
        simp [Deployment.repaid]
      · have hsession : (D.repaid chain.world i).storage.sessions j = chain.world.storage.sessions j :=
          chain.world.storage.setRefunded_sessions_of_ne hji
        rw [hsession]
        simp [hji]

end Refunds

section Outstanding

variable {D : Deployment} {w : EscrowWorld} {ids : List ℕ}

/-- The balance is what the outstanding sessions paid, with what came unasked and without
    what operators got. -/
theorem Books.balance_outstanding (h : Books D w) :
    w.balance + totalPaidOut (D.eventsOf w.logs) =
      (w.storage.outstanding.map w.storage.paidAmountOf).sum + w.forced := by
  have hbalance := h.balance
  have hperm : (w.storage.refundedSessions ++ w.storage.outstanding).Perm
      (List.range w.storage.nextSessionId) := List.filter_append_perm _ _
  have hsum := (hperm.map w.storage.paidAmountOf).sum_eq
  rw [List.map_append, List.sum_append] at hsum
  omega

theorem owed_of_mem (D : Deployment) (txs : List (Transaction D.escrow)) {i : ℕ}
    (hi : i ∈ (D.chain txs).world.storage.outstanding)
    (hpayer : ((D.chain txs).world.storage.sessions i).payer ≠ 0) :
    Owed D (D.chain txs).world.storage i := by
  obtain ⟨evs, hd⟩ := exists_delta D txs
  obtain ⟨hlt, hrefunded⟩ := List.mem_filter.mp hi
  replace hlt := List.mem_range.mp hlt
  exact ⟨Nat.lt_trans hlt hd.valid.nextSessionId_lt, hpayer, chain_payers D txs i hlt,
    by simpa using hrefunded⟩

end Outstanding

/-- **Refunds have no reserve.**  After any transactions, the admin can refund every session
    that is not refunded yet, in any order, exactly where operators were paid no more than
    what reached the escrow unasked; each payer then gets back what it paid, once, and
    nothing is outstanding. -/
theorem outstanding_refundable_iff (D : Deployment) (txs refunds : List (Transaction D.escrow))
    {ids : List ℕ} (hids : ids.Perm (D.chain txs).world.storage.outstanding)
    (hrefunds : Refunding D refunds ids)
    (hpayers : ∀ i ∈ ids, ((D.chain txs).world.storage.sessions i).payer ≠ 0) :
    ((∀ receipt ∈ (D.chain txs).receiptsOf refunds, receipt.status = .success) ↔
      totalPaidOut (D.eventsOf (D.chain txs).world.logs) ≤ (D.chain txs).world.forced) ∧
    ((∀ receipt ∈ (D.chain txs).receiptsOf refunds, receipt.status = .success) →
      (D.chain (txs ++ refunds)).world.sent =
        (D.chain txs).world.sent ++ ids.map (D.chain txs).world.storage.refundOf ∧
      (D.chain (txs ++ refunds)).world.storage.outstanding = []) := by
  obtain ⟨evs, hd⟩ := exists_delta D txs
  have hnodup : ids.Nodup := hids.nodup_iff.mpr (List.nodup_range.filter _)
  have howed : ∀ i ∈ ids, Owed D (D.chain txs).world.storage i :=
    fun i hi => owed_of_mem D txs (hids.mem_iff.mp hi) (hpayers i hi)
  constructor
  · rw [refunds_succeed_iff hrefunds hnodup howed, (hids.map _).sum_eq]
    have hbalance := hd.books.balance_outstanding
    omega
  · intro hsuccess
    obtain ⟨hsent, hnext, hrefunded⟩ := refunds_mineAll hrefunds hnodup howed hsuccess
    rw [D.chain_append]
    refine ⟨hsent, ?_⟩
    unfold Storage.outstanding
    rw [hnext, List.filter_eq_nil_iff]
    intro i hi
    rw [hrefunded i]
    by_cases hr : ((D.chain txs).world.storage.sessions i).refunded
    · simp [hr]
    · have hmem : i ∈ ids := hids.mem_iff.mpr (List.mem_filter.mpr ⟨hi, by simp [hr]⟩)
      simp [hmem]

/-- Two sessions are refunded, the later one first. -/
theorem outstanding_refundable_iff_two :
    let D : Deployment := ⟨1, 2⟩
    let buy : Transaction D.escrow :=
      ⟨0, 3, by decide, 1000, .call (.purchaseSession .Lite 1) 100000000000000000 .stop⟩
    let refund (i : ℕ) : Transaction D.escrow :=
      ⟨1, 2, by decide, 1001, .call (.refundSession (word i)) 0 .stop⟩
    (D.chain ([buy, buy] ++ [refund 1, refund 0])).world.storage.outstanding = [] := by
  intro D buy refund
  have hrefunds : Refunding D [refund 1, refund 0] [1, 0] := .cons ⟨rfl, rfl⟩ (.cons ⟨rfl, rfl⟩ .nil)
  have hrefundable := outstanding_refundable_iff D [buy, buy] [refund 1, refund 0]
    (by decide) hrefunds (by decide)
  exact (hrefundable.2 (hrefundable.1.mpr (by decide))).2

end DVoD.Arc
