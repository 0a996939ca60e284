import DVoD.Arc.PaymentSoundness

/-!
# Honest direct payments

The transaction that the web client builds for a quoted order (`wallet.ts`, with the tier
table of `chain.ts`), through the escrow and back through the orchestrator's check.  The
only thing that stops it is the checked `nextSessionId++`, once the ids have run out.
-/

namespace DVoD.Arc

open DVoD.Evm DVoD.Session

/-- `TIER_INDEX` of the web client's `chain.ts`. -/
def webTierIndex : Tier → ℕ
  | .lite => 0
  | .standard => 1
  | .turbo => 2

/-- What the `writeContract` of `sendPurchaseTx` asks of the escrow; `none` where the
    contract's ABI decoder finds no tier at that index.  `callee` would run if the call
    paid somebody. -/
def sendPurchaseTx (tier : Tier) (hours valueWei : ℕ) (callee : Code EscrowCall) :
    Option (Action EscrowCall) :=
  (EscrowTier.ofIndex (webTierIndex tier)).map fun escrowTier =>
    .call (.purchaseSession escrowTier (word hours)) valueWei callee

theorem sendPurchaseTx_eq (tier : Tier) (hours valueWei : ℕ) (callee : Code EscrowCall) :
    sendPurchaseTx tier hours valueWei callee =
      some (.call (.purchaseSession (escrowTier tier) (word hours)) valueWei callee) := by
  cases tier <;> rfl

/-- The transaction is recognised as the purchase of exactly this order. -/
structure Recognised (D : Deployment) (decodeEventLog : DecodeEventLog) (w : EscrowWorld)
    (tx : Transaction D.escrow) (payer : Address) (tier : Tier) (hours : ℕ) : Prop where
  succeeds : (tx.receipt w).status = .success
  created : ∃ w', tx.execute w = some w' ∧
    Created w w' w.storage.nextSessionId payer (order tier hours)
  verified : ∀ txHash tier' hours',
    verifySessionPurchase D.address decodeEventLog (some (tx.receipt w)) txHash (order tier' hours') =
      if tier' = tier ∧ hours' = hours then .ok (word w.storage.nextSessionId, payer)
      else .error (.noMatchingLog tier' hours' (priceWei tier' hours') txHash)

section Purchase

variable {D : Deployment} {w : EscrowWorld} {msg : Msg} {tier : Tier} {hours : ℕ}

/-- The session that an honest purchase stores. -/
def boughtSession (msg : Msg) (tier : Tier) (hours : ℕ) : Arc.Session :=
  { payer := msg.sender, tier := escrowTier tier, hours_ := hours, paidAmount := msg.value
    purchasedAt := msg.timestamp % 2 ^ 64, refunded := false }

theorem purchaseSession_honest (hpos : 1 ≤ hours) (hmax : hours ≤ MAX_HOURS)
    (hvalue : msg.value = priceWei tier hours) :
    D.purchaseSession msg (escrowTier tier) hours w =
      if w.storage.nextSessionId + 1 = 2 ^ 256 then .error .Panic
      else .ok (D.emit { w with storage := w.storage.create (boughtSession msg tier hours) }
        (.SessionPurchased w.storage.nextSessionId msg.sender (escrowTier tier) hours msg.value)) := by
  have hhours : ¬ (hours = 0 ∨ hours > MAX_HOURS) := by omega
  have hpaid : msg.value = price (escrowTier tier) hours := hvalue.trans (priceWei_eq_price tier hours)
  simp only [Deployment.purchaseSession, if_neg hhours, ne_eq, hpaid, not_true_eq_false, if_false,
    boughtSession]

variable {tx : Transaction D.escrow} {callee : Code EscrowCall}

/-- The world that an honest purchase leaves. -/
def purchased (D : Deployment) (w : EscrowWorld) (msg : Msg) (tier : Tier) (hours : ℕ) :
    EscrowWorld :=
  D.emit { w.credit msg.value with storage := w.storage.create (boughtSession msg tier hours) }
    (.SessionPurchased w.storage.nextSessionId msg.sender (escrowTier tier) hours msg.value)

variable (tier) in
theorem execute_honest (hpos : 1 ≤ hours) (hmax : hours ≤ MAX_HOURS)
    (haction : tx.action =
      .call (.purchaseSession (escrowTier tier) (word hours)) (priceWei tier hours) callee) :
    tx.execute w =
      if w.storage.nextSessionId + 1 = 2 ^ 256 then none
      else some (purchased D w ⟨tx.sender, priceWei tier hours, tx.timestamp⟩ tier hours) := by
  have hword : (word hours).toNat = hours :=
    toNat_word (Nat.lt_of_le_of_lt hmax (by norm_num [MAX_HOURS]))
  simp only [Transaction.execute, haction, Contract.callFrame, Deployment.escrow, hword]
  rw [purchaseSession_honest hpos hmax rfl]
  by_cases hnext : w.storage.nextSessionId + 1 = 2 ^ 256
  · rw [World.credit_storage, if_pos hnext, if_pos hnext]
  · rw [World.credit_storage, if_neg hnext, if_neg hnext]
    rfl

theorem logs_purchased (D : Deployment) (w : EscrowWorld) (msg : Msg) (tier : Tier) (hours : ℕ) :
    (purchased D w msg tier hours).logs.drop w.logs.length =
      [D.log (.SessionPurchased w.storage.nextSessionId msg.sender (escrowTier tier) hours
        msg.value)] :=
  List.drop_left' rfl

theorem created_purchased (D : Deployment) (w : EscrowWorld) (payer : Address) (timestamp : ℕ)
    (tier : Tier) (hours : ℕ) :
    Created w (purchased D w ⟨payer, priceWei tier hours, timestamp⟩ tier hours)
      w.storage.nextSessionId payer (order tier hours) where
  fresh := Nat.le_refl _
  created := Nat.lt_succ_self _
  payer := by simp [purchased, boughtSession]
  tier := by simp [purchased, boughtSession, order]
  hours := by simp [purchased, boughtSession, order]
  paid := by simp [purchased, boughtSession, order]

end Purchase

section Check

variable {D : Deployment} {decodeEventLog : DecodeEventLog} {tier tier' : Tier} {hours hours' : ℕ}

theorem tierIndex_injective (h : tierIndex tier = tierIndex tier') : tier = tier' := by
  cases tier <;> cases tier' <;> first | rfl | cases h

theorem priceWei_lt (tier : Tier) (hmax : hours ≤ MAX_HOURS) : priceWei tier hours < 2 ^ 256 := by
  rw [priceWei_eq_price]
  exact price_lt (escrowTier tier) hmax

/-- No order but the one bought finds the log of the purchase. -/
theorem matchLog_purchase {sessionId : ℕ} (payer : Address) (hid : sessionId < 2 ^ 256)
    (hmax : hours ≤ MAX_HOURS) :
    (order tier' hours').matchLog decodeEventLog
        (D.log (.SessionPurchased sessionId payer (escrowTier tier) hours (priceWei tier hours))) =
      if tier' = tier ∧ hours' = hours then
        some (purchaseArgs sessionId payer (escrowTier tier) hours (priceWei tier hours))
      else none := by
  have hhours : hours < 2 ^ 256 := Nat.lt_of_le_of_lt hmax (by norm_num [MAX_HOURS])
  have hrange : (EscrowEvent.SessionPurchased sessionId payer (escrowTier tier) hours
      (priceWei tier hours)).InRange := ⟨hid, hhours, priceWei_lt tier hmax⟩
  have hdecode : decodeEventLog.decode (D.log _).topics (D.log _).data = some _ :=
    decode_purchase hrange
  split
  · next h =>
    obtain ⟨rfl, rfl⟩ := h
    exact Order.matchLog_eq_some.mpr ⟨hdecode, index_escrowTier tier', rfl, rfl⟩
  · next h =>
    rw [Option.eq_none_iff_forall_ne_some]
    intro args hargs
    obtain ⟨hargs, htier, hhours', -⟩ := Order.matchLog_eq_some.mp hargs
    rw [hdecode] at hargs
    cases hargs
    have htier' : tier = tier' := tierIndex_injective ((index_escrowTier tier).symm.trans htier)
    exact h ⟨htier'.symm, hhours'.symm⟩

end Check

/-- **An honest payment is recognised as exactly what was bought.**  In every state of the
    escrow with an id left, the web client's transaction succeeds, and the orchestrator's
    check of its receipt accepts the order that was paid for and no other. -/
theorem honest_purchase_recognised (D : Deployment) (decodeEventLog : DecodeEventLog)
    (txs : List (Transaction D.escrow)) (txHash : Word) {payer : Address}
    (hpayer : payer ≠ D.address) (timestamp : ℕ) (callee : Code EscrowCall) (tier : Tier)
    {hours : ℕ} (hpos : 1 ≤ hours) (hmax : hours ≤ 24)
    (hleft : (D.chain txs).world.storage.nextSessionId + 1 ≠ 2 ^ 256) :
    ∃ action, sendPurchaseTx tier hours (priceWei tier hours) callee = some action ∧
      Recognised D decodeEventLog (D.chain txs).world ⟨txHash, payer, hpayer, timestamp, action⟩
        payer tier hours := by
  refine ⟨_, sendPurchaseTx_eq .., ?_⟩
  obtain ⟨_, hd⟩ := exists_delta D txs
  generalize (D.chain txs).world = w at hleft hd
  have hid : w.storage.nextSessionId < 2 ^ 256 := hd.valid.nextSessionId_lt
  let tx : Transaction D.escrow := ⟨txHash, payer, hpayer, timestamp,
    .call (.purchaseSession (escrowTier tier) (word hours)) (priceWei tier hours) callee⟩
  let w' := purchased D w ⟨payer, priceWei tier hours, timestamp⟩ tier hours
  have hexec : tx.execute w = some w' := by
    rw [execute_honest tier hpos hmax rfl, if_neg hleft]
  have hreceipt : tx.receipt w = ⟨txHash, .success, some D.address,
      [D.log (.SessionPurchased w.storage.nextSessionId payer (escrowTier tier) hours
        (priceWei tier hours))]⟩ := by
    simp only [Transaction.receipt, hexec]
    exact congrArg (Receipt.mk txHash .success (some D.address)) (logs_purchased D w _ tier hours)
  refine ⟨congrArg Receipt.status hreceipt,
    ⟨w', hexec, created_purchased D w payer timestamp tier hours⟩, fun text tier' hours' => ?_⟩
  rw [hreceipt]
  simp only [verifySessionPurchase, ne_eq, not_true_eq_false, if_false, List.findSome?_cons,
    List.findSome?_nil, matchLog_purchase payer hid hmax]
  by_cases h : tier' = tier ∧ hours' = hours
  · rw [if_pos h, if_pos h]
    rfl
  · rw [if_neg h, if_neg h]
    rfl

/-- Account 3 buys two hours of turbo as the very first session. -/
theorem honest_purchase_recognised_first :
    let D : Deployment := ⟨1, 2⟩
    1 ≤ 2 ∧ 2 ≤ 24 ∧ (D.chain []).world.storage.nextSessionId + 1 ≠ 2 ^ 256 ∧
    ∃ action, sendPurchaseTx .turbo 2 (priceWei .turbo 2) .stop = some action ∧
      Recognised D decodeSessionPurchased (D.chain []).world ⟨0, 3, by decide, 1000, action⟩ 3
        .turbo 2 :=
  have hleft : ((⟨1, 2⟩ : Deployment).chain []).world.storage.nextSessionId + 1 ≠ 2 ^ 256 := by
    decide
  ⟨by decide, by decide, hleft, honest_purchase_recognised ⟨1, 2⟩ decodeSessionPurchased [] 0
    (by decide) 1000 .stop .turbo (by decide) (by decide) hleft⟩

/-! ### When the ids have run out -/

section SoldOut

/-- An hour of lite, bought by account 3. -/
def liteHour : Transaction (Deployment.escrow ⟨1, 2⟩) :=
  ⟨0, 3, by decide, 1000, .call (.purchaseSession .Lite 1) (priceWei .lite 1) .stop⟩

theorem execute_liteHour (w : EscrowWorld) :
    liteHour.execute w =
      if w.storage.nextSessionId + 1 = 2 ^ 256 then none
      else some (purchased ⟨1, 2⟩ w ⟨3, priceWei .lite 1, 1000⟩ .lite 1) :=
  execute_honest .lite (by decide) (by decide) rfl

/-- The admin pays account 3 what the hour cost. -/
def paidBack : Transaction (Deployment.escrow ⟨1, 2⟩) :=
  ⟨0, 2, by decide, 1000, .call (.payoutOperator 3 (word (priceWei .lite 1))) 0 .stop⟩

theorem execute_paidBack {w : EscrowWorld} (h : priceWei .lite 1 ≤ w.balance) :
    paidBack.execute w = some (Deployment.emit ⟨1, 2⟩ (w.debit 3 (priceWei .lite 1))
      (.OperatorPaidOut 3 (priceWei .lite 1))) := by
  have hamount : (word (priceWei .lite 1)).toNat = priceWei .lite 1 :=
    toNat_word (priceWei_lt .lite (by decide))
  have hpaid : transfer ((Deployment.escrow ⟨1, 2⟩).receiver 1000 .stop) 3 (priceWei .lite 1) w =
      some (w.debit 3 (priceWei .lite 1)) := if_neg (Nat.not_lt_of_le h)
  have hcall : (Deployment.escrow ⟨1, 2⟩).callFrame ((Deployment.escrow ⟨1, 2⟩).receiver 1000 .stop)
      ⟨2, 0, 1000⟩ (.payoutOperator 3 (word (priceWei .lite 1))) w =
      .ok (Deployment.emit ⟨1, 2⟩ (w.debit 3 (priceWei .lite 1)) (.OperatorPaidOut 3 (priceWei .lite 1))) := by
    change Deployment.payoutOperator ⟨1, 2⟩ ((Deployment.escrow ⟨1, 2⟩).receiver 1000 .stop) ⟨2, 0, 1000⟩ 3
      (word (priceWei .lite 1)).toNat (w.credit 0) = _
    simp only [Deployment.payoutOperator, hamount, World.credit_zero, ne_eq, not_true_eq_false, if_false,
      if_neg (Nat.not_lt_of_le h), hpaid]
  simp only [Transaction.execute, paidBack, hcall]

/-- The hour is bought and paid back, some times in a row. -/
def sold (n : ℕ) : List (Transaction (Deployment.escrow ⟨1, 2⟩)) :=
  (List.replicate n [liteHour, paidBack]).flatten

/-- The escrow never holds more than the price of one hour. -/
theorem chain_sold (n : ℕ) (hn : n < 2 ^ 256) :
    (Deployment.chain ⟨1, 2⟩ (sold n)).world.storage.nextSessionId = n ∧
      (Deployment.chain ⟨1, 2⟩ (sold n)).world.balance = 0 := by
  induction n with
  | zero => exact ⟨rfl, rfl⟩
  | succ n ih =>
    obtain ⟨hid, hbalance⟩ := ih (Nat.lt_of_succ_lt hn)
    have hsucc : sold (n + 1) = sold n ++ [liteHour, paidBack] := by
      rw [sold, List.replicate_succ', List.flatten_append, List.flatten_singleton]
      rfl
    rw [hsucc, Deployment.chain_append]
    generalize Deployment.chain ⟨1, 2⟩ (sold n) = chain at hid hbalance
    have hleft : chain.world.storage.nextSessionId + 1 ≠ 2 ^ 256 := by omega
    have hbought := execute_liteHour chain.world
    rw [if_neg hleft] at hbought
    have hcovered : priceWei .lite 1 ≤
        (purchased ⟨1, 2⟩ chain.world ⟨3, priceWei .lite 1, 1000⟩ .lite 1).balance :=
      Nat.le_add_left _ _
    rw [Chain.mineAll_cons, Chain.mineAll_cons, Chain.mineAll_nil, Chain.mine_world, Chain.mine_world,
      hbought, Option.getD_some, execute_paidBack hcovered, Option.getD_some]
    refine ⟨congrArg (· + 1) hid, ?_⟩
    change chain.world.balance + priceWei .lite 1 - priceWei .lite 1 = 0
    rw [Nat.add_sub_cancel, hbalance]

end SoldOut

/-- After `2 ^ 256 - 1` sessions the next honest purchase reverts. -/
theorem last_id_not_sold :
    ¬ ∀ (D : Deployment) (decodeEventLog : DecodeEventLog) (txs : List (Transaction D.escrow))
        (txHash : Word) (payer : Address) (hpayer : payer ≠ D.address) (timestamp : ℕ)
        (callee : Code EscrowCall) (tier : Tier) (hours : ℕ), 1 ≤ hours → hours ≤ 24 →
      ∃ action, sendPurchaseTx tier hours (priceWei tier hours) callee = some action ∧
        Recognised D decodeEventLog (D.chain txs).world ⟨txHash, payer, hpayer, timestamp, action⟩
          payer tier hours := by
  intro hall
  obtain ⟨n, hn⟩ : ∃ n, n + 1 = 2 ^ 256 := ⟨2 ^ 256 - 1, Nat.sub_add_cancel Nat.one_le_two_pow⟩
  obtain ⟨action, haction, hrecognised⟩ := hall ⟨1, 2⟩ decodeSessionPurchased
    (sold n) 0 3 (by decide) 1000 .stop .lite 1 (by decide) (by decide)
  obtain rfl := Option.some.inj ((sendPurchaseTx_eq ..).symm.trans haction)
  obtain ⟨w', hexec, -⟩ := hrecognised.created
  have hid := (chain_sold n (by omega)).1
  rw [execute_honest .lite (by decide) (by decide) rfl, if_pos (by rw [hid, hn])] at hexec
  cases hexec

end DVoD.Arc
