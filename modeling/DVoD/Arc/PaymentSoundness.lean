import DVoD.Arc.Books
import DVoD.Arc.ArcClient

/-!
# When the payment check is sound

The check asks which event a log decodes to and not which contract emitted the log.
A transaction to the escrow whose callee emits a log of its own, as the payee of a
payout may, can so pass for a purchase.  `verifySessionPurchase_sound_iff` says for
which receipts the check is sound.
-/

namespace DVoD.Arc

open DVoD.Evm DVoD.Session

def escrowTier : Tier → EscrowTier
  | .lite => .Lite
  | .standard => .Standard
  | .turbo => .Turbo

@[simp] theorem index_escrowTier (tier : Tier) : (escrowTier tier).index = tierIndex tier := by
  cases tier <;> rfl

theorem eq_escrowTier {tier : Tier} {t : EscrowTier} (h : t.index = tierIndex tier) :
    t = escrowTier tier := by
  cases tier <;> cases t <;> simp_all [tierIndex, EscrowTier.index, escrowTier]

theorem priceWei_eq_price (tier : Tier) (hours : ℕ) :
    priceWei tier hours = price (escrowTier tier) hours := by
  cases tier <;> simp only [priceWei, tierRateCentsPerHour, price, ratePerHour, escrowTier,
    LITE_RATE_PER_HOUR, STANDARD_RATE_PER_HOUR, TURBO_RATE_PER_HOUR, ether, reduceCtorEq,
    if_true, if_false] <;> omega

/-- The session record was created between the two worlds, with these contents. -/
structure Created (w w' : EscrowWorld) (sessionId : ℕ) (payer : Address) (order : Order) : Prop where
  fresh : w.storage.nextSessionId ≤ sessionId
  created : sessionId < w'.storage.nextSessionId
  payer : (w'.storage.sessions sessionId).payer = payer
  tier : (w'.storage.sessions sessionId).tier = escrowTier order.tier
  hours : (w'.storage.sessions sessionId).hours_ = order.hours
  paid : (w'.storage.sessions sessionId).paidAmount = order.expectedPriceWei

/-- The first log of the receipt that matches the order is one that the escrow itself
    emitted, or the escrow emitted another with the same contents. -/
def FirstMatchGenuine (D : Deployment) (decodeEventLog : DecodeEventLog) (order : Order)
    (receipt : Receipt) : Prop :=
  ∀ log, receipt.logs.find? (fun log => (order.matchLog decodeEventLog log).isSome) = some log →
    ∃ own ∈ receipt.logs, own.address = D.address ∧
      decodeEventLog.decode own.topics own.data = decodeEventLog.decode log.topics log.data

theorem findSome?_eq_some_iff_find? {α β : Type} {f : α → Option β} {l : List α} {b : β} :
    l.findSome? f = some b ↔ ∃ a, l.find? (fun a => (f a).isSome) = some a ∧ f a = some b := by
  induction l with
  | nil => simp
  | cons a l ih => rcases h : f a with _ | b' <;> simp [h, ih]

def purchaseArgs (sessionId : ℕ) (payer : Address) (tier : EscrowTier) (hours_ paidAmount : ℕ) :
    SessionPurchasedArgs :=
  ⟨word sessionId, payer, tier.index, hours_, paidAmount⟩

section Receipts

variable {D : Deployment} {decodeEventLog : DecodeEventLog}

theorem decode_purchase {sessionId : ℕ} {payer : Address} {tier : EscrowTier} {hours_ paidAmount : ℕ}
    (h : (EscrowEvent.SessionPurchased sessionId payer tier hours_ paidAmount).InRange) :
    decodeEventLog.decode (D.log (.SessionPurchased sessionId payer tier hours_ paidAmount)).topics
      (D.log (.SessionPurchased sessionId payer tier hours_ paidAmount)).data =
        some (purchaseArgs sessionId payer tier hours_ paidAmount) := by
  have htier : tier.index < 2 ^ 8 := Nat.lt_trans tier.index_lt (by norm_num)
  have hshape := decodeEventLog.decode_shape (purchaseArgs sessionId payer tier hours_ paidAmount)
    ⟨htier, h.2⟩
  simpa only [SessionPurchasedArgs.topics, SessionPurchasedArgs.data, purchaseArgs, Deployment.log,
    EscrowEvent.topics, EscrowEvent.data] using hshape

theorem exists_of_decode {event : EscrowEvent} {args : SessionPurchasedArgs} (h : event.InRange)
    (hdecode : decodeEventLog.decode (D.log event).topics (D.log event).data = some args) :
    ∃ sessionId payer tier hours_ paidAmount,
      event = .SessionPurchased sessionId payer tier hours_ paidAmount ∧
        args = purchaseArgs sessionId payer tier hours_ paidAmount ∧
        args.sessionId.toNat = sessionId := by
  cases event with
  | SessionPurchased sessionId payer tier hours_ paidAmount =>
    rw [decode_purchase h] at hdecode
    obtain rfl := (Option.some.inj hdecode).symm
    exact ⟨sessionId, payer, tier, hours_, paidAmount, rfl, rfl, toNat_word h.1⟩
  | OperatorPaidOut payee amount =>
    rw [decodeEventLog.decode_other _ _ (by
      simp [Deployment.log, EscrowEvent.topics, operatorPaidOutTopic, sessionPurchasedTopic])] at hdecode
    cases hdecode
  | SessionRefunded sessionId payer amount =>
    rw [decodeEventLog.decode_other _ _ (by
      simp [Deployment.log, EscrowEvent.topics, sessionRefundedTopic, sessionPurchasedTopic])] at hdecode
    cases hdecode

theorem receipt_delta {w : EscrowWorld} (hw : w.storage.Valid) {tx : Transaction D.escrow}
    (hstatus : (tx.receipt w).status = .success) :
    ∃ w' evs, tx.execute w = some w' ∧ Delta D w w' evs ∧
      D.ownLogs (tx.receipt w).logs = evs.map D.log := by
  rcases h : tx.execute w with _ | w'
  · simp [Transaction.receipt, h] at hstatus
  · obtain ⟨evs, hd⟩ := (frames_delta D).execute h hw
    obtain ⟨new, hlogs, hnew⟩ := hd.logs
    refine ⟨w', evs, rfl, hd, ?_⟩
    simp only [Transaction.receipt, h, hlogs, List.drop_left, hnew]

theorem mem_purchasedIds {evs : List EscrowEvent} {sessionId : ℕ} :
    sessionId ∈ purchasedIds evs ↔ ∃ payer tier hours_ paidAmount,
      EscrowEvent.SessionPurchased sessionId payer tier hours_ paidAmount ∈ evs := by
  simp only [purchasedIds, List.mem_filterMap]
  constructor
  · rintro ⟨e, he, hid⟩
    cases e with
    | SessionPurchased i payer tier hours_ paidAmount =>
      obtain rfl : i = sessionId := Option.some.inj hid
      exact ⟨payer, tier, hours_, paidAmount, he⟩
    | OperatorPaidOut => cases hid
    | SessionRefunded => cases hid
  · rintro ⟨payer, tier, hours_, paidAmount, he⟩
    exact ⟨_, he, rfl⟩

theorem Delta.mem_purchasedIds {w w' : EscrowWorld} {evs : List EscrowEvent}
    (h : Delta D w w' evs) {sessionId : ℕ} :
    sessionId ∈ purchasedIds evs ↔
      w.storage.nextSessionId ≤ sessionId ∧ sessionId < w'.storage.nextSessionId := by
  obtain ⟨k, hk, hids⟩ := h.purchased
  rw [hids, List.mem_range'_1, hk]

variable (decodeEventLog) in
/-- What the scan returns is decoded from a log of the escrow's own exactly where the
    escrow created that session in the execution. -/
theorem Delta.created_iff {w w' : EscrowWorld} {evs : List EscrowEvent} (h : Delta D w w' evs)
    {logs : List Log} (hlogs : D.ownLogs logs = evs.map D.log) {args : SessionPurchasedArgs}
    {order : Order} (htier : args.tier = tierIndex order.tier) (hhours : args.hours_ = order.hours)
    (hpaid : args.paidAmount = order.expectedPriceWei) :
    Created w w' args.sessionId.toNat args.payer order ↔ ∃ own ∈ logs, own.address = D.address ∧
      decodeEventLog.decode own.topics own.data = some args := by
  constructor
  · intro hc
    obtain ⟨payer, tier, hours_, paidAmount, he⟩ :=
      Arc.mem_purchasedIds.mp (h.mem_purchasedIds.mpr ⟨hc.fresh, hc.created⟩)
    obtain ⟨-, hpayer', htier', hhours', hpaid'⟩ := h.recorded _ he
    have hargs : purchaseArgs args.sessionId.toNat payer tier hours_ paidAmount = args := by
      rw [← hpayer', ← htier', ← hhours', ← hpaid', hc.payer, hc.tier, hc.hours, hc.paid,
        ← hhours, ← hpaid, purchaseArgs, index_escrowTier, ← htier, word, BitVec.ofNat_toNat,
        BitVec.setWidth_eq]
    have hown : D.log (.SessionPurchased args.sessionId.toNat payer tier hours_ paidAmount) ∈
        D.ownLogs logs := hlogs ▸ List.mem_map_of_mem he
    refine ⟨_, (List.mem_filter.mp hown).1, rfl, ?_⟩
    rw [decode_purchase (h.inRange _ he), hargs]
  · rintro ⟨own, hmem, haddress, hdecode⟩
    have hown : own ∈ D.ownLogs logs := List.mem_filter.mpr ⟨hmem, by simpa using haddress⟩
    rw [hlogs] at hown
    obtain ⟨e, he, rfl⟩ := List.mem_map.mp hown
    obtain ⟨sessionId, payer, tier, hours_, paidAmount, rfl, rfl, hid⟩ :=
      exists_of_decode (h.inRange e he) hdecode
    rw [hid]
    obtain ⟨hfresh, hcreated⟩ := h.mem_purchasedIds.mp
      (Arc.mem_purchasedIds.mpr ⟨payer, tier, hours_, paidAmount, he⟩)
    obtain ⟨-, hpayer', htier', hhours', hpaid'⟩ := h.recorded _ he
    exact ⟨hfresh, hcreated, hpayer', htier'.trans (eq_escrowTier htier), hhours'.trans hhours,
      hpaid'.trans hpaid⟩

end Receipts

/-- **When the payment check is sound.**  For every transaction of every chain: whatever
    the check returns was created by the escrow in that transaction, exactly where the
    first matching log of a receipt it accepts is genuine. -/
theorem verifySessionPurchase_sound_iff (D : Deployment) (decodeEventLog : DecodeEventLog)
    (txs : List (Transaction D.escrow)) (tx : Transaction D.escrow) (txHash : String)
    (tier : Tier) (hours : ℕ) :
    (∀ sessionId payer,
      verifySessionPurchase D.address decodeEventLog (some (tx.receipt (D.chain txs).world)) txHash
        (order tier hours) = .ok (sessionId, payer) →
      Created (D.chain txs).world (D.chain (txs ++ [tx])).world sessionId.toNat payer
        (order tier hours)) ↔
    ((tx.receipt (D.chain txs).world).status = .success → tx.dest = some D.address →
      FirstMatchGenuine D decodeEventLog (order tier hours)
        (tx.receipt (D.chain txs).world)) := by
  obtain ⟨evs₀, hd₀⟩ := exists_delta D txs
  have hdest := tx.receipt_dest (D.chain txs).world
  have hworld {w : EscrowWorld} (h : tx.execute (D.chain txs).world = some w) :
      (D.chain (txs ++ [tx])).world = w := by
    simp [D.chain_append, Chain.mine, h]
  constructor
  · intro hsound hstatus hto log hfind
    obtain ⟨w, evs, hexec, hd, hown⟩ := receipt_delta hd₀.valid hstatus
    obtain ⟨args, hargs⟩ := Option.isSome_iff_exists.mp (List.find?_some
      (p := fun log => ((order tier hours).matchLog decodeEventLog log).isSome) hfind)
    have hcreated := hsound args.sessionId args.payer (verifySessionPurchase_eq_ok.mpr
      ⟨_, args, rfl, hstatus, hdest.trans hto,
        findSome?_eq_some_iff_find?.mpr ⟨log, hfind, hargs⟩, rfl, rfl⟩)
    obtain ⟨hdecode, htier, hhours, hpaid⟩ := Order.matchLog_eq_some.mp hargs
    rw [hworld hexec] at hcreated
    rw [hdecode]
    exact (hd.created_iff decodeEventLog hown htier hhours hpaid).mp hcreated
  · intro hgenuine sessionId payer hverify
    obtain ⟨receipt, args, hr, hstatus, hto, hscan, rfl, rfl⟩ :=
      verifySessionPurchase_eq_ok.mp hverify
    obtain rfl := Option.some.inj hr
    obtain ⟨w, evs, hexec, hd, hown⟩ := receipt_delta hd₀.valid hstatus
    obtain ⟨log, hfind, hargs⟩ := findSome?_eq_some_iff_find?.mp hscan
    obtain ⟨hdecode, htier, hhours, hpaid⟩ := Order.matchLog_eq_some.mp hargs
    rw [hworld hexec]
    apply (hd.created_iff decodeEventLog hown htier hhours hpaid).mpr
    rw [← hdecode]
    exact hgenuine hstatus (hdest.symm.trans hto) log hfind

/-- The log that a payee can emit while it receives a payout: a purchase of session 7 by
    account 9 that never took place. -/
def forgedArgs : SessionPurchasedArgs := ⟨7, 9, 0, 1, 100000000000000000⟩

/-- The admin pays one wei out to a contract at address 5, which emits that log. -/
def forgingPayout (D : Deployment) (h : (2 : Address) ≠ D.address) : Transaction D.escrow :=
  ⟨1, 2, h, 1001, .call (.payoutOperator 5 1) 0
    (.emit forgedArgs.topics forgedArgs.data .stop)⟩

theorem verifySessionPurchase_unsound :
    ¬ ∀ (D : Deployment) (decodeEventLog : DecodeEventLog) (txs : List (Transaction D.escrow))
        (tx : Transaction D.escrow) txHash tier hours sessionId payer,
      verifySessionPurchase D.address decodeEventLog (some (tx.receipt (D.chain txs).world)) txHash
        (order tier hours) = .ok (sessionId, payer) →
      Created (D.chain txs).world (D.chain (txs ++ [tx])).world sessionId.toNat payer
        (order tier hours) := by
  intro hall
  let buy : Transaction (Deployment.escrow ⟨1, 2⟩) :=
    ⟨0, 3, by decide, 1000, .call (.purchaseSession .Lite 1) 100000000000000000 .stop⟩
  have hcreated := hall ⟨1, 2⟩ decodeSessionPurchased [buy] (forgingPayout ⟨1, 2⟩ (by decide)) "0x01"
    .lite 1 7 9 (by decide +kernel)
  exact absurd hcreated.created (by decide +kernel)

end DVoD.Arc
