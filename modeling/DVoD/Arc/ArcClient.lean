import DVoD.Arc.SessionEscrow

/-!
# The payment check of the orchestrator

`verifySessionPurchase` of `arc-client.ts`, from the receipt on.  `decodeEventLog` is
viem's; `DecodeEventLog` states what the check relies on, and `decodeSessionPurchased`
is such a decoder.
-/

namespace DVoD.Arc

open DVoD.Evm DVoD.Session

/-- `decoded.args` of a `SessionPurchased` log. -/
structure SessionPurchasedArgs where
  sessionId : Word
  payer : Address
  tier : ℕ
  hours_ : ℕ
  paidAmount : ℕ
deriving DecidableEq

def SessionPurchasedArgs.topics (args : SessionPurchasedArgs) : List Word :=
  [sessionPurchasedTopic, args.sessionId, addressWord args.payer]

def SessionPurchasedArgs.data (args : SessionPurchasedArgs) : Bytes :=
  abiEncode [word args.tier, word args.hours_, word args.paidAmount]

def SessionPurchasedArgs.InRange (args : SessionPurchasedArgs) : Prop :=
  args.tier < 2 ^ 8 ∧ args.hours_ < 2 ^ 256 ∧ args.paidAmount < 2 ^ 256

/-- viem's `decodeEventLog` for the ABI of `SessionPurchased`; `none` where it throws.
    It sees topics and data of a log, not the contract that emitted it. -/
structure DecodeEventLog where
  decode : List Word → Bytes → Option SessionPurchasedArgs
  /-- Every log of the event's shape is decoded. -/
  decode_shape : ∀ args : SessionPurchasedArgs, args.InRange →
    decode args.topics args.data = some args
  /-- A log of another event is not. -/
  decode_other : ∀ topics data, topics.head? ≠ some sessionPurchasedTopic →
    decode topics data = none

/-- The decoder that reads the words the ABI puts there. -/
def decodeSessionPurchased : DecodeEventLog where
  decode topics data :=
    match topics with
    | [topic, sessionId, payer] =>
        if topic = sessionPurchasedTopic ∧ 96 ≤ data.length then
          some ⟨sessionId, wordAddress payer, (abiWord data 0).toNat, (abiWord data 1).toNat,
            (abiWord data 2).toNat⟩
        else none
    | _ => none
  decode_shape args h := by
    have htier : args.tier < 2 ^ 256 := Nat.lt_trans h.1 (by norm_num)
    simp [SessionPurchasedArgs.topics, SessionPurchasedArgs.data, -abiEncode_cons,
      toNat_word htier, toNat_word h.2.1, toNat_word h.2.2]
  decode_other topics data h := by
    split
    · next topic sessionId payer => exact if_neg fun hc => h (by rw [hc.1]; rfl)
    · rfl

def tierIndex : Tier → ℕ
  | .lite => 0
  | .standard => 1
  | .turbo => 2

/-- `PaymentVerificationError`, one constructor for each place that throws it. -/
inductive PaymentVerificationError where
  | noSuchTransaction (txHash : String)
  | didNotSucceed (txHash : String)
  | notSentToEscrow (txHash : String)
  | noMatchingLog (tier : Tier) (hours expectedPriceWei : ℕ) (txHash : String)
deriving DecidableEq

def PaymentVerificationError.message : PaymentVerificationError → String
  | noSuchTransaction txHash => "no such transaction " ++ txHash ++ " on Arc testnet"
  | didNotSucceed txHash => "transaction " ++ txHash ++ " did not succeed"
  | notSentToEscrow txHash => "transaction " ++ txHash ++ " was not sent to SessionEscrow"
  | noMatchingLog tier hours expectedPriceWei txHash =>
      "no matching SessionPurchased(" ++ tier.name ++ ", " ++ toString hours ++ "h, " ++
        toString expectedPriceWei ++ " wei) log in " ++ txHash

structure Order where
  tier : Tier
  hours : ℕ
  expectedPriceWei : ℕ

def order (tier : Tier) (hours : ℕ) : Order := ⟨tier, hours, priceWei tier hours⟩

def Order.matchLog (order : Order) (decodeEventLog : DecodeEventLog) (log : Log) :
    Option SessionPurchasedArgs :=
  match decodeEventLog.decode log.topics log.data with
  | none => none
  | some args =>
      if args.tier ≠ tierIndex order.tier then none
      else if args.hours_ ≠ order.hours then none
      else if args.paidAmount ≠ order.expectedPriceWei then none
      else some args

theorem Order.matchLog_eq_some {order : Order} {decodeEventLog : DecodeEventLog} {log : Log}
    {args : SessionPurchasedArgs} :
    order.matchLog decodeEventLog log = some args ↔
      decodeEventLog.decode log.topics log.data = some args ∧ args.tier = tierIndex order.tier ∧
        args.hours_ = order.hours ∧ args.paidAmount = order.expectedPriceWei := by
  rcases hd : decodeEventLog.decode log.topics log.data with _ | args'
  · simp [matchLog, hd]
  · simp only [matchLog, hd, ne_eq, ite_not, Option.ite_none_right_eq_some, Option.some.injEq]
    constructor
    · rintro ⟨ht, hh, hp, rfl⟩
      exact ⟨rfl, ht, hh, hp⟩
    · rintro ⟨rfl, ht, hh, hp⟩
      exact ⟨ht, hh, hp, rfl⟩

/-- `verifySessionPurchase`; `receipt` is `none` where `getTransactionReceipt` throws. -/
def verifySessionPurchase (escrowAddress : Address) (decodeEventLog : DecodeEventLog)
    (receipt : Option Receipt) (txHash : String) (order : Order) :
    Except PaymentVerificationError (Word × Address) :=
  match receipt with
  | none => .error (.noSuchTransaction txHash)
  | some receipt =>
      if receipt.status ≠ .success then .error (.didNotSucceed txHash)
      else if receipt.dest ≠ some escrowAddress then .error (.notSentToEscrow txHash)
      else
        match receipt.logs.findSome? (order.matchLog decodeEventLog) with
        | some args => .ok (args.sessionId, args.payer)
        | none => .error (.noMatchingLog order.tier order.hours order.expectedPriceWei txHash)

theorem verifySessionPurchase_eq_ok {escrowAddress : Address} {decodeEventLog : DecodeEventLog}
    {receipt : Option Receipt} {txHash : String} {order : Order} {sessionId : Word} {payer : Address} :
    verifySessionPurchase escrowAddress decodeEventLog receipt txHash order = .ok (sessionId, payer) ↔
      ∃ r args, receipt = some r ∧ r.status = .success ∧ r.dest = some escrowAddress ∧
        r.logs.findSome? (order.matchLog decodeEventLog) = some args ∧
        args.sessionId = sessionId ∧ args.payer = payer := by
  rcases receipt with _ | r
  · simp [verifySessionPurchase]
  · simp only [verifySessionPurchase, ne_eq, ite_not, Option.some.injEq]
    by_cases hstatus : r.status = .success
    · by_cases hdest : r.dest = some escrowAddress
      · rcases hfind : r.logs.findSome? (order.matchLog decodeEventLog) with _ | args <;>
          simp [hstatus, hdest, hfind]
      · simp [hstatus, hdest]
    · simp [hstatus]

end DVoD.Arc
