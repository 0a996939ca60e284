import DVoD.Evm.Chain
import DVoD.Session.Tier

/-!
# The escrow contract

`SessionEscrow.sol`, function by function.  The two functions that send value take
the effect of the hand-over as a parameter; `escrow` makes them the entry of a
`DVoD.Evm.Contract`, whose executions then include every re-entrant one.

The functions compute on unbounded numbers, since none of their sums can overflow;
the checked `nextSessionId++` keeps its check, and the arguments of a call are
256-bit words.
-/

namespace DVoD.Arc

open DVoD.Evm

inductive EscrowTier where
  | Lite
  | Standard
  | Turbo
deriving DecidableEq, Repr

def EscrowTier.index : EscrowTier → ℕ
  | Lite => 0
  | Standard => 1
  | Turbo => 2

def EscrowTier.ofIndex : ℕ → Option EscrowTier
  | 0 => some .Lite
  | 1 => some .Standard
  | 2 => some .Turbo
  | _ => none

@[simp] theorem EscrowTier.ofIndex_index (tier : EscrowTier) : ofIndex tier.index = some tier := by
  cases tier <;> rfl

theorem EscrowTier.index_lt (tier : EscrowTier) : tier.index < 3 := by
  cases tier <;> decide

structure Session where
  payer : Address
  tier : EscrowTier
  hours_ : ℕ
  paidAmount : ℕ
  purchasedAt : ℕ
  refunded : Bool
deriving DecidableEq

def Session.default : Session := ⟨0, .Lite, 0, 0, 0, false⟩

structure Storage where
  nextSessionId : ℕ
  sessions : ℕ → Session

namespace Storage

/-- `sessions[nextSessionId++] = session`. -/
def create (s : Storage) (session : Session) : Storage :=
  ⟨s.nextSessionId + 1, Function.update s.sessions s.nextSessionId session⟩

/-- `sessions[sessionId].refunded = true`. -/
def setRefunded (s : Storage) (sessionId : ℕ) : Storage :=
  let session := { s.sessions sessionId with refunded := true }
  ⟨s.nextSessionId, Function.update s.sessions sessionId session⟩

variable (s : Storage) (session : Session) {i j : ℕ}

@[simp] theorem create_nextSessionId :
    (s.create session).nextSessionId = s.nextSessionId + 1 := rfl
@[simp] theorem setRefunded_nextSessionId :
    (s.setRefunded i).nextSessionId = s.nextSessionId := rfl
@[simp] theorem create_sessions_self :
    (s.create session).sessions s.nextSessionId = session := Function.update_self ..
@[simp] theorem setRefunded_sessions_self :
    (s.setRefunded i).sessions i = { s.sessions i with refunded := true } := Function.update_self ..

theorem create_sessions_of_ne (h : i ≠ s.nextSessionId) :
    (s.create session).sessions i = s.sessions i := Function.update_of_ne h ..
theorem setRefunded_sessions_of_ne (h : j ≠ i) :
    (s.setRefunded i).sessions j = s.sessions j := Function.update_of_ne h ..

end Storage

inductive EscrowError where
  | InvalidHours (hours_ : ℕ)
  | IncorrectPayment (required provided : ℕ)
  | SessionNotFound (sessionId : ℕ)
  | SessionAlreadyRefunded (sessionId : ℕ)
  | InsufficientEscrowBalance (requested available : ℕ)
  | NotAdmin (caller : Address)
  | TransferFailed
  | Panic          -- checked arithmetic overflowed
  | NotPayable     -- value sent to a function that takes none
deriving DecidableEq

inductive EscrowCall where
  | purchaseSession (tier : EscrowTier) (hours_ : Word)
  | payoutOperator (relayPayoutAddress : Address) (amount : Word)
  | refundSession (sessionId : Word)

/-! ### Prices -/

def ether : ℕ := 10 ^ 18

def LITE_RATE_PER_HOUR : ℕ := ether / 10
def STANDARD_RATE_PER_HOUR : ℕ := 35 * ether / 100
def TURBO_RATE_PER_HOUR : ℕ := ether
def MAX_HOURS : ℕ := 24

def ratePerHour (tier : EscrowTier) : ℕ :=
  if tier = .Lite then LITE_RATE_PER_HOUR
  else if tier = .Standard then STANDARD_RATE_PER_HOUR
  else TURBO_RATE_PER_HOUR

def price (tier : EscrowTier) (hours_ : ℕ) : ℕ := ratePerHour tier * hours_

/-! ### Events -/

/-- `keccak256("SessionPurchased(uint256,address,uint8,uint256,uint256)")`. -/
def sessionPurchasedTopic : Word :=
  0xa01e888b9674c245ec4c57ecb5cbb6bec3f700a2a07f55e5104b88e615005198

/-- `keccak256("OperatorPaidOut(address,uint256)")`. -/
def operatorPaidOutTopic : Word :=
  0x994aabf6875dba4d62fd8ffb8b36db4dff78dea7ebf013338c26003ba737179e

/-- `keccak256("SessionRefunded(uint256,address,uint256)")`. -/
def sessionRefundedTopic : Word :=
  0xfac581d1e902e1373c4ce647d14e31d57587ad6ccd56512491f70e0c5522752e

inductive EscrowEvent where
  | SessionPurchased (sessionId : ℕ) (payer : Address) (tier : EscrowTier)
      (hours_ paidAmount : ℕ)
  | OperatorPaidOut (relayPayoutAddress : Address) (amount : ℕ)
  | SessionRefunded (sessionId : ℕ) (payer : Address) (amount : ℕ)
deriving DecidableEq

namespace EscrowEvent

def topics : EscrowEvent → List Word
  | SessionPurchased sessionId payer _ _ _ =>
      [sessionPurchasedTopic, word sessionId, addressWord payer]
  | OperatorPaidOut relayPayoutAddress _ => [operatorPaidOutTopic, addressWord relayPayoutAddress]
  | SessionRefunded sessionId payer _ => [sessionRefundedTopic, word sessionId, addressWord payer]

def data : EscrowEvent → Bytes
  | SessionPurchased _ _ tier hours_ paidAmount =>
      abiEncode [word tier.index, word hours_, word paidAmount]
  | OperatorPaidOut _ amount => abiEncode [word amount]
  | SessionRefunded _ _ amount => abiEncode [word amount]

def ofLog (log : Log) : Option EscrowEvent :=
  match log.topics with
  | [topic, sessionId, account] =>
      if topic = sessionPurchasedTopic then
        (EscrowTier.ofIndex (abiWord log.data 0).toNat).map fun tier =>
          SessionPurchased sessionId.toNat (wordAddress account) tier
            (abiWord log.data 1).toNat (abiWord log.data 2).toNat
      else if topic = sessionRefundedTopic then
        some (SessionRefunded sessionId.toNat (wordAddress account) (abiWord log.data 0).toNat)
      else none
  | [topic, account] =>
      if topic = operatorPaidOutTopic then
        some (OperatorPaidOut (wordAddress account) (abiWord log.data 0).toNat)
      else none
  | _ => none

def InRange : EscrowEvent → Prop
  | SessionPurchased sessionId _ _ hours_ paidAmount =>
      sessionId < 2 ^ 256 ∧ hours_ < 2 ^ 256 ∧ paidAmount < 2 ^ 256
  | OperatorPaidOut _ amount => amount < 2 ^ 256
  | SessionRefunded sessionId _ amount => sessionId < 2 ^ 256 ∧ amount < 2 ^ 256

theorem ofLog_topics_data {event : EscrowEvent} (h : event.InRange) (address : Address) :
    ofLog ⟨address, event.topics, event.data⟩ = some event := by
  cases event with
  | SessionPurchased sessionId payer tier hours_ paidAmount =>
    have htier : tier.index < 2 ^ 256 := Nat.lt_trans tier.index_lt (by decide)
    simp [ofLog, topics, data, -abiEncode_cons, toNat_word htier, toNat_word h.1, toNat_word h.2.1,
      toNat_word h.2.2]
  | OperatorPaidOut payee amount =>
    simp [ofLog, topics, data, -abiEncode_cons, toNat_word h]
  | SessionRefunded sessionId payer amount =>
    have hne : sessionRefundedTopic ≠ sessionPurchasedTopic := by decide
    simp [ofLog, topics, data, -abiEncode_cons, hne, toNat_word h.1, toNat_word h.2]

end EscrowEvent

/-! ### The contract -/

abbrev EscrowWorld := World Storage

structure Deployment where
  address : Address
  ADMIN : Address

namespace Deployment

variable (D : Deployment)

def log (event : EscrowEvent) : Log := ⟨D.address, event.topics, event.data⟩

def emit (w : EscrowWorld) (event : EscrowEvent) : EscrowWorld :=
  w.emit D.address event.topics event.data

def purchaseSession (msg : Msg) (tier : EscrowTier) (hours_ : ℕ) (w : EscrowWorld) :
    Except EscrowError EscrowWorld :=
  if hours_ = 0 ∨ hours_ > MAX_HOURS then .error (.InvalidHours hours_)
  else
    let required := price tier hours_
    if msg.value ≠ required then .error (.IncorrectPayment required msg.value)
    else
      let sessionId := w.storage.nextSessionId
      if sessionId + 1 = 2 ^ 256 then .error .Panic
      else
        let session : Session :=
          { payer := msg.sender, tier := tier, hours_ := hours_, paidAmount := msg.value
            purchasedAt := msg.timestamp % 2 ^ 64, refunded := false }
        .ok (D.emit { w with storage := w.storage.create session }
          (.SessionPurchased sessionId msg.sender tier hours_ msg.value))

def payoutOperator (receive : Receive Storage) (msg : Msg) (relayPayoutAddress : Address)
    (amount : ℕ) (w : EscrowWorld) : Except EscrowError EscrowWorld :=
  if msg.value ≠ 0 then .error .NotPayable
  else if msg.sender ≠ D.ADMIN then .error (.NotAdmin msg.sender)
  else if amount > w.balance then .error (.InsufficientEscrowBalance amount w.balance)
  else
    match transfer receive relayPayoutAddress amount w with
    | none => .error .TransferFailed
    | some w' => .ok (D.emit w' (.OperatorPaidOut relayPayoutAddress amount))

def refundSession (receive : Receive Storage) (msg : Msg) (sessionId : ℕ) (w : EscrowWorld) :
    Except EscrowError EscrowWorld :=
  if msg.value ≠ 0 then .error .NotPayable
  else if msg.sender ≠ D.ADMIN then .error (.NotAdmin msg.sender)
  else
    let session := w.storage.sessions sessionId
    if session.payer = 0 then .error (.SessionNotFound sessionId)
    else if session.refunded then .error (.SessionAlreadyRefunded sessionId)
    else
      match transfer receive session.payer session.paidAmount
          { w with storage := w.storage.setRefunded sessionId } with
      | none => .error .TransferFailed
      | some w' =>
          -- `session` is a storage reference: the event reads it after the call
          let session := w'.storage.sessions sessionId
          .ok (D.emit w' (.SessionRefunded sessionId session.payer session.paidAmount))

def escrow : Contract Storage EscrowCall EscrowError where
  address := D.address
  entry receive msg call w :=
    match call with
    | .purchaseSession tier hours_ => D.purchaseSession msg tier hours_.toNat w
    | .payoutOperator relayPayoutAddress amount =>
        D.payoutOperator receive msg relayPayoutAddress amount.toNat w
    | .refundSession sessionId => D.refundSession receive msg sessionId.toNat w

def genesis : EscrowWorld := ⟨⟨0, fun _ => Session.default⟩, 0, 0, [], []⟩

def chain (txs : List (Transaction D.escrow)) : Chain Storage := Chain.mineAll ⟨genesis, []⟩ txs

theorem chain_append (txs txs' : List (Transaction D.escrow)) :
    D.chain (txs ++ txs') = (D.chain txs).mineAll txs' := Chain.mineAll_append ..

end Deployment

end DVoD.Arc
