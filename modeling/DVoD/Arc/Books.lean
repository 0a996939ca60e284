import DVoD.Arc.SessionEscrow
import Mathlib.Data.List.Range
import Mathlib.Algebra.BigOperators.Group.List.Basic

/-!
# The books of the escrow

What one execution adds to the books of the escrow, under any re-entrancy:

* `Session.Kept` - what never changes in a session;
* `Storage.Valid` - the invariant of the storage, which holds at every hand-over too;
* `Delta w w' evs` - what an execution from `w` to `w'` did, told by the events `evs`
  that the escrow itself emitted on the way.

`deltas` are composed by `Delta.trans`; `frames_delta` is the re-entrancy rule's premise,
so that every execution of every transaction is a `Delta`.
-/

namespace DVoD.Arc

open DVoD.Evm

/-! ### Reading the events -/

namespace EscrowEvent

@[simp] def purchasedId : EscrowEvent → Option ℕ
  | SessionPurchased sessionId _ _ _ _ => some sessionId
  | _ => none

@[simp] def refundedId : EscrowEvent → Option ℕ
  | SessionRefunded sessionId _ _ => some sessionId
  | _ => none

@[simp] def transfer : EscrowEvent → Option Transfer
  | SessionPurchased .. => none
  | OperatorPaidOut payee amount => some ⟨payee, amount⟩
  | SessionRefunded _ payer amount => some ⟨payer, amount⟩

@[simp] def payout : EscrowEvent → Option Transfer
  | OperatorPaidOut payee amount => some ⟨payee, amount⟩
  | _ => none

@[simp] def paidIn : EscrowEvent → ℕ
  | SessionPurchased _ _ _ _ paidAmount => paidAmount
  | _ => 0

@[simp] def paidOut : EscrowEvent → ℕ
  | OperatorPaidOut _ amount => amount
  | _ => 0

@[simp] def refundedAmount : EscrowEvent → ℕ
  | SessionRefunded _ _ amount => amount
  | _ => 0

end EscrowEvent

open EscrowEvent

def purchasedIds (evs : List EscrowEvent) : List ℕ := evs.filterMap purchasedId
def refundedIds (evs : List EscrowEvent) : List ℕ := evs.filterMap refundedId
def transfers (evs : List EscrowEvent) : List Transfer := evs.filterMap EscrowEvent.transfer
def payouts (evs : List EscrowEvent) : List Transfer := evs.filterMap payout
def totalPaidIn (evs : List EscrowEvent) : ℕ := (evs.map paidIn).sum
def totalPaidOut (evs : List EscrowEvent) : ℕ := (evs.map paidOut).sum
def totalRefunded (evs : List EscrowEvent) : ℕ := (evs.map refundedAmount).sum

section Append

variable (evs evs' : List EscrowEvent)

@[simp] theorem purchasedIds_append :
    purchasedIds (evs ++ evs') = purchasedIds evs ++ purchasedIds evs' := List.filterMap_append
@[simp] theorem refundedIds_append :
    refundedIds (evs ++ evs') = refundedIds evs ++ refundedIds evs' := List.filterMap_append
@[simp] theorem transfers_append :
    transfers (evs ++ evs') = transfers evs ++ transfers evs' := List.filterMap_append
@[simp] theorem totalPaidIn_append :
    totalPaidIn (evs ++ evs') = totalPaidIn evs + totalPaidIn evs' := by simp [totalPaidIn]
@[simp] theorem totalPaidOut_append :
    totalPaidOut (evs ++ evs') = totalPaidOut evs + totalPaidOut evs' := by simp [totalPaidOut]
@[simp] theorem totalRefunded_append :
    totalRefunded (evs ++ evs') = totalRefunded evs + totalRefunded evs' := by simp [totalRefunded]

end Append

section Singleton

variable (e : EscrowEvent)

@[simp] theorem purchasedIds_singleton : purchasedIds [e] = e.purchasedId.toList := by
  cases e <;> rfl
@[simp] theorem refundedIds_singleton : refundedIds [e] = e.refundedId.toList := by
  cases e <;> rfl
@[simp] theorem transfers_singleton : transfers [e] = e.transfer.toList := by
  cases e <;> rfl
@[simp] theorem totalPaidIn_singleton : totalPaidIn [e] = e.paidIn := by simp [totalPaidIn]
@[simp] theorem totalPaidOut_singleton : totalPaidOut [e] = e.paidOut := by simp [totalPaidOut]
@[simp] theorem totalRefunded_singleton : totalRefunded [e] = e.refundedAmount := by
  simp [totalRefunded]

end Singleton

namespace Deployment

variable (D : Deployment)

def ownLogs (logs : List Log) : List Log := logs.filter fun log => log.address = D.address

def eventsOf (logs : List Log) : List EscrowEvent := (D.ownLogs logs).filterMap ofLog

@[simp] theorem ownLogs_append (logs logs' : List Log) :
    D.ownLogs (logs ++ logs') = D.ownLogs logs ++ D.ownLogs logs' := List.filter_append ..

theorem ownLogs_foreign {log : Log} (h : log.address ≠ D.address) : D.ownLogs [log] = [] := by
  simp [ownLogs, h]

@[simp] theorem ownLogs_log (event : EscrowEvent) : D.ownLogs [D.log event] = [D.log event] := by
  simp [ownLogs, log]

theorem eventsOf_eq {logs : List Log} {evs : List EscrowEvent}
    (h : D.ownLogs logs = evs.map D.log) (hevs : ∀ e ∈ evs, e.InRange) : D.eventsOf logs = evs := by
  rw [eventsOf, h, List.filterMap_map]
  clear h
  induction evs with
  | nil => rfl
  | cons e evs ih =>
    have he : (ofLog ∘ D.log) e = some e := ofLog_topics_data (hevs e List.mem_cons_self) D.address
    rw [List.filterMap_cons_some he, ih fun e he => hevs e (List.mem_cons_of_mem _ he)]

end Deployment

/-! ### What the storage keeps -/

/-- `session'` is `session`, apart from `refunded`, which may have been set. -/
def Session.Kept (session session' : Session) : Prop :=
  session' = { session with refunded := session'.refunded } ∧
    (session.refunded = true → session'.refunded = true)

theorem Session.Kept.refl (session : Session) : session.Kept session := ⟨rfl, id⟩

theorem Session.Kept.trans {s₁ s₂ s₃ : Session} (h₁ : s₁.Kept s₂) (h₂ : s₂.Kept s₃) :
    s₁.Kept s₃ := by
  refine ⟨?_, fun h => h₂.2 (h₁.2 h)⟩
  have h := h₂.1
  rw [h₁.1] at h
  exact h

structure Storage.Valid (s : Storage) : Prop where
  hours : ∀ i < s.nextSessionId, 1 ≤ (s.sessions i).hours_ ∧ (s.sessions i).hours_ ≤ MAX_HOURS
  paid : ∀ i < s.nextSessionId, (s.sessions i).paidAmount = price (s.sessions i).tier (s.sessions i).hours_
  fresh : ∀ i, s.nextSessionId ≤ i → s.sessions i = Session.default
  nextSessionId_lt : s.nextSessionId < 2 ^ 256

theorem price_lt (tier : EscrowTier) {hours_ : ℕ} (h : hours_ ≤ MAX_HOURS) :
    price tier hours_ < 2 ^ 256 := by
  have hrate : ratePerHour tier ≤ 10 ^ 18 := by cases tier <;> decide
  calc price tier hours_ ≤ 10 ^ 18 * 24 := Nat.mul_le_mul hrate h
    _ < 2 ^ 256 := by norm_num

theorem Storage.Valid.paidAmount_lt {s : Storage} (h : s.Valid) (i : ℕ) :
    (s.sessions i).paidAmount < 2 ^ 256 := by
  by_cases hi : i < s.nextSessionId
  · rw [h.paid i hi]; exact price_lt _ (h.hours i hi).2
  · rw [h.fresh i (Nat.le_of_not_lt hi)]; norm_num [Session.default]

/-- The storage holds what the event says. -/
def Recorded (s : Storage) : EscrowEvent → Prop
  | .SessionPurchased sessionId payer tier hours_ paidAmount =>
      sessionId < s.nextSessionId ∧ (s.sessions sessionId).payer = payer ∧
        (s.sessions sessionId).tier = tier ∧ (s.sessions sessionId).hours_ = hours_ ∧
        (s.sessions sessionId).paidAmount = paidAmount
  | .OperatorPaidOut _ _ => True
  | .SessionRefunded sessionId payer amount =>
      sessionId < s.nextSessionId ∧ (s.sessions sessionId).payer = payer ∧
        (s.sessions sessionId).paidAmount = amount

/-! ### What an execution does -/

/-- What an execution of any code, from outside a call to outside a call, has done
    when the escrow emitted `evs` in it. -/
structure Delta (D : Deployment) (w w' : EscrowWorld) (evs : List EscrowEvent) : Prop where
  valid : w'.storage.Valid
  logs : ∃ new, w'.logs = w.logs ++ new ∧ D.ownLogs new = evs.map D.log
  inRange : ∀ e ∈ evs, e.InRange
  purchased : ∃ k, w'.storage.nextSessionId = w.storage.nextSessionId + k ∧
    purchasedIds evs = List.range' w.storage.nextSessionId k
  kept : ∀ i < w.storage.nextSessionId, (w.storage.sessions i).Kept (w'.storage.sessions i)
  refunded : ∀ i, (refundedIds evs).count i + (w.storage.sessions i).refunded.toNat =
    (w'.storage.sessions i).refunded.toNat
  recorded : ∀ e ∈ evs, Recorded w'.storage e
  sent : w'.sent.Perm (w.sent ++ transfers evs)
  balance : w'.balance + totalPaidOut evs + totalRefunded evs + w.forced =
    w.balance + totalPaidIn evs + w'.forced

namespace Delta

variable {D : Deployment} {w w₁ w₂ w' : EscrowWorld} {evs evs₁ evs₂ : List EscrowEvent}

theorem next_le (h : Delta D w w' evs) :
    w.storage.nextSessionId ≤ w'.storage.nextSessionId := by
  obtain ⟨k, hk, -⟩ := h.purchased
  omega

theorem recorded_mono (h : Delta D w w' evs) {e : EscrowEvent} (he : Recorded w.storage e) :
    Recorded w'.storage e := by
  cases e with
  | SessionPurchased i payer tier hours_ paidAmount =>
    obtain ⟨hlt, hpayer, htier, hhours, hpaid⟩ := he
    have hkept := (h.kept i hlt).1
    exact ⟨Nat.lt_of_lt_of_le hlt h.next_le, by rw [hkept]; exact hpayer, by rw [hkept]; exact htier,
      by rw [hkept]; exact hhours, by rw [hkept]; exact hpaid⟩
  | OperatorPaidOut => trivial
  | SessionRefunded i payer amount =>
    obtain ⟨hlt, hpayer, hpaid⟩ := he
    have hkept := (h.kept i hlt).1
    exact ⟨Nat.lt_of_lt_of_le hlt h.next_le, by rw [hkept]; exact hpayer, by rw [hkept]; exact hpaid⟩

theorem refl (h : w.storage.Valid) : Delta D w w [] where
  valid := h
  logs := ⟨[], by simp, rfl⟩
  inRange e he := by cases he
  purchased := ⟨0, rfl, rfl⟩
  kept i _ := Session.Kept.refl _
  refunded i := by simp [refundedIds]
  recorded e he := by cases he
  sent := by simp [transfers]
  balance := by simp [totalPaidOut, totalRefunded, totalPaidIn]

theorem trans (h₁ : Delta D w w₁ evs₁) (h₂ : Delta D w₁ w₂ evs₂) :
    Delta D w w₂ (evs₁ ++ evs₂) where
  valid := h₂.valid
  logs := by
    obtain ⟨new₁, hlogs₁, hnew₁⟩ := h₁.logs
    obtain ⟨new₂, hlogs₂, hnew₂⟩ := h₂.logs
    exact ⟨new₁ ++ new₂, by rw [hlogs₂, hlogs₁, List.append_assoc], by simp [hnew₁, hnew₂]⟩
  inRange e he := (List.mem_append.mp he).elim (h₁.inRange e) (h₂.inRange e)
  purchased := by
    obtain ⟨k₁, hnext₁, hids₁⟩ := h₁.purchased
    obtain ⟨k₂, hnext₂, hids₂⟩ := h₂.purchased
    refine ⟨k₁ + k₂, by omega, ?_⟩
    rw [purchasedIds_append, hids₁, hids₂, hnext₁, List.range'_append_1]
  kept i hi := (h₁.kept i hi).trans (h₂.kept i (Nat.lt_of_lt_of_le hi h₁.next_le))
  refunded i := by
    have hr₁ := h₁.refunded i
    have hr₂ := h₂.refunded i
    rw [refundedIds_append, List.count_append]
    omega
  recorded e he := by
    rcases List.mem_append.mp he with he | he
    · exact h₂.recorded_mono (h₁.recorded e he)
    · exact h₂.recorded e he
  sent := by
    rw [transfers_append, ← List.append_assoc]
    exact h₂.sent.trans (h₁.sent.append_right _)
  balance := by
    have hb₁ := h₁.balance
    have hb₂ := h₂.balance
    simp only [totalPaidOut_append, totalRefunded_append, totalPaidIn_append]
    omega

theorem foreign (h : w.storage.Valid) {self : Address} (hself : self ≠ D.address)
    (topics : List Word) (data : Bytes) : Delta D w (w.emit self topics data) [] :=
  { refl (D := D) h with
    logs := ⟨[⟨self, topics, data⟩], rfl, D.ownLogs_foreign hself⟩ }

theorem force (h : w.storage.Valid) (amount : ℕ) : Delta D w (w.force amount) [] :=
  { refl (D := D) h with
    balance := by simp [World.force, totalPaidOut, totalRefunded, totalPaidIn]; omega }

end Delta

/-! ### What each function does -/

section Functions

variable {D : Deployment} {receive : Receive Storage} {msg : Msg} {w w' : EscrowWorld}

theorem Storage.Valid.create {s : Storage} (h : s.Valid) (hmax : s.nextSessionId + 1 ≠ 2 ^ 256)
    {session : Session} (hhours : 1 ≤ session.hours_ ∧ session.hours_ ≤ MAX_HOURS)
    (hpaid : session.paidAmount = price session.tier session.hours_) :
    (s.create session).Valid where
  hours i hi := by
    by_cases his : i = s.nextSessionId
    · subst his; simpa using hhours
    · rw [s.create_sessions_of_ne session his]
      exact h.hours i (by rw [create_nextSessionId] at hi; omega)
  paid i hi := by
    by_cases his : i = s.nextSessionId
    · subst his; simpa using hpaid
    · rw [s.create_sessions_of_ne session his]
      exact h.paid i (by rw [create_nextSessionId] at hi; omega)
  fresh i hi := by
    rw [create_nextSessionId] at hi
    rw [s.create_sessions_of_ne session (by omega)]
    exact h.fresh i (by omega)
  nextSessionId_lt := by
    have := h.nextSessionId_lt
    rw [create_nextSessionId]
    omega

theorem Storage.Valid.setRefunded {s : Storage} (h : s.Valid) {i : ℕ} (hi : i < s.nextSessionId) :
    (s.setRefunded i).Valid where
  hours j hj := by
    by_cases hji : j = i
    · subst hji; simpa using h.hours j hj
    · rw [s.setRefunded_sessions_of_ne hji]; exact h.hours j hj
  paid j hj := by
    by_cases hji : j = i
    · subst hji; simpa using h.paid j hj
    · rw [s.setRefunded_sessions_of_ne hji]; exact h.paid j hj
  fresh j hj := by
    rw [setRefunded_nextSessionId] at hj
    rw [s.setRefunded_sessions_of_ne (by omega)]
    exact h.fresh j hj
  nextSessionId_lt := h.nextSessionId_lt

@[simp] theorem emit_storage (event : EscrowEvent) : (D.emit w event).storage = w.storage := rfl
@[simp] theorem emit_balance (event : EscrowEvent) : (D.emit w event).balance = w.balance := rfl
@[simp] theorem emit_forced (event : EscrowEvent) : (D.emit w event).forced = w.forced := rfl
@[simp] theorem emit_sent (event : EscrowEvent) : (D.emit w event).sent = w.sent := rfl

theorem purchaseSession_delta {tier : EscrowTier} {hours_ : ℕ} (hw : w.storage.Valid)
    (h : D.purchaseSession msg tier hours_ (w.credit msg.value) = .ok w') :
    Delta D w w' [.SessionPurchased w.storage.nextSessionId msg.sender tier hours_ msg.value] := by
  simp only [Deployment.purchaseSession] at h
  split at h
  · cases h
  split at h
  · cases h
  split at h
  · cases h
  next hhours hvalue hmax =>
  obtain ⟨hpos, hhours⟩ := not_or.mp hhours
  replace hhours : hours_ ≤ MAX_HOURS := Nat.le_of_not_lt hhours
  replace hvalue : msg.value = price tier hours_ := not_not.mp hvalue
  have hlt := price_lt tier hhours
  have hrange : (EscrowEvent.SessionPurchased w.storage.nextSessionId msg.sender tier hours_
      msg.value).InRange :=
    ⟨hw.nextSessionId_lt, Nat.lt_of_le_of_lt hhours (by norm_num [MAX_HOURS]), hvalue ▸ hlt⟩
  obtain rfl := Except.ok.inj h
  exact {
    valid := hw.create hmax ⟨Nat.pos_of_ne_zero hpos, hhours⟩ hvalue
    logs := ⟨[D.log _], rfl, D.ownLogs_log _⟩
    inRange := fun e he => by rw [List.mem_singleton.mp he]; exact hrange
    purchased := ⟨1, rfl, rfl⟩
    kept := fun i hi => by
      rw [emit_storage, World.credit_storage, w.storage.create_sessions_of_ne _ (Nat.ne_of_lt hi)]
      exact Session.Kept.refl _
    refunded := fun i => by
      by_cases hi : i = w.storage.nextSessionId
      · subst hi
        simp [hw.fresh _ (Nat.le_refl _), Session.default]
      · rw [emit_storage, World.credit_storage, w.storage.create_sessions_of_ne _ hi]
        simp
    recorded := fun e he => by
      rw [List.mem_singleton.mp he]
      simp [Recorded]
    sent := by simp
    balance := by simp }

/-- What an event of a payment is not. -/
theorem EscrowEvent.amounts_of_transfer {e : EscrowEvent} {t : Transfer} (h : e.transfer = some t) :
    e.purchasedId = none ∧ e.paidIn = 0 ∧ e.paidOut + e.refundedAmount = t.amount := by
  cases e with
  | SessionPurchased => cases h
  | OperatorPaidOut payee amount =>
    cases h
    exact ⟨rfl, rfl, rfl⟩
  | SessionRefunded sessionId payer amount =>
    cases h
    exact ⟨rfl, rfl, Nat.zero_add amount⟩

/-- A payment is booked on top of what the payee does with it. -/
theorem Delta.book {s : Storage} {t : Transfer} {e : EscrowEvent} {w₂ : EscrowWorld}
    {evs : List EscrowEvent} (hnext : s.nextSessionId = w.storage.nextSessionId)
    (hle : t.amount ≤ w.balance) (ht : e.transfer = some t) (hrange : e.InRange)
    (hd : Delta D (World.debit { w with storage := s } t.payee t.amount) w₂ evs)
    (hrecorded : Recorded w₂.storage e)
    (hkept : ∀ i < w.storage.nextSessionId, (w.storage.sessions i).Kept (w₂.storage.sessions i))
    (hrefunded : ∀ i, (refundedIds (evs ++ [e])).count i + (w.storage.sessions i).refunded.toNat =
      (w₂.storage.sessions i).refunded.toNat) :
    Delta D w (D.emit w₂ e) (evs ++ [e]) := by
  obtain ⟨new, hlogs, hnew⟩ := hd.logs
  obtain ⟨hid, hin, hout⟩ := e.amounts_of_transfer ht
  exact {
    valid := hd.valid
    logs := ⟨new ++ [D.log e], by
        rw [Deployment.emit, World.emit, hlogs, ← List.append_assoc]; rfl, by
      rw [D.ownLogs_append, hnew, D.ownLogs_log, List.map_append, List.map_singleton]⟩
    inRange := fun e' he' => by
      rcases List.mem_append.mp he' with he' | he'
      · exact hd.inRange e' he'
      · rw [List.mem_singleton.mp he']; exact hrange
    purchased := by
      obtain ⟨k, hk, hids⟩ := hd.purchased
      rw [World.debit_storage, hnext] at hk hids
      refine ⟨k, hk, ?_⟩
      rw [purchasedIds_append, purchasedIds_singleton, hid, Option.toList_none, List.append_nil]
      exact hids
    kept := hkept
    refunded := hrefunded
    recorded := fun e' he' => by
      rcases List.mem_append.mp he' with he' | he'
      · exact hd.recorded e' he'
      · rw [List.mem_singleton.mp he']; exact hrecorded
    sent := by
      have hsent := hd.sent
      simp only [World.debit_sent, List.append_assoc] at hsent
      simp only [emit_sent, transfers_append, transfers_singleton, ht]
      exact hsent.trans (List.perm_append_comm.append_left _)
    balance := by
      have hb := hd.balance
      simp only [World.debit_balance, World.debit_forced] at hb
      simp only [emit_balance, emit_forced, totalPaidOut_append, totalRefunded_append,
        totalPaidIn_append, totalPaidOut_singleton, totalRefunded_singleton, totalPaidIn_singleton]
      omega }

/-- The rule of `payoutOperator`: what the payee does is a `Delta` on top of which the
    payout is booked. -/
theorem payoutOperator_delta {payee : Address} {amount : ℕ} (hw : w.storage.Valid)
    (hamount : amount < 2 ^ 256)
    (hreceive : ∀ {payee w₁ w₂}, receive payee w₁ = some w₂ → w₁.storage.Valid →
      ∃ evs, Delta D w₁ w₂ evs)
    (h : D.payoutOperator receive msg payee amount (w.credit msg.value) = .ok w') :
    ∃ evs, Delta D w w' (evs ++ [.OperatorPaidOut payee amount]) := by
  simp only [Deployment.payoutOperator] at h
  split at h
  · cases h
  split at h
  · cases h
  split at h
  · cases h
  split at h
  · cases h
  next hvalue _ _ _ w₂ htransfer =>
  replace hvalue : msg.value = 0 := not_not.mp hvalue
  rw [hvalue, World.credit_zero] at htransfer
  obtain ⟨hle, htransfer⟩ := transfer_eq_some htransfer
  obtain ⟨evs, hd⟩ := hreceive htransfer hw
  obtain rfl := Except.ok.inj h
  refine ⟨evs, ?_⟩
  apply Delta.book (s := w.storage) (t := ⟨payee, amount⟩) (e := .OperatorPaidOut payee amount) rfl
    hle rfl hamount hd trivial hd.kept
  intro i
  simpa using hd.refunded i

/-- The rule of `refundSession`.  The session is marked before the payer gets control,
    so what the payer does cannot refund it again. -/
theorem refundSession_delta {sessionId : ℕ} (hw : w.storage.Valid)
    (hreceive : ∀ {payee w₁ w₂}, receive payee w₁ = some w₂ → w₁.storage.Valid →
      ∃ evs, Delta D w₁ w₂ evs)
    (h : D.refundSession receive msg sessionId (w.credit msg.value) = .ok w') :
    ∃ evs, Delta D w w' (evs ++ [.SessionRefunded sessionId (w.storage.sessions sessionId).payer
      (w.storage.sessions sessionId).paidAmount]) := by
  simp only [Deployment.refundSession] at h
  split at h
  · cases h
  split at h
  · cases h
  split at h
  · cases h
  split at h
  · cases h
  split at h
  · cases h
  next hvalue _ hpayer hrefunded _ w₂ htransfer =>
  replace hvalue : msg.value = 0 := not_not.mp hvalue
  rw [hvalue, World.credit_zero] at htransfer
  rw [World.credit_storage] at hpayer hrefunded
  have hid : sessionId < w.storage.nextSessionId := by
    by_contra hge
    exact hpayer (by rw [hw.fresh _ (Nat.le_of_not_lt hge)]; rfl)
  obtain ⟨hle, htransfer⟩ := transfer_eq_some htransfer
  replace hle : (w.storage.sessions sessionId).paidAmount ≤ w.balance := hle
  obtain ⟨evs, hd⟩ := hreceive htransfer (hw.setRefunded hid)
  have hkept := (hd.kept sessionId hid).1
  simp only [World.debit_storage, Storage.setRefunded_sessions_self] at hkept
  have hpayer₂ : (w₂.storage.sessions sessionId).payer = (w.storage.sessions sessionId).payer := by
    rw [hkept]
  have hpaid₂ : (w₂.storage.sessions sessionId).paidAmount =
      (w.storage.sessions sessionId).paidAmount := by rw [hkept]
  obtain rfl := Except.ok.inj h
  rw [hpayer₂, hpaid₂]
  have hrange : (EscrowEvent.SessionRefunded sessionId (w.storage.sessions sessionId).payer
      (w.storage.sessions sessionId).paidAmount).InRange :=
    ⟨Nat.lt_trans hid hw.nextSessionId_lt, hw.paidAmount_lt _⟩
  refine ⟨evs, ?_⟩
  apply Delta.book (s := w.storage.setRefunded sessionId) (t := ⟨_, _⟩) rfl hle rfl hrange hd
    ⟨Nat.lt_of_lt_of_le hid hd.next_le, hpayer₂, hpaid₂⟩
  · intro i hi
    have hki := hd.kept i hi
    by_cases his : i = sessionId
    · subst his
      simp only [World.debit_storage, Storage.setRefunded_sessions_self] at hki
      exact ⟨hki.1, fun _ => hki.2 rfl⟩
    · rwa [World.debit_storage, Storage.setRefunded_sessions_of_ne _ his] at hki
  · intro i
    have hri := hd.refunded i
    by_cases his : i = sessionId
    · subst his
      simp only [World.debit_storage, Storage.setRefunded_sessions_self] at hri
      simp only [refundedIds_append, refundedIds_singleton, refundedId, Option.toList_some,
        List.count_append, List.count_singleton_self, hrefunded]
      simpa using hri
    · rw [World.debit_storage, Storage.setRefunded_sessions_of_ne _ his] at hri
      simpa [List.count_singleton, Ne.symm his] using hri

end Functions

/-- **Every execution is a `Delta`**, whatever code runs and however it re-enters. -/
theorem frames_delta (D : Deployment) :
    D.escrow.Frames fun w w' => w.storage.Valid → ∃ evs, Delta D w w' evs where
  refl w hw := ⟨[], Delta.refl hw⟩
  trans h₁ h₂ hw := by
    obtain ⟨evs₁, hd₁⟩ := h₁ hw
    obtain ⟨evs₂, hd₂⟩ := h₂ hd₁.valid
    exact ⟨evs₁ ++ evs₂, hd₁.trans hd₂⟩
  emit w self topics data hself hw := ⟨[], Delta.foreign hw hself topics data⟩
  force w amount hw := ⟨[], Delta.force hw amount⟩
  entry {receive msg call w w'} _ hreceive h hw := by
    have hreceive' : ∀ {payee w₁ w₂}, receive payee w₁ = some w₂ → w₁.storage.Valid →
        ∃ evs, Delta D w₁ w₂ evs := fun h => (hreceive h).2
    cases call with
    | purchaseSession tier hours_ => exact ⟨_, purchaseSession_delta hw h⟩
    | payoutOperator payee amount =>
      obtain ⟨evs, hd⟩ := payoutOperator_delta hw amount.isLt hreceive' h
      exact ⟨_, hd⟩
    | refundSession sessionId =>
      obtain ⟨evs, hd⟩ := refundSession_delta hw hreceive' h
      exact ⟨_, hd⟩

theorem genesis_valid : Deployment.genesis.storage.Valid where
  hours i hi := absurd hi (Nat.not_lt_zero i)
  paid i hi := absurd hi (Nat.not_lt_zero i)
  fresh i _ := rfl
  nextSessionId_lt := by simp [Deployment.genesis]

/-! ### The books -/

def Storage.refundedSessions (s : Storage) : List ℕ :=
  (List.range s.nextSessionId).filter fun i => (s.sessions i).refunded

def Storage.paidAmountOf (s : Storage) (i : ℕ) : ℕ := (s.sessions i).paidAmount

def Storage.refundOf (s : Storage) (i : ℕ) : Transfer :=
  ⟨(s.sessions i).payer, (s.sessions i).paidAmount⟩

/-- What the books of the escrow say outside a call.  `ids` are those of the
    `SessionPurchased` logs, in the order they were handed out. -/
structure Books (D : Deployment) (w : EscrowWorld) : Prop where
  ids : purchasedIds (D.eventsOf w.logs) = List.range w.storage.nextSessionId
  hours : ∀ i < w.storage.nextSessionId,
    1 ≤ (w.storage.sessions i).hours_ ∧ (w.storage.sessions i).hours_ ≤ 24
  paid : ∀ i < w.storage.nextSessionId, (w.storage.sessions i).paidAmount =
    price (w.storage.sessions i).tier (w.storage.sessions i).hours_
  balance : w.balance + totalPaidOut (D.eventsOf w.logs) +
      (w.storage.refundedSessions.map w.storage.paidAmountOf).sum =
    ((List.range w.storage.nextSessionId).map w.storage.paidAmountOf).sum + w.forced
  sent : w.sent.Perm
    (payouts (D.eventsOf w.logs) ++ w.storage.refundedSessions.map w.storage.refundOf)

section Totals

variable {s : Storage} {evs : List EscrowEvent}

/-- Amounts that go with what sessions paid add up as these do. -/
theorem sum_of_recorded {amount : EscrowEvent → ℕ} {id : EscrowEvent → Option ℕ}
    (h : ∀ e ∈ evs, amount e = ((id e).map s.paidAmountOf).getD 0) :
    (evs.map amount).sum = ((evs.filterMap id).map s.paidAmountOf).sum := by
  induction evs with
  | nil => rfl
  | cons e evs ih =>
    have he := h e List.mem_cons_self
    rw [List.map_cons, List.sum_cons, he, ih fun e he => h e (List.mem_cons_of_mem _ he)]
    cases hid : id e with
    | none => simp [hid]
    | some i => simp [hid]

theorem totalPaidIn_of_recorded (h : ∀ e ∈ evs, Recorded s e) :
    totalPaidIn evs = ((purchasedIds evs).map s.paidAmountOf).sum := by
  apply sum_of_recorded
  intro e he
  cases e with
  | SessionPurchased i payer tier hours_ paidAmount => exact (h _ he).2.2.2.2.symm
  | OperatorPaidOut payee amount => rfl
  | SessionRefunded i payer amount => rfl

theorem totalRefunded_of_recorded (h : ∀ e ∈ evs, Recorded s e) :
    totalRefunded evs = ((refundedIds evs).map s.paidAmountOf).sum := by
  apply sum_of_recorded
  intro e he
  cases e with
  | SessionPurchased i payer tier hours_ paidAmount => rfl
  | OperatorPaidOut payee amount => rfl
  | SessionRefunded i payer amount => exact (h _ he).2.2.symm

theorem transfers_perm_of_recorded (h : ∀ e ∈ evs, Recorded s e) :
    (transfers evs).Perm (payouts evs ++ (refundedIds evs).map s.refundOf) := by
  induction evs with
  | nil => exact List.Perm.refl _
  | cons e evs ih =>
    have ih := ih fun e he => h e (List.mem_cons_of_mem _ he)
    have he := h e List.mem_cons_self
    cases e with
    | SessionPurchased i payer tier hours_ paidAmount =>
      simpa [transfers, payouts, refundedIds, List.filterMap_cons] using ih
    | OperatorPaidOut payee amount =>
      simpa [transfers, payouts, refundedIds, List.filterMap_cons] using ih
    | SessionRefunded i payer amount =>
      obtain ⟨-, hpayer, hpaid⟩ := he
      have hrefund : s.refundOf i = ⟨payer, amount⟩ := by rw [Storage.refundOf, hpayer, hpaid]
      simp only [transfers, payouts, refundedIds] at ih
      simp only [transfers, payouts, refundedIds, List.filterMap_cons, EscrowEvent.transfer, payout,
        refundedId, List.map_cons, hrefund]
      exact (ih.cons _).trans List.perm_middle.symm

theorem refundedIds_perm (hs : s.Valid)
    (h : ∀ i, (refundedIds evs).count i = (s.sessions i).refunded.toNat) :
    (refundedIds evs).Perm s.refundedSessions := by
  rw [List.perm_iff_count]
  intro i
  have hnodup : s.refundedSessions.Nodup := List.nodup_range.filter _
  rw [h i, hnodup.count]
  by_cases hi : i < s.nextSessionId
  · cases hr : (s.sessions i).refunded <;> simp [Storage.refundedSessions, hi, hr]
  · simp [Storage.refundedSessions, hi, hs.fresh i (Nat.le_of_not_lt hi), Session.default]

end Totals

theorem Delta.eventsOf_logs {D : Deployment} {w : EscrowWorld} {evs : List EscrowEvent}
    (h : Delta D Deployment.genesis w evs) : D.eventsOf w.logs = evs := by
  obtain ⟨new, hlogs, hnew⟩ := h.logs
  replace hlogs : w.logs = new := hlogs
  exact hlogs ▸ D.eventsOf_eq hnew h.inRange

theorem Delta.books {D : Deployment} {w : EscrowWorld} {evs : List EscrowEvent}
    (h : Delta D Deployment.genesis w evs) : Books D w := by
  obtain ⟨k, hk, hids⟩ := h.purchased
  have hnext : w.storage.nextSessionId = k := by rw [hk]; exact Nat.zero_add k
  have hpurchased : purchasedIds evs = List.range w.storage.nextSessionId := by
    rw [hids, hnext, List.range_eq_range']; rfl
  have hrefunded : (refundedIds evs).Perm w.storage.refundedSessions :=
    refundedIds_perm h.valid h.refunded
  have hin := totalPaidIn_of_recorded h.recorded
  have hout := totalRefunded_of_recorded h.recorded
  rw [hpurchased] at hin
  rw [(hrefunded.map _).sum_eq] at hout
  obtain rfl := h.eventsOf_logs
  exact {
    ids := hpurchased
    hours := h.valid.hours
    paid := h.valid.paid
    balance := by
      have hb := h.balance
      rw [hin, hout] at hb
      simpa [Deployment.genesis] using hb
    sent := by
      have hsent : w.sent.Perm (transfers _) := h.sent
      exact hsent.trans ((transfers_perm_of_recorded h.recorded).trans
        ((hrefunded.map _).append_left _)) }

theorem exists_delta (D : Deployment) (txs : List (Transaction D.escrow)) :
    ∃ evs, Delta D Deployment.genesis (D.chain txs).world evs :=
  (frames_delta D).mineAll ⟨Deployment.genesis, []⟩ txs genesis_valid

/-- A session is marked refunded exactly where the escrow has reported its refund. -/
theorem refunded_iff (D : Deployment) (txs : List (Transaction D.escrow)) (sessionId : ℕ) :
    ((D.chain txs).world.storage.sessions sessionId).refunded = true ↔
      sessionId ∈ refundedIds (D.eventsOf (D.chain txs).world.logs) := by
  obtain ⟨evs, hd⟩ := exists_delta D txs
  have hcount := hd.refunded sessionId
  rw [hd.eventsOf_logs, ← List.count_pos_iff]
  cases hr : ((D.chain txs).world.storage.sessions sessionId).refunded <;>
    simp [hr, Deployment.genesis, Session.default] at hcount <;> simp [hcount]

/-- **The books balance at every point outside a call.**  After any transactions and any
    further code, which a transaction cut short at such a point is: the books balance,
    sessions are as they were created but for `refunded`, which is only ever set, and a
    call or a transaction that reverts leaves the world as it was. -/
theorem escrow_books (D : Deployment) (txs txs' : List (Transaction D.escrow)) (now : ℕ)
    (code : Code EscrowCall) {self : Address} {w : EscrowWorld} (hself : self ≠ D.address)
    (h : D.escrow.exec now code self (D.chain (txs ++ txs')).world = some w) :
    Books D w ∧
    (∀ i < (D.chain txs).world.storage.nextSessionId,
      ((D.chain txs).world.storage.sessions i).Kept (w.storage.sessions i)) ∧
    (∀ call value callee error,
      D.escrow.callFrame (D.escrow.receiver now callee) ⟨self, value, now⟩ call w = .error error →
      D.escrow.exec now (.invoke call value callee .stop) self w = some w) ∧
    (∀ (tx : Transaction D.escrow) receipts, tx.execute w = none →
      (Chain.mine ⟨w, receipts⟩ tx).world = w) := by
  obtain ⟨evs, hd⟩ := exists_delta D txs
  obtain ⟨evs', hd'⟩ : ∃ evs', Delta D (D.chain txs).world (D.chain (txs ++ txs')).world evs' := by
    rw [D.chain_append]
    exact (frames_delta D).mineAll _ txs' hd.valid
  obtain ⟨evs'', hd''⟩ := (frames_delta D).exec hself h hd'.valid
  have hkept := hd'.trans hd''
  refine ⟨(hd.trans hkept).books, hkept.kept, fun call value callee error hcall => ?_,
    fun tx receipts htx => ?_⟩
  · rw [Contract.exec_invoke, hcall]; rfl
  · simp only [Chain.mine, htx, Option.getD_none]

/-- The admin buys a session and refunds it, trying to refund it once more while it
    receives the value. -/
theorem escrow_books_reentered :
    let D : Deployment := ⟨1, 2⟩
    let buy : Transaction D.escrow :=
      ⟨0, 2, by decide, 1000, .call (.purchaseSession .Lite 1) 100000000000000000 .stop⟩
    let refund : Transaction D.escrow :=
      ⟨1, 2, by decide, 1001, .call (.refundSession 0) 0 (.invoke (.refundSession 0) 0 .stop .stop)⟩
    Books D (D.chain ([buy] ++ [refund])).world ∧
      ((D.chain ([buy] ++ [refund])).world.storage.sessions 0).refunded = true :=
  have hself : (3 : Address) ≠ (1 : Address) := by decide
  ⟨(escrow_books ⟨1, 2⟩ _ _ 0 .stop hself rfl).1, by decide⟩

end DVoD.Arc
