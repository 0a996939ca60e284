import DVoD.Machine.Run
import DVoD.Session.Tier

/-!
# The purchase page

`PurchasePage` with `sendPurchaseTx`: a click on the button asks for a quote, has the wallet
send the payment, waits for its receipt and has the orchestrator confirm it.  Each of these
may fail, and then the button is there again.  `charges_once_iff` says when the page sends
no payment while an earlier one has been made and not been confirmed.
-/

namespace DVoD.Web

open DVoD.Machine DVoD.Session

/-! ### The page, the chain and the orchestrator -/

inductive Step where
  | idle
  | quoting
  | paying
  | confirming
  | done
deriving DecidableEq

/-- Of the quote, what the page reads. -/
structure PurchaseQuote where
  price : String
  contract : String

/-- What a run of `handleBuy` took from the page when it was called. -/
structure Purchase where
  account : String
  provider : String
  tier : Tier
  hours : ℕ

/-- Where `handleBuy` awaits; a transaction is named by its place among those sent. -/
inductive Awaiting where
  | quoteSession
  | switchEthereumChain (contract : String) (valueWei : ℕ)
  | addEthereumChain (contract : String) (valueWei : ℕ)
  | writeContract (contract : String) (valueWei : ℕ)
  | waitForTransactionReceipt (hash : ℕ)
  | confirmSession (hash : ℕ)

/-- The transaction that was sent before. -/
def Awaiting.hash : Awaiting → Option ℕ
  | .waitForTransactionReceipt hash => some hash
  | .confirmSession hash => some hash
  | _ => none

inductive Status where
  | pending
  | success
  | reverted
deriving DecidableEq

/-- A purchase transaction of the page; `presented` where the orchestrator has been asked to
    confirm it, `confirmed` where it has. -/
structure Payment where
  purchase : Purchase
  contract : String
  valueWei : ℕ
  status : Status
  presented : Bool
  confirmed : Bool

/-- A call of `handleBuy`: the payments that were outstanding, and what it did first. -/
structure Click where
  outstanding : List ℕ
  first : Awaiting

/-- The state of the page, with what `useWallet` gives it. -/
structure PurchasePage where
  account : Option String
  connectedProvider : Option String
  tiers : Option (List Tier)
  selectedTier : Tier
  hours : ℕ
  step : Step
  txHash : Option ℕ

/-- The page, the call of `handleBuy` that runs, and the payments.  The last three are history
    variables: the payments of the calls that ended in the `catch`, the payments outstanding
    at each send, and the calls. -/
structure Checkout where
  page : PurchasePage
  running : Option (Purchase × Awaiting)
  payments : List Payment
  failed : List ℕ
  sends : List (List ℕ)
  clicks : List Click

namespace Checkout

inductive Move where
  | setTiers (tiers : List Tier)
  | setSelectedTier (tier : Tier)
  | setHours (hours : ℕ)
  | useWallet (account connectedProvider : Option String)
  /-- The button. -/
  | handleBuy
  /-- The quote arrives. -/
  | quoted (quote : PurchaseQuote)
  /-- Another promise is fulfilled. -/
  | fulfilled
  /-- The promise is rejected; `broadcast` where the wallet has sent the transaction all the same. -/
  | rejected (broadcast : Bool)
  | mine (hash : ℕ) (success : Bool)
  /-- The orchestrator's handler confirms a payment that it was asked to. -/
  | confirm (hash : ℕ)

def start : Checkout :=
  ⟨⟨none, none, none, .standard, 1, .idle, none⟩, none, [], [], [], []⟩

section Steps

variable (s : Checkout)

def busy : Prop := s.page.step ≠ .idle ∧ s.page.step ≠ .done

instance : Decidable s.busy := inferInstanceAs (Decidable (_ ∧ _))

/-- The payment has been made and has not been confirmed. -/
def isOutstanding (hash : ℕ) : Bool :=
  (s.payments[hash]?).any fun payment => payment.status = .success ∧ !payment.confirmed

def outstanding : List ℕ := (List.range s.payments.length).filter s.isOutstanding

/-- The button is there and enabled, and `handleBuy` does not return at once. -/
def purchase : Option Purchase :=
  if s.busy ∨ ¬ (s.page.tiers.any fun tiers => tiers.contains s.page.selectedTier) then none
  else
    match s.page.account.filter (· ≠ ""), s.page.connectedProvider with
    | some account, some provider => some ⟨account, provider, s.page.selectedTier, s.page.hours⟩
    | _, _ => none

/-- The `catch` block. -/
def fail (awaiting : Awaiting) : Checkout :=
  { s with page.step := .idle, running := none, failed := s.failed ++ awaiting.hash.toList }

/-- The wallet sends the transaction. -/
def send (purchase : Purchase) (contract : String) (valueWei : ℕ) : Checkout :=
  { s with
    payments := s.payments ++ [⟨purchase, contract, valueWei, .pending, false, false⟩]
    sends := s.sends ++ [s.outstanding] }

end Steps

variable (usdcPriceToWei : String → Option ℕ)

/-- `usdcPriceToWei` is `none` where `BigInt` throws on what `parseFloat` has read. -/
def step (s : Checkout) : Move → Option Checkout
  | .setTiers tiers => some { s with page.tiers := tiers }
  | .setSelectedTier tier => some { s with page.selectedTier := tier }
  | .setHours hours => some { s with page.hours := hours }
  | .useWallet account connectedProvider =>
      some { s with page.account := account, page.connectedProvider := connectedProvider }
  | .handleBuy =>
      s.purchase.map fun purchase =>
        { s with
          page.step := .quoting
          running := some (purchase, .quoteSession)
          clicks := s.clicks ++ [⟨s.outstanding, .quoteSession⟩] }
  | .quoted quote =>
      match s.running with
      | some (purchase, .quoteSession) =>
          match usdcPriceToWei quote.price with
          | some valueWei =>
              some { s with
                page.step := .paying
                running := some (purchase, .switchEthereumChain quote.contract valueWei) }
          | none => some (s.fail .quoteSession)
      | _ => none
  | .fulfilled =>
      match s.running with
      | some (purchase, .switchEthereumChain contract valueWei) =>
          some { s with running := some (purchase, .writeContract contract valueWei) }
      | some (purchase, .addEthereumChain contract valueWei) =>
          some { s with running := some (purchase, .writeContract contract valueWei) }
      | some (purchase, .writeContract contract valueWei) =>
          some { s.send purchase contract valueWei with
            page.txHash := some s.payments.length
            running := some (purchase, .waitForTransactionReceipt s.payments.length) }
      | some (purchase, .waitForTransactionReceipt hash) =>
          -- a receipt comes for a transaction that has reverted, too
          (s.payments[hash]?.filter fun payment => payment.status ≠ .pending).map fun payment =>
            { s with
              page.step := .confirming
              running := some (purchase, .confirmSession hash)
              payments := s.payments.set hash { payment with presented := true } }
      | some (_, .confirmSession hash) =>
          (s.payments[hash]?.filter Payment.confirmed).map fun _ =>
            { s with page.step := .done, running := none }
      | _ => none
  | .rejected broadcast =>
      match s.running with
      | some (purchase, .switchEthereumChain contract valueWei) =>
          some { s with running := some (purchase, .addEthereumChain contract valueWei) }
      | some (purchase, .writeContract contract valueWei) =>
          if broadcast then
            some ((s.send purchase contract valueWei).fail
              (.waitForTransactionReceipt s.payments.length))
          else some (s.fail (.writeContract contract valueWei))
      | some (_, awaiting) => some (s.fail awaiting)
      | none => none
  | .mine hash success =>
      (s.payments[hash]?.filter fun payment => payment.status = .pending).map fun payment =>
        let status := if success then Status.success else Status.reverted
        { s with payments := s.payments.set hash { payment with status := status } }
  | .confirm hash =>
      (s.payments[hash]?.filter fun payment =>
          payment.presented && decide (payment.status = .success) && !payment.confirmed).map
        fun payment => { s with payments := s.payments.set hash { payment with confirmed := true } }

/-- No payment was sent while another was outstanding, and no call of `handleBuy` began with
    anything but the confirmation of an outstanding one. -/
structure ChargesOnce (s : Checkout) : Prop where
  sends : ∀ outstanding ∈ s.sends, outstanding = []
  clicks : ∀ click ∈ s.clicks, click.outstanding ≠ [] →
    ∃ hash ∈ click.outstanding, click.first = .confirmSession hash

/-- The move calls `handleBuy`, or has the wallet send a payment. -/
def Begins (s : Checkout) : Move → Prop
  | .handleBuy => True
  | .fulfilled => ∃ purchase contract valueWei, s.running = some (purchase, .writeContract contract valueWei)
  | .rejected broadcast => broadcast ∧
      ∃ purchase contract valueWei, s.running = some (purchase, .writeContract contract valueWei)
  | _ => False

/-- No payment of a call that failed is outstanding: it is still pending, it has reverted, or
    it was confirmed in spite of the failure. -/
def FailuresSettled (s : Checkout) (m : Move) : Prop :=
  s.Begins m → ∀ hash ∈ s.failed, s.isOutstanding hash = false

/-! ### Where the payments are -/

section Settled

variable {s s' : Checkout} {m : Move} {hash : ℕ} {payment : Payment}

/-- Every payment is confirmed, belongs to a call that failed, or to the one that runs; and
    while a call runs the button is disabled. -/
structure Settled (s : Checkout) : Prop where
  payments : ∀ hash payment, s.payments[hash]? = some payment → payment.confirmed = true ∨
    hash ∈ s.failed ∨ ∃ purchase awaiting, s.running = some (purchase, awaiting) ∧
      awaiting.hash = some hash
  busy : s.running.isSome → s.busy

theorem isOutstanding_iff : s.isOutstanding hash = true ↔
    ∃ payment, s.payments[hash]? = some payment ∧ payment.status = .success ∧
      payment.confirmed = false := by
  simp [isOutstanding, Option.any_eq_true]

theorem mem_outstanding : hash ∈ s.outstanding ↔ s.isOutstanding hash = true := by
  rw [outstanding, List.mem_filter, List.mem_range]
  constructor
  · intro h
    exact h.2
  · intro h
    obtain ⟨payment, hpayment, -⟩ := isOutstanding_iff.mp h
    exact ⟨(List.getElem?_eq_some_iff.mp hpayment).1, h⟩

/-- While no payment of the running call has been sent, those outstanding are of calls that
    failed. -/
theorem Settled.outstanding_eq_nil_iff (h : s.Settled)
    (hnone : ∀ purchase awaiting, s.running = some (purchase, awaiting) → awaiting.hash = none) :
    s.outstanding = [] ↔ ∀ hash ∈ s.failed, s.isOutstanding hash = false := by
  rw [List.eq_nil_iff_forall_not_mem]
  constructor
  · intro hall hash _
    exact Bool.eq_false_iff.mpr fun hout => hall hash (mem_outstanding.mpr hout)
  · intro hall hash hmem
    have hout := mem_outstanding.mp hmem
    obtain ⟨payment, hpayment, -, hconfirmed⟩ := isOutstanding_iff.mp hout
    rcases h.payments hash payment hpayment with hpaid | hfailed | ⟨purchase, awaiting, hrun, hhash⟩
    · rw [hconfirmed] at hpaid
      cases hpaid
    · rw [hall hash hfailed] at hout
      cases hout
    · rw [hnone purchase awaiting hrun] at hhash
      cases hhash

end Settled

/-! ### One move -/

/-- What each move does, where it can happen. -/
inductive Stepped (s : Checkout) : Move → Checkout → Prop
  | shown {m : Move} (hm : ¬ s.Begins m) {page : PurchasePage} (hstep : page.step = s.page.step) :
      Stepped s m { s with page := page }
  | called (hidle : ¬ s.busy) (purchase : Purchase) :
      Stepped s .handleBuy { s with
        page.step := .quoting
        running := some (purchase, .quoteSession)
        clicks := s.clicks ++ [⟨s.outstanding, .quoteSession⟩] }
  | advanced {m : Move} (hm : ¬ s.Begins m) {purchase : Purchase} {awaiting next : Awaiting}
      (hrun : s.running = some (purchase, awaiting)) (hhash : awaiting.hash = none)
      (hnext : next.hash = none) {page : PurchasePage} (hstep : page.step = s.page.step ∨ page.step = .paying) :
      Stepped s m { s with page := page, running := some (purchase, next) }
  | failed {m : Move} (hm : ¬ s.Begins m) {purchase : Purchase} {awaiting : Awaiting}
      (hrun : s.running = some (purchase, awaiting)) : Stepped s m (s.fail awaiting)
  | sent {purchase : Purchase} {contract : String} {valueWei : ℕ}
      (hrun : s.running = some (purchase, .writeContract contract valueWei)) :
      Stepped s .fulfilled { s.send purchase contract valueWei with
        page.txHash := some s.payments.length
        running := some (purchase, .waitForTransactionReceipt s.payments.length) }
  | lost {purchase : Purchase} {contract : String} {valueWei : ℕ}
      (hrun : s.running = some (purchase, .writeContract contract valueWei)) :
      Stepped s (.rejected true)
        ((s.send purchase contract valueWei).fail (.waitForTransactionReceipt s.payments.length))
  | received {m : Move} (hm : ¬ s.Begins m) {purchase : Purchase} {hash : ℕ} {payment : Payment}
      (hrun : s.running = some (purchase, .waitForTransactionReceipt hash))
      (hpayment : s.payments[hash]? = some payment) :
      Stepped s m { s with
        page.step := .confirming
        running := some (purchase, .confirmSession hash)
        payments := s.payments.set hash { payment with presented := true } }
  | finished {m : Move} (hm : ¬ s.Begins m) {purchase : Purchase} {hash : ℕ} {payment : Payment}
      (hrun : s.running = some (purchase, .confirmSession hash))
      (hpayment : s.payments[hash]? = some payment) (hconfirmed : payment.confirmed = true) :
      Stepped s m { s with page.step := .done, running := none }
  | updated {m : Move} (hm : ¬ s.Begins m) {hash : ℕ} {payment payment' : Payment}
      (hpayment : s.payments[hash]? = some payment)
      (hconfirmed : payment.confirmed = true → payment'.confirmed = true) :
      Stepped s m { s with payments := s.payments.set hash payment' }

section Moves

variable {usdcPriceToWei : String → Option ℕ} {s s' : Checkout} {m : Move}

theorem not_busy_of_purchase {purchase : Purchase} (h : s.purchase = some purchase) : ¬ s.busy := by
  unfold Checkout.purchase at h
  split at h
  · cases h
  · next hnot => exact fun hbusy => hnot (.inl hbusy)

/-- Only the wallet's answer to a payment begins one. -/
theorem not_begins {purchase : Purchase} {awaiting : Awaiting} (hm : m ≠ .handleBuy)
    (hrun : s.running = some (purchase, awaiting))
    (hne : ∀ contract valueWei, awaiting ≠ .writeContract contract valueWei) : ¬ s.Begins m := by
  have hnot (purchase' : Purchase) (contract : String) (valueWei : ℕ) :
      s.running ≠ some (purchase', .writeContract contract valueWei) := by
    intro hrun'
    exact hne contract valueWei (Prod.mk.inj (Option.some.inj (hrun.symm.trans hrun'))).2
  cases m with
  | handleBuy => exact absurd rfl hm
  | fulfilled =>
    rintro ⟨purchase', contract, valueWei, hrun'⟩
    exact hnot purchase' contract valueWei hrun'
  | rejected broadcast =>
    rintro ⟨-, purchase', contract, valueWei, hrun'⟩
    exact hnot purchase' contract valueWei hrun'
  | _ => exact id

theorem stepped_quoted {quote : PurchaseQuote}
    (h : step usdcPriceToWei s (.quoted quote) = some s') : Stepped s (.quoted quote) s' := by
  simp only [step] at h
  split at h
  · next purchase hrun =>
    split at h
    · obtain rfl := Option.some.inj h
      exact .advanced id hrun rfl rfl (.inr rfl)
    · obtain rfl := Option.some.inj h
      exact .failed id hrun
  · cases h

theorem stepped_fulfilled (h : step usdcPriceToWei s .fulfilled = some s') :
    Stepped s .fulfilled s' := by
  simp only [step] at h
  split at h
  · next hrun =>
    obtain rfl := Option.some.inj h
    exact .advanced (not_begins (by nofun) hrun nofun) hrun rfl rfl (.inl rfl)
  · next hrun =>
    obtain rfl := Option.some.inj h
    exact .advanced (not_begins (by nofun) hrun nofun) hrun rfl rfl (.inl rfl)
  · next hrun =>
    obtain rfl := Option.some.inj h
    exact .sent hrun
  · next hrun =>
    obtain ⟨payment, hpayment, rfl⟩ := Option.map_eq_some_iff.mp h
    exact .received (not_begins (by nofun) hrun nofun) hrun (Option.filter_eq_some_iff.mp hpayment).1
  · next hrun =>
    obtain ⟨payment, hpayment, rfl⟩ := Option.map_eq_some_iff.mp h
    obtain ⟨hpayment, hconfirmed⟩ := Option.filter_eq_some_iff.mp hpayment
    exact .finished (not_begins (by nofun) hrun nofun) hrun hpayment hconfirmed
  · cases h

theorem stepped_rejected {broadcast : Bool}
    (h : step usdcPriceToWei s (.rejected broadcast) = some s') :
    Stepped s (.rejected broadcast) s' := by
  simp only [step] at h
  split at h
  · next hrun =>
    obtain rfl := Option.some.inj h
    exact .advanced (not_begins (by nofun) hrun nofun) hrun rfl rfl (.inl rfl)
  · next hrun =>
    split at h
    · next hbroadcast =>
      obtain rfl := Option.some.inj h
      obtain rfl := hbroadcast
      exact .lost hrun
    · next hbroadcast =>
      obtain rfl := Option.some.inj h
      have hbegins : ¬ s.Begins (.rejected broadcast) := fun h => hbroadcast h.1
      exact .failed hbegins hrun
  · next hne hrun =>
    obtain rfl := Option.some.inj h
    exact .failed (not_begins (by nofun) hrun hne) hrun
  · cases h

theorem stepped (h : step usdcPriceToWei s m = some s') : Stepped s m s' := by
  cases m with
  | handleBuy =>
    obtain ⟨purchase, hpurchase, rfl⟩ := Option.map_eq_some_iff.mp h
    exact .called (not_busy_of_purchase hpurchase) purchase
  | quoted quote => exact stepped_quoted h
  | fulfilled => exact stepped_fulfilled h
  | rejected broadcast => exact stepped_rejected h
  | mine hash success =>
    obtain ⟨payment, hpayment, rfl⟩ := Option.map_eq_some_iff.mp h
    exact .updated id (Option.filter_eq_some_iff.mp hpayment).1 id
  | confirm hash =>
    obtain ⟨payment, hpayment, rfl⟩ := Option.map_eq_some_iff.mp h
    exact .updated id (Option.filter_eq_some_iff.mp hpayment).1 fun _ => rfl
  | _ =>
    obtain rfl := Option.some.inj h
    exact .shown id rfl

/-! ### What every move keeps -/

theorem Settled.set (h : s.Settled) {hash : ℕ} {payment : Payment} (payment' : Payment)
    (hpayment : s.payments[hash]? = some payment)
    (hconfirmed : payment.confirmed = true → payment'.confirmed = true) (i : ℕ) (p : Payment)
    (hi : (s.payments.set hash payment')[i]? = some p) : p.confirmed = true ∨ i ∈ s.failed ∨
      ∃ purchase awaiting, s.running = some (purchase, awaiting) ∧ awaiting.hash = some i := by
  rw [List.getElem?_set] at hi
  split at hi
  · next heq =>
    obtain rfl := heq
    obtain rfl := Option.some.inj (Option.ite_none_right_eq_some.mp hi).2
    exact (h.payments hash payment hpayment).imp_left hconfirmed
  · exact h.payments i p hi

theorem Settled.of_running (h : s.Settled) {purchase : Purchase} {awaiting : Awaiting}
    (hrun : s.running = some (purchase, awaiting)) {i : ℕ} {p : Payment} (hi : s.payments[i]? = some p) :
    p.confirmed = true ∨ i ∈ s.failed ∨ awaiting.hash = some i := by
  rcases h.payments i p hi with hconfirmed | hfailed | ⟨purchase', awaiting', hrun', hhash⟩
  · exact .inl hconfirmed
  · exact .inr (.inl hfailed)
  · obtain rfl := (Prod.mk.inj (Option.some.inj (hrun.symm.trans hrun'))).2
    exact .inr (.inr hhash)

/-- A payment that is sent belongs to whoever is given its place. -/
theorem Settled.send (h : s.Settled) {purchase : Purchase} {contract : String} {valueWei : ℕ}
    (hrun : s.running = some (purchase, .writeContract contract valueWei)) (i : ℕ) (p : Payment)
    (hi : (s.send purchase contract valueWei).payments[i]? = some p) :
    p.confirmed = true ∨ i ∈ s.failed ∨ i = s.payments.length := by
  rw [Checkout.send, List.getElem?_append] at hi
  split at hi
  · rcases h.of_running hrun hi with hconfirmed | hfailed | hhash
    · exact .inl hconfirmed
    · exact .inr (.inl hfailed)
    · cases hhash
  · next hge =>
    obtain ⟨hzero, -⟩ := List.getElem?_eq_some_iff.mp hi
    rw [List.length_singleton] at hzero
    exact .inr (.inr (by omega))

theorem Settled.step (h : s.Settled) (hstep : Stepped s m s') : s'.Settled := by
  cases hstep with
  | shown hm hpage =>
    refine ⟨h.payments, ?_⟩
    intro hrun
    have hbusy := h.busy hrun
    rwa [Checkout.busy, ← hpage] at hbusy
  | called hidle purchase =>
    refine ⟨?_, fun _ => ⟨nofun, nofun⟩⟩
    intro i p hi
    have hnone : s.running = none := by
      by_contra hrun
      exact hidle (h.busy (Option.isSome_iff_ne_none.mpr hrun))
    rcases h.payments i p hi with hconfirmed | hfailed | ⟨_, _, hrun, -⟩
    · exact .inl hconfirmed
    · exact .inr (.inl hfailed)
    · rw [hnone] at hrun
      cases hrun
  | @advanced m hm purchase awaiting next hrun hhash hnext page hpage =>
    constructor
    · intro i p hi
      rcases h.of_running hrun hi with hconfirmed | hfailed | hhash'
      · exact .inl hconfirmed
      · exact .inr (.inl hfailed)
      · rw [hhash] at hhash'
        cases hhash'
    · intro _
      have hbusy := h.busy (Option.isSome_iff_exists.mpr ⟨_, hrun⟩)
      rcases hpage with hpage | hpage
      · rwa [Checkout.busy, ← hpage] at hbusy
      · exact ⟨by simp [hpage], by simp [hpage]⟩
  | @failed m hm purchase awaiting hrun =>
    refine ⟨?_, nofun⟩
    intro i p hi
    rcases h.of_running hrun hi with hconfirmed | hfailed | hhash
    · exact .inl hconfirmed
    · exact .inr (.inl (List.mem_append_left _ hfailed))
    · refine .inr (.inl (List.mem_append_right _ ?_))
      rw [hhash]
      exact List.mem_singleton_self i
  | sent hrun =>
    constructor
    · intro i p hi
      rcases h.send hrun i p hi with hconfirmed | hfailed | rfl
      · exact .inl hconfirmed
      · exact .inr (.inl hfailed)
      · exact .inr (.inr ⟨_, _, rfl, rfl⟩)
    · intro _
      exact h.busy (Option.isSome_iff_exists.mpr ⟨_, hrun⟩)
  | lost hrun =>
    refine ⟨?_, nofun⟩
    intro i p hi
    rcases h.send hrun i p hi with hconfirmed | hfailed | rfl
    · exact .inl hconfirmed
    · exact .inr (.inl (List.mem_append_left _ hfailed))
    · exact .inr (.inl (List.mem_append_right _ (List.mem_singleton_self _)))
  | @received m hm purchase hash payment hrun hpayment =>
    refine ⟨?_, fun _ => ⟨nofun, nofun⟩⟩
    intro i p hi
    rcases h.set { payment with presented := true } hpayment id i p hi with
      hconfirmed | hfailed | ⟨_, _, hrun', hhash⟩
    · exact .inl hconfirmed
    · exact .inr (.inl hfailed)
    · obtain rfl := (Prod.mk.inj (Option.some.inj (hrun.symm.trans hrun'))).2
      exact .inr (.inr ⟨_, _, rfl, hhash⟩)
  | @finished m hm purchase hash payment hrun hpayment hconfirmed =>
    refine ⟨?_, nofun⟩
    intro i p hi
    rcases h.of_running hrun hi with hconfirmed' | hfailed | hhash
    · exact .inl hconfirmed'
    · exact .inr (.inl hfailed)
    · obtain rfl := Option.some.inj hhash
      obtain rfl := Option.some.inj (hpayment.symm.trans hi)
      exact .inl hconfirmed
  | updated hm hpayment hconfirmed => exact ⟨h.set _ hpayment hconfirmed, h.busy⟩

theorem chargesOnce_of_eq (hsends : s'.sends = s.sends) (hclicks : s'.clicks = s.clicks) :
    s'.ChargesOnce ↔ s.ChargesOnce := by
  constructor
  · intro h
    exact ⟨hsends ▸ h.sends, hclicks ▸ h.clicks⟩
  · intro h
    exact ⟨hsends.symm ▸ h.sends, hclicks.symm ▸ h.clicks⟩

theorem chargesOnce_of_send {outstanding : List ℕ} (hsends : s'.sends = s.sends ++ [outstanding])
    (hclicks : s'.clicks = s.clicks) : s'.ChargesOnce ↔ s.ChargesOnce ∧ outstanding = [] := by
  constructor
  · intro h
    refine ⟨⟨fun o ho => h.sends o ?_, hclicks ▸ h.clicks⟩, h.sends outstanding ?_⟩
    · exact hsends ▸ List.mem_append_left _ ho
    · exact hsends ▸ List.mem_append_right _ (List.mem_singleton_self _)
  · rintro ⟨h, hnil⟩
    refine ⟨?_, hclicks.symm ▸ h.clicks⟩
    intro o ho
    rw [hsends] at ho
    rcases List.mem_append.mp ho with ho | ho
    · exact h.sends o ho
    · exact (List.mem_singleton.mp ho).trans hnil

/-- The code has no branch that begins with a confirmation. -/
theorem chargesOnce_of_click {outstanding : List ℕ} (hsends : s'.sends = s.sends)
    (hclicks : s'.clicks = s.clicks ++ [⟨outstanding, .quoteSession⟩]) :
    s'.ChargesOnce ↔ s.ChargesOnce ∧ outstanding = [] := by
  constructor
  · intro h
    refine ⟨⟨hsends ▸ h.sends, fun click hclick => h.clicks click ?_⟩, ?_⟩
    · exact hclicks ▸ List.mem_append_left _ hclick
    · by_contra hne
      have hmem : (⟨outstanding, .quoteSession⟩ : Click) ∈ s'.clicks :=
        hclicks ▸ List.mem_append_right _ (List.mem_singleton_self _)
      obtain ⟨hash, -, hfirst⟩ := h.clicks _ hmem hne
      cases hfirst
  · rintro ⟨h, hnil⟩
    refine ⟨hsends.symm ▸ h.sends, ?_⟩
    intro click hclick hne
    rw [hclicks] at hclick
    rcases List.mem_append.mp hclick with hclick | hclick
    · exact h.clicks click hclick hne
    · rw [List.mem_singleton.mp hclick] at hne
      exact absurd hnil hne

/-- A payment may be made twice where one is sent, and a click may begin one. -/
theorem chargesOnce_step_iff (h : s.Settled) (hstep : Stepped s m s') :
    s'.ChargesOnce ↔ s.ChargesOnce ∧ s.FailuresSettled m := by
  have hquiet (hm : ¬ s.Begins m) (hsends : s'.sends = s.sends) (hclicks : s'.clicks = s.clicks) :
      s'.ChargesOnce ↔ s.ChargesOnce ∧ s.FailuresSettled m :=
    (chargesOnce_of_eq hsends hclicks).trans (and_iff_left fun hbegins => absurd hbegins hm).symm
  have hsend {purchase : Purchase} {contract : String} {valueWei : ℕ}
      (hrun : s.running = some (purchase, .writeContract contract valueWei)) (hm : s.Begins m)
      (hsends : s'.sends = s.sends ++ [s.outstanding]) (hclicks : s'.clicks = s.clicks) :
      s'.ChargesOnce ↔ s.ChargesOnce ∧ s.FailuresSettled m := by
    rw [chargesOnce_of_send hsends hclicks, FailuresSettled, imp_iff_right hm,
      h.outstanding_eq_nil_iff]
    intro purchase' awaiting hrun'
    obtain rfl := (Prod.mk.inj (Option.some.inj (hrun.symm.trans hrun'))).2
    rfl
  have hclick (hidle : ¬ s.busy) (hm : s.Begins m) (hsends : s'.sends = s.sends)
      (hclicks : s'.clicks = s.clicks ++ [⟨s.outstanding, .quoteSession⟩]) :
      s'.ChargesOnce ↔ s.ChargesOnce ∧ s.FailuresSettled m := by
    rw [chargesOnce_of_click hsends hclicks, FailuresSettled, imp_iff_right hm,
      h.outstanding_eq_nil_iff]
    intro purchase awaiting hrun
    exact absurd (h.busy (Option.isSome_iff_exists.mpr ⟨_, hrun⟩)) hidle
  cases hstep with
  | called hidle purchase => exact hclick hidle trivial rfl rfl
  | sent hrun => exact hsend hrun ⟨_, _, _, hrun⟩ rfl rfl
  | lost hrun => exact hsend hrun ⟨rfl, _, _, _, hrun⟩ rfl rfl
  | shown hm => exact hquiet hm rfl rfl
  | advanced hm => exact hquiet hm rfl rfl
  | failed hm => exact hquiet hm rfl rfl
  | received hm => exact hquiet hm rfl rfl
  | finished hm => exact hquiet hm rfl rfl
  | updated hm => exact hquiet hm rfl rfl

end Moves

/-- **When the page charges once.**  For every run of clicks, failures and successes, of the
    chain and of the orchestrator: no payment was sent, and no purchase begun, while one was
    outstanding, exactly where each click and each send found no outstanding payment of a
    call that had failed. -/
theorem charges_once_iff (usdcPriceToWei : String → Option ℕ) {ms : List Move} {s : Checkout}
    (hrun : run (step usdcPriceToWei) start ms = some s) :
    s.ChargesOnce ↔ AllMoves (step usdcPriceToWei) FailuresSettled start ms := by
  have hstart : start.ChargesOnce := ⟨nofun, nofun⟩
  rw [run_good_iff (I := Settled) (p := FailuresSettled) (fun h hstep => h.step (stepped hstep))
    (fun h hstep => chargesOnce_step_iff h (stepped hstep)) hrun ⟨nofun, nofun⟩]
  exact and_iff_right hstart

/-! ### A receipt that does not come -/

/-- The payment is sent and mined, but the wait for its receipt fails, and the user clicks
    again. -/
def Sample.clickedAgain : List Move :=
  let buy := [Move.handleBuy, .quoted ⟨"$0.35", "0x5e"⟩, .fulfilled, .fulfilled]
  [.setTiers [.lite, .standard, .turbo], .useWallet (some "0x01") (some "io.metamask")] ++ buy ++
    [.mine 0 true, .rejected false] ++ buy

/-- `usdcPriceToWei` on the one price of the run. -/
def Sample.priceToWei (price : String) : Option ℕ :=
  if price = "$0.35" then some 350000000000000000 else none

theorem Sample.run_clickedAgain : ∃ s,
    run (step Sample.priceToWei) start Sample.clickedAgain = some s ∧ s.sends = [[], [0]] :=
  exists_run (by decide +kernel)

theorem charges_once_iff_clickedAgain : ∃ s,
    run (step Sample.priceToWei) start Sample.clickedAgain = some s ∧
    (s.ChargesOnce ↔
      AllMoves (step Sample.priceToWei) FailuresSettled start Sample.clickedAgain) := by
  obtain ⟨s, hrun, -⟩ := Sample.run_clickedAgain
  exact ⟨s, hrun, charges_once_iff Sample.priceToWei hrun⟩

/-- The second payment is sent while the first has been made and not been confirmed. -/
theorem charged_twice :
    ¬ ∀ (usdcPriceToWei : String → Option ℕ) (ms : List Move) (s : Checkout),
      run (step usdcPriceToWei) start ms = some s → s.ChargesOnce := by
  intro hall
  obtain ⟨s, hrun, hsends⟩ := Sample.run_clickedAgain
  have hnil := (hall _ _ s hrun).sends [0] (by simp [hsends])
  cases hnil

end Checkout

end DVoD.Web
