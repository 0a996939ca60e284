import DVoD.Arc.HonestPayment
import DVoD.Orchestrator.Grants
import DVoD.Text.JsArithmetic
import DVoD.Web.PurchasePage

/-!
# The price of a session

The escrow takes the exact price only.  On its way to the wallet the price is a text: the
orchestrator prints it for the quote, and the page reads it with `parseFloat` and scales it
to wei (`usdcPriceToWei` in `wallet.ts`).  `pays_the_price` follows it through any run of
the orchestrator and any run of the page.
-/

namespace DVoD.Web

open DVoD.Async DVoD.Arc DVoD.Evm DVoD.Machine DVoD.Session DVoD.Text

/-! ### From the text to wei -/

/-- `display.replace(/^\$/, "")`. -/
def withoutDollar : List Char → List Char
  | '$' :: s => s
  | s => s

/-- `none` where `BigInt` throws. -/
def usdcPriceToWei (display : String) : Option ℤ :=
  let dollars := JsNumber.parseFloat (withoutDollar display.toList)
  let cents := (dollars.mul (.finite 100)).round
  cents.toInteger?.map fun cents => cents * 10000000000000000

example : usdcPriceToWei "$0.35" = some 350000000000000000 := by decide +kernel
example : usdcPriceToWei "free" = none := by decide +kernel

theorem digitsValue_concat (digits : List Char) {d : ℕ} (hd : d < 10) :
    JsNumber.digitsValue 10 (digits ++ Nat.toDigits 10 d) = JsNumber.digitsValue 10 digits * 10 + d := by
  have hdigit : ∀ d < 10, JsNumber.digitValue (Nat.digitChar d) = some d := by decide
  rw [Nat.toDigits_of_lt_base hd, JsNumber.digitsValue, List.foldl_append, List.foldl_cons, List.foldl_nil,
    hdigit d hd]
  rfl

/-- A text with two decimals is read as the hundredths that it shows. -/
theorem parseFloat_hundredths (n : ℕ) :
    JsNumber.parseFloat (Nat.toDigits 10 (n / 100) ++
      '.' :: (Nat.toDigits 10 (n / 10 % 10) ++ Nat.toDigits 10 (n % 10))) = JsNumber.ofDecimal false n (-2) := by
  have hten : n / 10 % 10 < 10 := Nat.mod_lt _ (by decide)
  have hone : n % 10 < 10 := Nat.mod_lt _ (by decide)
  have hfraction : ∀ c ∈ Nat.toDigits 10 (n / 10 % 10) ++ Nat.toDigits 10 (n % 10), c.isDigit := by
    intro c hc
    rcases List.mem_append.mp hc with hc | hc
    · exact isDigit_toDigits c hc
    · exact isDigit_toDigits c hc
  have hlength : (Nat.toDigits 10 (n / 10 % 10) ++ Nat.toDigits 10 (n % 10)).length = 2 := by
    rw [Nat.toDigits_of_lt_base hten, Nat.toDigits_of_lt_base hone]
    rfl
  rw [JsNumber.parseFloat_digits Nat.toDigits_ne_nil isDigit_toDigits hfraction, hlength, ← List.append_assoc,
    digitsValue_concat _ hone, digitsValue_concat _ hten, digitsValue_toDigits]
  congr 1
  omega

/-- The page reads off a quote what the escrow asks. -/
theorem usdcPriceToWei_priceDisplay (tier : Tier) {hours : ℕ} (hmax : hours ≤ MAX_HOURS) :
    usdcPriceToWei ("$" ++ priceDisplay tier hours) = some (price (escrowTier tier) hours : ℤ) := by
  have hcents : tierRateCentsPerHour tier * hours < 2 ^ 50 := by
    unfold MAX_HOURS at hmax
    have hrate : tierRateCentsPerHour tier ≤ 100 := by cases tier <;> decide
    have hle := Nat.mul_le_mul hrate hmax
    omega
  have htext : withoutDollar ("$" ++ priceDisplay tier hours).toList =
      Nat.toDigits 10 (tierRateCentsPerHour tier * hours / 100) ++
        '.' :: (Nat.toDigits 10 (tierRateCentsPerHour tier * hours / 10 % 10) ++
          Nat.toDigits 10 (tierRateCentsPerHour tier * hours % 10)) := by
    simp [priceDisplay, withoutDollar]
  have hwei : priceWei tier hours = price (escrowTier tier) hours := priceWei_eq_price tier hours
  unfold usdcPriceToWei
  dsimp only
  rw [htext, parseFloat_hundredths, JsNumber.round_mul_hundred hcents, ← Int.cast_natCast,
    JsNumber.toInteger?_intCast, Option.map_some, ← hwei, priceWei]
  push_cast
  rfl

/-! ### What the orchestrator quotes -/

section Quotes

open DVoD.Async.Program DVoD.Async.System DVoD.Orchestrator

/-- The first request, which names no transaction, gets its quote for the tier and the hours
    that it names, once discovery has found a relay. -/
def Quotes (config : Config) (quote : Quote) : Request → (c : Command) → Answer c → Prop
  | .sessions tierParam hoursParam none, .eligibleOperators tier, eligible =>
      (∃ relay rest, eligible = some (relay :: rest)) ∧ Tier.safeParse tierParam = some tier ∧
        ∃ hours, parseHours hoursParam = some hours ∧
          quote = ⟨"$" ++ priceDisplay tier hours, config.escrow.address, tier, hours⟩
  | .sessions _ _ none, _, _ => False
  | _, _, _ => True

theorem guarded_quotes (config : Config) (quote : Quote) (request : Request) :
    (handle config request).Guarded (Quotes config quote request) fun reply => reply.body = .quote quote := by
  have hroute : (route config request).run.Guarded (Quotes config quote request)
      (Returns fun reply => reply.body = .quote quote) := by
    cases request with
    | sessions tierParam hoursParam xSessionTx =>
      simp only [route, sessionsRoute]
      split
      next tier hours htier hhours =>
        apply guarded_awaitOr_bind
        intro eligible
        cases xSessionTx with
        | some txHash => exact .inl trivial
        | none =>
          split
          · exact .inr (guarded_pure (by intro hbody; cases hbody))
          next relay rest =>
          by_cases hquote : quote = ⟨"$" ++ priceDisplay tier hours, config.escrow.address, tier, hours⟩
          · exact .inl ⟨⟨relay, rest, rfl⟩, htier, hours, hhours, hquote⟩
          · refine .inr (guarded_pure fun hbody => hquote ?_)
            exact (Body.quote.inj hbody).symm
      · exact guarded_pure (by intro hbody; cases hbody)
    | forceRelayFailure id => exact guarded_awaitOr_bind fun _ => .inl trivial
    | endSession id => exact guarded_awaitOr_bind fun _ => .inl trivial
    | sessionDetail id => exact guarded_awaitOr_bind fun _ => .inl trivial
  exact guarded_respond (fun error hbody => by cases hbody) hroute

variable {config : Config} {now : Instant} {mvs : List (System.Move (system config))}
  {cfg : System.Config (system config)}

theorem quote_of_reply (hrun : run (start config now) mvs = some cfg) {i : ℕ} {tierParam hoursParam : String}
    (hrequest : (System.requests mvs)[i]? = some (.sessions tierParam hoursParam none)) {reply : Reply}
    (hi : cfg.tasks[i]? = some (.done reply)) {quote : Quote} (hbody : reply.body = .quote quote) :
    ∃ tier hours, Tier.safeParse tierParam = some tier ∧ parseHours hoursParam = some hours ∧
      quote = ⟨"$" ++ priceDisplay tier hours, config.escrow.address, tier, hours⟩ := by
  obtain ⟨request, hrequest', env, c, eligible, -, hquotes⟩ :=
    exists_gets (G := Quotes config quote) (guarded_quotes config quote) hrun hi hbody
  obtain rfl := Option.some.inj (hrequest.symm.trans hrequest')
  cases c with
  | eligibleOperators tier =>
    obtain ⟨-, htier, hours, hhours, hquote⟩ := hquotes
    exact ⟨tier, hours, htier, hhours, hquote⟩
  | _ => cases hquotes

/-- The hours in the path are read as the page has them. -/
theorem parseHours_toString {n : ℕ} {hours : SessionHours} (h : parseHours (toString n) = some hours) :
    hours.val = n := by
  unfold parseHours at h
  obtain ⟨m, hm, hhours⟩ := Option.bind_eq_some_iff.mp h
  split at hhours
  · next hrange =>
    obtain rfl := Option.some.inj hhours
    have hdenotes : JsNumber.Denotes (Nat.toDigits 10 n) n :=
      ⟨Nat.toDigits_ne_nil, List.all_eq_true.mpr isDigit_toDigits, digitsValue_toDigits n⟩
    have htext : (toString n).toList = Nat.toDigits 10 n := by simp
    have hmax : m ≤ (24 : ℕ) := by
      have hle := hrange.2
      unfold maxSessionHours at hle
      omega
    rw [JsNumber.ofString, htext, JsNumber.toInteger?_ofChars 24 hdenotes (by decide) hmax] at hm
    change m.toNat = n
    rw [hm, Int.toNat_natCast]
  · cases hhours

/-! ### What the page gets -/

variable (spell : Address → String)

/-- `quoteSession`, `none` where it throws; an address is written as the configuration has it. -/
def quoteSession (reply : Reply) : Option PurchaseQuote :=
  if reply.status ≠ 402 then none
  else
    match reply.body with
    | .quote quote => some ⟨quote.price, spell quote.payTo⟩
    | _ => none

/-- In some run of the orchestrator, this is its answer to the request of the call. -/
def Quoted (config : Config) (purchase : Purchase) (quote : PurchaseQuote) : Prop :=
  ∃ (now : Instant) (mvs : List (System.Move (system config))) (cfg : System.Config (system config))
    (i : ℕ) (reply : Reply), run (start config now) mvs = some cfg ∧
    (System.requests mvs)[i]? = some (.sessions purchase.tier.name (toString purchase.hours) none) ∧
    cfg.tasks[i]? = some (.done reply) ∧ quoteSession spell reply = some quote

/-- The payment is what the escrow asks for. -/
structure Priced (config : Config) (purchase : Purchase) (contract : String) (valueWei : ℕ) : Prop where
  pos : 1 ≤ purchase.hours
  max : purchase.hours ≤ MAX_HOURS
  contract : contract = spell config.escrow.address
  value : valueWei = price (escrowTier purchase.tier) purchase.hours

/-- `handleBuy` pays what `usdcPriceToWei` has read; viem takes no negative value. -/
def valueOf (display : String) : Option ℕ := (usdcPriceToWei display).bind Int.toNat?

theorem Quoted.priced {purchase : Purchase} {quote : PurchaseQuote} (h : Quoted spell config purchase quote) :
    ∃ valueWei, valueOf quote.price = some valueWei ∧
      Priced spell config purchase quote.contract valueWei := by
  obtain ⟨now, mvs, cfg, i, reply, hrun, hrequest, hi, hquote⟩ := h
  unfold quoteSession at hquote
  split at hquote
  · cases hquote
  split at hquote
  · next quote' hbody =>
    obtain rfl := Option.some.inj hquote
    obtain ⟨tier, hours, htier, hhours, rfl⟩ := quote_of_reply hrun hrequest hi hbody
    obtain rfl := Option.some.inj ((Tier.safeParse_name purchase.tier).symm.trans htier)
    have hval : hours.val = purchase.hours := parseHours_toString hhours
    have hpos : 1 ≤ purchase.hours := hval ▸ hours.2.1
    have hmax : purchase.hours ≤ MAX_HOURS := hval ▸ hours.2.2
    refine ⟨_, ?_, hpos, hmax, rfl, rfl⟩
    simp only [valueOf, hval, usdcPriceToWei_priceDisplay _ hmax, Option.bind_some]
    rfl
  · cases hquote

end Quotes

/-! ### What the page pays -/

/-- The contract and the value of the payment that the call is about to make. -/
def Awaiting.order : Awaiting → Option (String × ℕ)
  | .switchEthereumChain contract valueWei => some (contract, valueWei)
  | .addEthereumChain contract valueWei => some (contract, valueWei)
  | .writeContract contract valueWei => some (contract, valueWei)
  | _ => none

namespace Checkout

variable {P : Purchase → String → ℕ → Prop} {s s' : Checkout} {m : Move} {purchase : Purchase}
  {awaiting next : Awaiting} {contract : String} {valueWei hash : ℕ} {payment payment' : Payment}

/-- What has been paid, and what is about to be, satisfies `P`. -/
structure Fair (P : Purchase → String → ℕ → Prop) (s : Checkout) : Prop where
  payments : ∀ payment ∈ s.payments, P payment.purchase payment.contract payment.valueWei
  running : ∀ purchase awaiting, s.running = some (purchase, awaiting) →
    ∀ order ∈ awaiting.order, P purchase order.1 order.2

/-- The quote is for a payment that satisfies `P`. -/
def Served (P : Purchase → String → ℕ → Prop) (s : Checkout) : Move → Prop
  | .quoted quote => ∀ purchase, s.running = some (purchase, .quoteSession) →
      ∃ valueWei, valueOf quote.price = some valueWei ∧ P purchase quote.contract valueWei
  | _ => True

theorem Fair.send (h : s.Fair P) (hrun : s.running = some (purchase, .writeContract contract valueWei)) :
    ∀ payment ∈ (s.send purchase contract valueWei).payments,
      P payment.purchase payment.contract payment.valueWei := by
  intro payment hmem
  rcases List.mem_append.mp hmem with hmem | hmem
  · exact h.payments payment hmem
  · rw [List.mem_singleton.mp hmem]
    exact h.running _ _ hrun (contract, valueWei) rfl

/-- A payment keeps its purchase, its contract and its value. -/
theorem Fair.set (h : s.Fair P) (hpayment : s.payments[hash]? = some payment)
    (hpurchase : payment'.purchase = payment.purchase) (hcontract : payment'.contract = payment.contract)
    (hvalue : payment'.valueWei = payment.valueWei) :
    ∀ p ∈ s.payments.set hash payment', P p.purchase p.contract p.valueWei := by
  intro p hmem
  rcases List.mem_or_eq_of_mem_set hmem with hmem | rfl
  · exact h.payments p hmem
  · rw [hpurchase, hcontract, hvalue]
    exact h.payments payment (List.mem_of_getElem? hpayment)

theorem Fair.quoted (h : s.Fair P) {quote : PurchaseQuote} (hm : s.Served P (.quoted quote))
    (hstep : step valueOf s (.quoted quote) = some s') : s'.Fair P := by
  simp only [step] at hstep
  split at hstep
  · next purchase hrun =>
    obtain ⟨valueWei, hvalue, hpriced⟩ := hm purchase hrun
    rw [hvalue] at hstep
    obtain rfl := Option.some.inj hstep
    refine ⟨h.payments, ?_⟩
    intro purchase' awaiting hrun' order horder
    obtain ⟨rfl, rfl⟩ := Prod.mk.inj (Option.some.inj hrun')
    obtain rfl := Option.some.inj horder
    exact hpriced
  · cases hstep

/-- The call goes on with the payment that it was about to make, or with none. -/
theorem Fair.goes_on (h : s.Fair P) (hrun : s.running = some (purchase, awaiting))
    (horder : ∀ order ∈ next.order, order ∈ awaiting.order) (purchase' : Purchase) (awaiting' : Awaiting)
    (hrun' : some (purchase, next) = some (purchase', awaiting')) :
    ∀ order ∈ awaiting'.order, P purchase' order.1 order.2 := by
  obtain ⟨rfl, rfl⟩ := Prod.mk.inj (Option.some.inj hrun')
  intro order hmem
  exact h.running purchase awaiting hrun order (horder order hmem)

theorem Fair.fulfilled (h : s.Fair P) (hstep : step valueOf s .fulfilled = some s') : s'.Fair P := by
  simp only [step] at hstep
  split at hstep
  · next hrun =>
    obtain rfl := Option.some.inj hstep
    exact ⟨h.payments, h.goes_on hrun fun _ => id⟩
  · next hrun =>
    obtain rfl := Option.some.inj hstep
    exact ⟨h.payments, h.goes_on hrun fun _ => id⟩
  · next hrun =>
    obtain rfl := Option.some.inj hstep
    exact ⟨h.send hrun, h.goes_on hrun (by intro _ hnone; cases hnone)⟩
  · next hrun =>
    obtain ⟨payment, hpayment, rfl⟩ := Option.map_eq_some_iff.mp hstep
    exact ⟨h.set (Option.filter_eq_some_iff.mp hpayment).1 rfl rfl rfl,
      h.goes_on hrun (by intro _ hnone; cases hnone)⟩
  · obtain ⟨payment, -, rfl⟩ := Option.map_eq_some_iff.mp hstep
    exact ⟨h.payments, by intro _ _ hnone; cases hnone⟩
  · cases hstep

theorem Fair.rejected (h : s.Fair P) {broadcast : Bool}
    (hstep : step valueOf s (.rejected broadcast) = some s') : s'.Fair P := by
  simp only [step] at hstep
  split at hstep
  · next hrun =>
    obtain rfl := Option.some.inj hstep
    exact ⟨h.payments, h.goes_on hrun fun _ => id⟩
  · next hrun =>
    split at hstep
    · obtain rfl := Option.some.inj hstep
      exact ⟨h.send hrun, by intro _ _ hnone; cases hnone⟩
    · obtain rfl := Option.some.inj hstep
      exact ⟨h.payments, by intro _ _ hnone; cases hnone⟩
  · obtain rfl := Option.some.inj hstep
    exact ⟨h.payments, by intro _ _ hnone; cases hnone⟩
  · cases hstep

theorem Fair.step (h : s.Fair P) (hm : s.Served P m) (hstep : step valueOf s m = some s') : s'.Fair P := by
  cases m with
  | handleBuy =>
    obtain ⟨purchase, -, rfl⟩ := Option.map_eq_some_iff.mp hstep
    refine ⟨h.payments, ?_⟩
    intro purchase' awaiting hrun order horder
    obtain ⟨rfl, rfl⟩ := Prod.mk.inj (Option.some.inj hrun)
    cases horder
  | quoted quote => exact h.quoted hm hstep
  | fulfilled => exact h.fulfilled hstep
  | rejected broadcast => exact h.rejected hstep
  | mine hash success =>
    obtain ⟨payment, hpayment, rfl⟩ := Option.map_eq_some_iff.mp hstep
    exact ⟨h.set (Option.filter_eq_some_iff.mp hpayment).1 rfl rfl rfl, h.running⟩
  | confirm hash =>
    obtain ⟨payment, hpayment, rfl⟩ := Option.map_eq_some_iff.mp hstep
    exact ⟨h.set (Option.filter_eq_some_iff.mp hpayment).1 rfl rfl rfl, h.running⟩
  | _ =>
    obtain rfl := Option.some.inj hstep
    exact ⟨h.payments, h.running⟩

end Checkout

open Checkout

/-- The escrow takes a payment of its price while ids are left, and records the session. -/
theorem Priced.accepted {spell : Address → String} {config : Orchestrator.Config} {purchase : Purchase}
    {contract : String} {valueWei : ℕ} (h : Priced spell config purchase contract valueWei)
    (callee : Code EscrowCall) : ∃ action,
    sendPurchaseTx purchase.tier purchase.hours valueWei callee = some action ∧
    ∀ (tx : Transaction config.escrow.escrow) (w : EscrowWorld), tx.action = action →
      w.storage.nextSessionId + 1 ≠ 2 ^ 256 → (tx.receipt w).status = .success ∧
        ∃ w', tx.execute w = some w' ∧
          Created w w' w.storage.nextSessionId tx.sender (order purchase.tier purchase.hours) := by
  refine ⟨_, sendPurchaseTx_eq .., ?_⟩
  intro tx w haction hleft
  rw [h.value, ← priceWei_eq_price] at haction
  have hexecute := execute_honest purchase.tier h.pos h.max haction (w := w)
  rw [if_neg hleft] at hexecute
  refine ⟨(tx.receipt_status w).mpr (by rw [hexecute]; rfl), _, hexecute, ?_⟩
  exact created_purchased config.escrow w tx.sender tx.timestamp purchase.tier purchase.hours

/-- **The page pays the price.**  In every run of the page in which its quotes are answers
    of the orchestrator, in any run of that one: every payment that the wallet sends is the
    escrow's price for the tier and hours of its call, and the escrow takes it and records
    the session, until its ids have run out. -/
theorem pays_the_price (spell : Address → String) (config : Orchestrator.Config) {ms : List Move}
    {s : Checkout} (hrun : run (step valueOf) start ms = some s)
    (hquotes : AllMoves (step valueOf) (fun s m => ∀ quote purchase, m = .quoted quote →
      s.running = some (purchase, .quoteSession) → Quoted spell config purchase quote) start ms)
    (callee : Code EscrowCall) : ∀ payment ∈ s.payments,
    payment.contract = spell config.escrow.address ∧
    payment.valueWei = price (escrowTier payment.purchase.tier) payment.purchase.hours ∧
    ∃ action, sendPurchaseTx payment.purchase.tier payment.purchase.hours payment.valueWei callee = some action ∧
      ∀ (tx : Transaction config.escrow.escrow) (w : EscrowWorld), tx.action = action →
        w.storage.nextSessionId + 1 ≠ 2 ^ 256 → (tx.receipt w).status = .success ∧
          ∃ w', tx.execute w = some w' ∧ Created w w' w.storage.nextSessionId tx.sender
            (order payment.purchase.tier payment.purchase.hours) := by
  have hstart : start.Fair (Priced spell config) := by
    constructor
    · intro _ hnil
      cases hnil
    · intro _ _ hnone
      cases hnone
  have hfair : s.Fair (Priced spell config) := by
    refine run_invariant (I := Fair (Priced spell config)) ?_ hrun hquotes hstart
    intro s m s' hI hm hstep
    refine hI.step ?_ hstep
    cases m with
    | quoted quote => exact fun purchase hrun => (hm quote purchase rfl hrun).priced
    | _ => trivial
  intro payment hmem
  have hpriced := hfair.payments payment hmem
  exact ⟨hpriced.contract, hpriced.value, hpriced.accepted callee⟩

/-! ### A run -/

section Sample

open DVoD.Orchestrator DVoD.Orchestrator.Sample

/-- The first request for an hour of standard, answered. -/
def Sample.asked : List (System.Move (system Sample.config)) :=
  [.arrive (.sessions "standard" "1" none), answered 0]

/-- The quote in a reply. -/
def Sample.quoteOf : Reply → Option Quote
  | ⟨402, .quote quote⟩ => some quote
  | _ => none

theorem Sample.quoted_standard {purchase : Purchase} (htier : purchase.tier = .standard)
    (hhours : purchase.hours = 1) :
    Quoted (fun _ => "0x5e") Sample.config purchase ⟨"$0.35", "0x5e"⟩ := by
  have heval : (System.run (start Sample.config now) asked).any (fun cfg =>
      (cfg.tasks[0]?.bind Program.result).any fun reply =>
        (quoteOf reply).any fun quote => quote.price = "$0.35") = true := by decide +kernel
  obtain ⟨cfg, hrun, hreply⟩ := (Option.any_eq_true _ _).mp heval
  obtain ⟨reply, hreply, hquote⟩ := (Option.any_eq_true _ _).mp hreply
  obtain ⟨quote, hquote, hprice⟩ := (Option.any_eq_true _ _).mp hquote
  obtain ⟨p, hp, hresult⟩ := Option.bind_eq_some_iff.mp hreply
  obtain rfl := Program.result_eq_some.mp hresult
  refine ⟨now, asked, cfg, 0, reply, hrun, ?_, hp, ?_⟩
  · rw [htier, hhours]
    rfl
  · unfold quoteOf at hquote
    split at hquote
    · obtain rfl := Option.some.inj hquote
      rw [quoteSession, ← of_decide_eq_true hprice]
      rfl
    · cases hquote

/-- The quote and the call of the run `clickedAgain`. -/
def Sample.isStandard (s : Checkout) : Move → Bool
  | .quoted quote => quote.price = "$0.35" && quote.contract = "0x5e" &&
      s.running.all fun call => call.1.tier = .standard && call.1.hours = 1
  | _ => true

theorem Sample.quoted_clickedAgain : AllMoves (step valueOf) (fun s m => ∀ quote purchase, m = .quoted quote →
    s.running = some (purchase, .quoteSession) → Quoted (fun _ => "0x5e") Sample.config purchase quote)
    Checkout.start Checkout.Sample.clickedAgain := by
  have hall : AllMoves (step valueOf) (fun s m => isStandard s m = true) Checkout.start
      Checkout.Sample.clickedAgain := by decide +kernel
  rw [allMoves_iff_append] at hall ⊢
  intro ms₁ m ms₂ s₁ heq hrun quote purchase hm hrunning
  have hstandard := hall ms₁ m ms₂ s₁ heq hrun
  rw [hm, isStandard, hrunning] at hstandard
  obtain ⟨⟨hprice, hcontract⟩, htier, hhours⟩ : (quote.price = "$0.35" ∧ quote.contract = "0x5e") ∧
      purchase.tier = .standard ∧ purchase.hours = 1 := by simpa using hstandard
  have hquote : quote = ⟨"$0.35", "0x5e"⟩ := by rw [← hprice, ← hcontract]
  rw [hquote]
  exact quoted_standard htier hhours

/-- Both payments of `clickedAgain`, of which the second is one too many, are of the price. -/
theorem pays_the_price_clickedAgain : ∃ s,
    run (step valueOf) Checkout.start Checkout.Sample.clickedAgain = some s ∧ s.payments.length = 2 ∧
      ∀ payment ∈ s.payments, payment.contract = "0x5e" ∧
        payment.valueWei = price (escrowTier payment.purchase.tier) payment.purchase.hours := by
  obtain ⟨s, hrun, hlength⟩ : ∃ s, run (step valueOf) Checkout.start Checkout.Sample.clickedAgain = some s ∧
      s.payments.length = 2 := exists_run (by decide +kernel)
  refine ⟨s, hrun, hlength, fun payment hmem => ?_⟩
  obtain ⟨hcontract, hvalue, -⟩ :=
    pays_the_price (fun _ => "0x5e") Sample.config hrun Sample.quoted_clickedAgain .stop payment hmem
  exact ⟨hcontract, hvalue⟩

end Sample

end DVoD.Web
