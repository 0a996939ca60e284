import DVoD.Arc.PaymentSoundness
import DVoD.Orchestrator.Tokens

/-!
# Refunds and confirmations

The orchestrator confirms a purchase on its receipt, which does not change, while the
escrow keeps a flag that a refund sets.  `issued_unrefunded` says in which runs the two
agree: those in which no request names a purchase whose refund was mined before.
-/

namespace DVoD.Orchestrator

open DVoD.Async DVoD.Arc DVoD.Evm DVoD.Session Sample

variable {config : Config} {mvs : List (System.Move (system config))}

/-! ### The chain of a run -/

/-- The transactions that a run mines. -/
def mined : List (System.Move (system config)) → List (Transaction config.escrow.escrow)
  | [] => []
  | .happen (.mine tx) :: mvs => tx :: mined mvs
  | _ :: mvs => mined mvs

theorem step_chain {cfg cfg' : System.Config (system config)} {mv : System.Move (system config)}
    (h : System.step cfg mv = some cfg') : cfg'.env.chain = cfg.env.chain.mineAll (mined [mv]) := by
  rcases System.step_cases h with ⟨req, rfl, rfl⟩ | ⟨i, u, k, rfl, -, rfl⟩ |
    ⟨i, o, c, k, rfl, -, rfl⟩ | ⟨ev, rfl, rfl⟩
  · rfl
  · rfl
  · exact answer_chain c
  · cases ev with
    | tick now => rfl
    | mine tx => rfl

theorem mined_cons (mv : System.Move (system config)) (mvs : List (System.Move (system config))) :
    mined (mv :: mvs) = mined [mv] ++ mined mvs := by
  cases mv with
  | happen ev => cases ev <;> rfl
  | _ => rfl

theorem mined_append (mvs mvs' : List (System.Move (system config))) :
    mined (mvs ++ mvs') = mined mvs ++ mined mvs' := by
  induction mvs with
  | nil => rfl
  | cons mv mvs ih => rw [List.cons_append, mined_cons, ih, mined_cons mv mvs, List.append_assoc]

theorem run_chain {cfg₀ cfg : System.Config (system config)} (h : System.run cfg₀ mvs = some cfg) :
    cfg.env.chain = cfg₀.env.chain.mineAll (mined mvs) := by
  induction mvs generalizing cfg₀ with
  | nil =>
    obtain rfl := Option.some.inj h
    rfl
  | cons mv mvs ih =>
    obtain ⟨cfg₁, hstep, hrun⟩ := System.run_cons.mp h
    rw [ih hrun, step_chain hstep, mined_cons mv mvs, Chain.mineAll_append]

theorem chain_of_run (now : Instant) {cfg : System.Config (system config)}
    (h : System.run (start config now) mvs = some cfg) :
    cfg.env.chain = config.escrow.chain (mined mvs) :=
  run_chain h

/-- What the node answers is the receipt of a transaction with the hash that it reads. -/
theorem exists_tx_of_answer {env : Env} {o : Oracle} {txHash : String} {receipt : Receipt}
    {txs : List (Transaction config.escrow.escrow)} (hchain : env.chain = config.escrow.chain txs)
    (h : (answer config o env (.getTransactionReceipt txHash)).1 = some receipt) :
    ∃ earlier tx later, txs = earlier ++ tx :: later ∧ config.readHash txHash = some tx.hash ∧
      receipt = tx.receipt (config.escrow.chain earlier).world := by
  have hreceipt : env.receipt config txHash = some receipt := by
    change (if o.rpcFails then none else env.receipt config txHash) = some receipt at h
    split at h
    · cases h
    · exact h
  obtain ⟨hash, hhash, hfind⟩ := Option.bind_eq_some_iff.mp hreceipt
  have hmem := List.mem_of_find?_eq_some hfind
  have hrhash : receipt.transactionHash = hash := by simpa using List.find?_some hfind
  rw [hchain] at hmem
  rcases Chain.exists_of_mem_receipts hmem with hmem | ⟨earlier, tx, later, rfl, rfl⟩
  · cases hmem
  · refine ⟨earlier, tx, later, rfl, ?_, rfl⟩
    rw [hhash, ← hrhash, tx.receipt_transactionHash]

/-! ### What is accepted -/

/-- Task `i` of the run reads the receipt of its payment after the moves `before`, in the
    surroundings `env`. -/
structure Reads (config : Config) (now : Instant) (mvs : List (System.Move (system config)))
    (i : ℕ) (before : List (System.Move (system config))) (env : Env) (request : Request)
    (txHash : String) (receipt : Option Receipt) : Prop where
  request : (System.requests mvs)[i]? = some request
  exists_move : ∃ o after cfg k, mvs = before ++ .answer i o :: after ∧
    System.run (start config now) before = some cfg ∧
    cfg.tasks[i]? = some (.await (Command.getTransactionReceipt txHash) k) ∧ cfg.env = env ∧
    (answer config o env (.getTransactionReceipt txHash)).1 = receipt

theorem exists_reads {now : Instant} {i : ℕ} {env : Env} {request : Request} {txHash : String}
    {receipt : Option Receipt} (hrequest : (System.requests mvs)[i]? = some request)
    (hgets : System.Gets (start config now) mvs i env (Command.getTransactionReceipt txHash) receipt) :
    ∃ before, Reads config now mvs i before env request txHash receipt := by
  obtain ⟨before, o, after, cfg, k, hmoves, hrun, htask, henv, hanswer⟩ := hgets.exists_move
  exact ⟨before, hrequest, o, after, cfg, k, hmoves, hrun, htask, henv, hanswer⟩

/-- The moment at which `verifySessionPurchase` accepts session `id` for task `i`. -/
def Accepts (config : Config) (now : Instant) (mvs : List (System.Move (system config)))
    (i : ℕ) (id : Word) (env : Env) : Prop :=
  ∃ before request txHash receipt, Reads config now mvs i before env request txHash receipt ∧
    VerifiesReceipt config (toString id.toNat) request (.getTransactionReceipt txHash) receipt

theorem exists_accepts (now : Instant) {cfg : System.Config (system config)}
    (h : System.run (start config now) mvs = some cfg) {i : ℕ} {reply : Reply} {id : Word}
    (hi : cfg.tasks[i]? = some (.done reply)) (htoken : reply.isTokenFor (toString id.toNat) = true) :
    ∃ env, Accepts config now mvs i id env := by
  obtain ⟨request, hrequest, env, c, r, hgets, hG⟩ :=
    System.exists_gets (guarded_verifiesReceipt config (toString id.toNat)) h hi htoken
  cases c with
  | getTransactionReceipt txHash =>
    obtain ⟨before, hreads⟩ := exists_reads hrequest hgets
    exact ⟨env, before, request, txHash, r, hreads, hG⟩
  | _ => cases hG

/-! ### Purchases and refunds -/

/-- The transaction sells the session for this order: the escrow creates it, or another
    contract emits a log that says so. -/
def Sells (config : Config) (w : EscrowWorld) (tx : Transaction config.escrow.escrow)
    (sessionId : ℕ) (order : Order) : Prop :=
  (∃ w' payer, tx.execute w = some w' ∧ Created w w' sessionId payer order) ∨
  ∃ log ∈ (tx.receipt w).logs, log.address ≠ config.escrow.address ∧
    ∃ args, config.decodeEventLog.decode log.topics log.data = some args ∧
      args.sessionId.toNat = sessionId ∧ args.tier = tierIndex order.tier ∧ args.hours_ = order.hours

/-- A `refundSession` of the session goes through in the transaction. -/
def Refunds (D : Deployment) (w : EscrowWorld) (tx : Transaction D.escrow) (sessionId : ℕ) : Prop :=
  sessionId ∈ refundedIds (D.eventsOf (tx.receipt w).logs)

/-- The order of transactions and requests that the orchestrator relies on: where a request
    names a transaction that sells a session for its tier and hours, no refund of that
    session has been mined when the receipt is read. -/
def ReadBeforeRefund (config : Config) (now : Instant) (mvs : List (System.Move (system config))) :
    Prop :=
  ∀ i before env tierParam hoursParam txHash receipt tier hours,
    Reads config now mvs i before env (.sessions tierParam hoursParam (some txHash)) txHash receipt →
    Tier.safeParse tierParam = some tier → parseHours hoursParam = some hours →
    ∀ earlier tx later sessionId, mined before = earlier ++ tx :: later →
      config.readHash txHash = some tx.hash → tx.dest = some config.escrow.address →
      Sells config (config.escrow.chain earlier).world tx sessionId (order tier hours) →
      ∀ earlier' tx' later', mined before = earlier' ++ tx' :: later' →
        ¬ Refunds config.escrow (config.escrow.chain earlier').world tx' sessionId

theorem eventsOf_mine (D : Deployment) (txs : List (Transaction D.escrow)) (tx : Transaction D.escrow) :
    D.eventsOf (D.chain (txs ++ [tx])).world.logs =
      D.eventsOf (D.chain txs).world.logs ++ D.eventsOf (tx.receipt (D.chain txs).world).logs := by
  have hworld : (D.chain (txs ++ [tx])).world =
      (tx.execute (D.chain txs).world).getD (D.chain txs).world := by
    rw [D.chain_append, Chain.mineAll_cons, Chain.mineAll_nil, Chain.mine_world]
  obtain ⟨evs₀, hd₀⟩ := exists_delta D txs
  rcases hexecute : tx.execute (D.chain txs).world with _ | w
  · rw [hworld, hexecute, Option.getD_none]
    simp [Transaction.receipt, hexecute, Deployment.eventsOf, Deployment.ownLogs]
  · obtain ⟨evs, hd⟩ := (frames_delta D).execute hexecute hd₀.valid
    obtain ⟨new, hlogs, -⟩ := hd.logs
    rw [hworld, hexecute, Option.getD_some]
    simp [Transaction.receipt, hexecute, hlogs, Deployment.eventsOf, List.filterMap_append]

/-- A session is refunded exactly where a refund of it has gone through. -/
theorem refunded_iff_exists (D : Deployment) (txs : List (Transaction D.escrow)) (sessionId : ℕ) :
    ((D.chain txs).world.storage.sessions sessionId).refunded = true ↔
      ∃ earlier tx later, txs = earlier ++ tx :: later ∧
        Refunds D (D.chain earlier).world tx sessionId := by
  rw [refunded_iff]
  induction txs using List.reverseRecOn with
  | nil =>
    refine iff_of_false (fun hmem => by cases hmem) ?_
    rintro ⟨earlier, tx, later, hnil, -⟩
    simp at hnil
  | append_singleton txs tx ih =>
    rw [eventsOf_mine, refundedIds_append, List.mem_append, ih]
    constructor
    · rintro (⟨earlier, tx', later, rfl, hrefunds⟩ | hrefunds)
      · exact ⟨earlier, tx', later ++ [tx], by simp, hrefunds⟩
      · exact ⟨txs, tx, [], rfl, hrefunds⟩
    · rintro ⟨earlier, tx', later, heq, hrefunds⟩
      rcases List.eq_nil_or_concat later with rfl | ⟨later, tx'', rfl⟩
      · obtain ⟨rfl, hlast⟩ := List.append_inj' heq rfl
        obtain rfl := (List.cons.inj hlast).1
        exact Or.inr hrefunds
      · rw [List.concat_eq_append, ← List.cons_append, ← List.append_assoc] at heq
        obtain ⟨rfl, -⟩ := List.append_inj' heq rfl
        exact Or.inl ⟨earlier, tx', later, rfl, hrefunds⟩

/-- What a receipt is accepted for was sold in its transaction. -/
theorem sells_of_scan {earlier : List (Transaction config.escrow.escrow)}
    {tx : Transaction config.escrow.escrow} {order : Order} {args : SessionPurchasedArgs}
    (hstatus : (tx.receipt (config.escrow.chain earlier).world).status = .success)
    (hscan : (tx.receipt (config.escrow.chain earlier).world).logs.findSome?
      (order.matchLog config.decodeEventLog) = some args) :
    Sells config (config.escrow.chain earlier).world tx args.sessionId.toNat order := by
  obtain ⟨evs₀, hd₀⟩ := exists_delta config.escrow earlier
  obtain ⟨w, evs, hexecute, hd, hown⟩ := receipt_delta hd₀.valid hstatus
  obtain ⟨log, hfind, hargs⟩ := findSome?_eq_some_iff_find?.mp hscan
  have hmem := List.mem_of_find?_eq_some hfind
  obtain ⟨hdecode, htier, hhours, hpaid⟩ := Order.matchLog_eq_some.mp hargs
  by_cases haddress : log.address = config.escrow.address
  · exact Or.inl ⟨w, args.payer, hexecute, (hd.created_iff config.decodeEventLog hown htier hhours
      hpaid).mpr ⟨log, hmem, haddress, hdecode⟩⟩
  · exact Or.inr ⟨log, hmem, haddress, args, hdecode, rfl, htier, hhours⟩

theorem unrefunded_of_accepts (now : Instant)
    (hrefund : ReadBeforeRefund config now mvs) {i : ℕ} {id : Word} {env : Env}
    (haccepts : Accepts config now mvs i id env) :
    (env.chain.world.storage.sessions id.toNat).refunded = false := by
  obtain ⟨before, request, txHash, receipt, hreads, tierParam, hoursParam, tier, hours, id', payer, rfl,
    htier, hhours, hverify, hid⟩ := haccepts
  obtain ⟨r, args, rfl, hstatus, hdest, hscan, rfl, -⟩ := verifySessionPurchase_eq_ok.mp hverify
  obtain ⟨o, after, cfg, k, -, hrun, -, rfl, hanswer⟩ := hreads.exists_move
  have hchain := chain_of_run now hrun
  obtain ⟨earlier, tx, later, hmined, hhash, rfl⟩ := exists_tx_of_answer hchain hanswer
  rw [tx.receipt_dest] at hdest
  have hnot := hrefund i before cfg.env tierParam hoursParam txHash _ tier hours hreads htier hhours
    earlier tx later _ hmined hhash hdest (sells_of_scan hstatus hscan)
  rw [Text.toString_injective hid] at hnot
  rw [hchain, Bool.eq_false_iff, Ne, refunded_iff_exists]
  rintro ⟨earlier', tx', later', hmined', hrefunds⟩
  exact hnot earlier' tx' later' hmined' hrefunds

/-- **A refunded payment buys no session** in the runs in which no request names a purchase
    whose refund was mined before: for every token given, the check accepted its payment at
    a moment at which the escrow's record was not refunded. -/
theorem issued_unrefunded (now : Instant) {cfg : System.Config (system config)}
    (h : System.run (start config now) mvs = some cfg)
    (hrefund : ReadBeforeRefund config now mvs) {i : ℕ} {reply : Reply} {id : Word}
    (hi : cfg.tasks[i]? = some (.done reply)) (htoken : reply.isTokenFor (toString id.toNat) = true) :
    (∃ env, Accepts config now mvs i id env) ∧ ∀ env, Accepts config now mvs i id env →
      (env.chain.world.storage.sessions id.toNat).refunded = false :=
  ⟨exists_accepts now h hi htoken, fun _ => unrefunded_of_accepts now hrefund⟩

/-! ### Runs -/

section Sample

def Sample.Tokened (cfg : System.Config (system Sample.config)) : Bool :=
  (cfg.tasks[0]?.bind Program.result).any (Reply.isTokenFor "0")

theorem Sample.exists_of_tokened (mvs : List (System.Move (system Sample.config)))
    (h : (System.run (start Sample.config now) mvs).any Tokened = true) :
    ∃ cfg reply, System.run (start Sample.config now) mvs = some cfg ∧
      cfg.tasks[0]? = some (.done reply) ∧ reply.isTokenFor "0" = true := by
  obtain ⟨cfg, hcfg, htoken⟩ := (Option.any_eq_true _ _).mp h
  obtain ⟨reply, hreply, htoken⟩ := (Option.any_eq_true _ _).mp htoken
  obtain ⟨p, hp, hresult⟩ := Option.bind_eq_some_iff.mp hreply
  exact ⟨cfg, reply, hcfg, Program.result_eq_some.mp hresult ▸ hp, htoken⟩

theorem issued_unrefunded_bought : ∃ cfg reply,
    System.run (start Sample.config now) bought = some cfg ∧
      cfg.tasks[0]? = some (.done reply) ∧ reply.isTokenFor (toString (0 : Word).toNat) = true ∧
      ((∃ env, Accepts Sample.config now bought 0 0 env) ∧
        ∀ env, Accepts Sample.config now bought 0 0 env →
          (env.chain.world.storage.sessions (0 : Word).toNat).refunded = false) := by
  obtain ⟨cfg, reply, hcfg, hi, htoken⟩ := Sample.exists_of_tokened bought (by decide +kernel)
  refine ⟨cfg, reply, hcfg, hi, htoken, issued_unrefunded now hcfg ?_ hi htoken⟩
  intro i before env _ _ _ _ _ _ hreads _ _ _ _ _ sessionId _ _ _ _ earlier' tx' later' hmined hrefunds
  -- the only transaction of the run refunds nothing
  obtain ⟨o, after, -, -, hbought, -⟩ := hreads.exists_move
  have hall : mined before ++ mined (.answer i o :: after) = [buy] := by
    rw [← mined_append, ← hbought]
    rfl
  rw [hmined, List.append_assoc, List.cons_append] at hall
  obtain ⟨rfl, rfl, -⟩ : earlier' = [] ∧ tx' = buy ∧ later' ++ mined (.answer i o :: after) = [] := by
    cases earlier' with
    | nil => simpa using hall
    | cons _ _ => simp at hall
  have hnone : refundedIds (Sample.config.escrow.eventsOf
      (buy.receipt (Sample.config.escrow.chain []).world).logs) = [] := by decide +kernel
  rw [Refunds, hnone] at hrefunds
  cases hrefunds

def Sample.refund : Transaction Sample.config.escrow.escrow :=
  ⟨11, 2, by decide, 1000000001, .call (.refundSession 0) 0 .stop⟩

def Sample.refundedThenRead : List (System.Move (system Sample.config)) :=
  [.happen (.mine buy), .happen (.mine refund), .arrive confirm, answered 0, resumed 0]

def Sample.refundedThenConfirmed : List (System.Move (system Sample.config)) :=
  refundedThenRead ++ answered 0 :: (resumed 0 ::
    (List.replicate 4 [answered 0, answered 0, resumed 0]).flatten)

def Sample.readsReceipt : Command → Bool
  | .getTransactionReceipt header => header = txHash
  | _ => false

/-- A payment that was refunded before gives a token. -/
theorem refunded_issued : ∃ cfg reply env,
    System.run (start Sample.config now) refundedThenConfirmed = some cfg ∧
      cfg.tasks[0]? = some (.done reply) ∧ reply.isTokenFor (toString (0 : Word).toNat) = true ∧
      Accepts Sample.config now refundedThenConfirmed 0 0 env ∧
      (env.chain.world.storage.sessions (0 : Word).toNat).refunded = true := by
  obtain ⟨cfg, reply, hcfg, hi, htoken⟩ :=
    Sample.exists_of_tokened refundedThenConfirmed (by decide +kernel)
  have hread : (System.run (start Sample.config now) refundedThenRead).any (fun cfg =>
      (cfg.env.chain.world.storage.sessions 0).refunded &&
      decide (verifySessionPurchase Sample.config.escrow.address Sample.config.decodeEventLog
        (cfg.env.receipt Sample.config txHash) txHash (order .lite 1) = .ok (0, 3)) &&
      (cfg.tasks[0]?.bind Program.awaited).any Sample.readsReceipt) = true := by
    decide +kernel
  obtain ⟨cfg₁, hcfg₁, hread⟩ := (Option.any_eq_true _ _).mp hread
  simp only [Bool.and_eq_true, decide_eq_true_eq] at hread
  obtain ⟨⟨hrefunded, hverify⟩, hawaits⟩ := hread
  obtain ⟨c, hc, htxHash⟩ := (Option.any_eq_true _ _).mp hawaits
  obtain ⟨p, hp, hawaited⟩ := Option.bind_eq_some_iff.mp hc
  obtain ⟨k, rfl⟩ := Program.awaited_eq_some.mp hawaited
  cases c with
  | getTransactionReceipt header =>
    obtain rfl : header = txHash := of_decide_eq_true htxHash
    refine ⟨cfg, reply, cfg₁.env, hcfg, hi, htoken, ⟨refundedThenRead, confirm, txHash, _, ⟨rfl,
      oracle, _, cfg₁, k, rfl, hcfg₁, hp, rfl, rfl⟩, ?_⟩, hrefunded⟩
    exact ⟨"lite", "1", .lite, oneHour, 0, 3, rfl, rfl, parseHours_one, hverify, rfl⟩
  | _ => cases htxHash

end Sample

end DVoD.Orchestrator
