import DVoD.Orchestrator.Serial

/-!
# Retries of a verified payment

The hash of a payment is marked used as soon as the payment is verified, before any of
the four transitions is recorded.  Whatever fails after that, a retry is turned down:
`retry_gives_token_iff`.
-/

namespace DVoD.Orchestrator

open DVoD.Async DVoD.Async.System DVoD.Arc DVoD.Evm DVoD.Session Sample

/-- Requests handled one after another from the start of the process. -/
abbrev SerialRun (config : Config) (now : Instant)
    (requests : List (Request × Trace × Reply)) (s : Memory × Env) : Prop :=
  Serial (system config) (genesis now) requests s

section Serial

variable {config : Config} {now : Instant} {requests : List (Request × Trace × Reply)}
  {s s' : Memory × Env} {tr : Trace} {reply : Reply}

theorem SerialRun.begun (h : SerialRun config now requests s) : s.2.events.Begun := by
  obtain ⟨mvs, hrun⟩ := h.run []
  exact (System.run_invariant step_keepingBegun hrun (keepingBegun_start now)).2

/-- Induction from the start of the process. -/
theorem SerialRun.invariant {P : List (Request × Trace × Reply) → Memory × Env → Prop}
    (h : SerialRun config now requests s) (hstart : P [] (genesis now))
    (hhappen : ∀ requests s (event : Event config.escrow), SerialRun config now requests s →
      P requests s → P requests (happen event s))
    (hrequest : ∀ requests s request tr reply s', SerialRun config now requests s → P requests s →
      Runs config (handle config request) s tr reply s' → P (requests ++ [(request, tr, reply)]) s') :
    P requests s :=
  Serial.invariant h hstart hhappen hrequest

theorem Confirmation.chained (c : Confirmation) : Chained none c.transitions :=
  ⟨rfl, rfl, rfl, rfl, trivial⟩

theorem Confirms.ok_iff {request : Request} {c : Confirmation} {a : Except Thrown Unit}
    {new : List SessionEventRow} (h : Confirms config request c s s' tr a new)
    (hbegun : s.2.events.Begun) :
    a = .ok () ↔ s.2.events.getSessionEvents c.sessionId = [] ∧ Undisturbed tr := by
  obtain ⟨eligible, tr', rfl, houtcomes⟩ := h.trace
  have hreceipt : c.receipt ≠ none := by
    obtain ⟨r, args, hr, -⟩ := verifySessionPurchase_eq_ok.mp h.passes.verified
    simp [hr]
  have hun : Undisturbed (⟨.eligibleOperators c.tier, some eligible⟩ ::
      ⟨.getTransactionReceipt c.txHash, c.receipt⟩ :: tr') ↔ Undisturbed tr' := by
    simp [Undisturbed, hreceipt]
  rw [hun]
  constructor
  · intro ha
    refine ⟨?_, (houtcomes.of_ok ha).1⟩
    by_contra hrows
    have hnot := hbegun.not_allowed_paid hrows
    rw [← lastState_getSessionEvents] at hnot
    exact (houtcomes.of_not_allowed hnot).2.1 ha
  · rintro ⟨hrows, hun⟩
    apply houtcomes.ok_of_chained hun
    rw [hrows]
    exact c.chained

/-! ### Retries -/

/-- Nothing that the request awaits fails, and there is an eligible relay. -/
def NoFurtherFailure (tr : Trace) : Prop :=
  Undisturbed tr ∧ ∀ tier, ⟨.eligibleOperators tier, some []⟩ ∉ tr

/-- Whatever requests come in between, the same request is then given a token. -/
def RetryGivesToken (config : Config) (request : Request) (s : Memory × Env) (sessionId : String) :
    Prop :=
  ∀ between s₁ tr reply s₂, Serial (system config) s between s₁ →
    Runs config (handle config request) s₁ tr reply s₂ → NoFurtherFailure tr →
    reply.isTokenFor sessionId = true

theorem exists_retry {request : Request} {c : Confirmation} (hpasses : c.Passes config request)
    (htxHash : c.txHash ≠ "") (hused : c.txHash ∈ s.1.usedTxHashes) :
    ∃ tr reply, Runs config (handle config request) s tr reply s ∧ NoFurtherFailure tr ∧
      reply.status = 409 := by
  obtain ⟨tierParam, hoursParam, rfl, htier, hhours⟩ := hpasses.request
  have hheader : (some c.txHash).filter (· ≠ "") = some c.txHash := by simp [htxHash]
  refine ⟨[⟨.eligibleOperators c.tier, some [c.relay]⟩],
    ⟨409, .error "this payment has already been used for a session"⟩, ?_,
    ⟨undisturbed_some _, by simp⟩, rfl⟩
  refine evaluates_bind.mpr ⟨_, .ok _, s, [], ?_, .done .., (List.append_nil _).symm⟩
  simp only [route, sessionsRoute, htier, hhours]
  refine evaluates_bind_run.mpr (Or.inr ⟨_, [c.relay], s, [],
    .await [] { eligible := some [c.relay] } rfl rfl (.done ..), ?_, (List.append_nil _).symm⟩)
  simp only [hheader]
  refine evaluates_bind_run.mpr (Or.inr ⟨[], s.1, s, [], .sync (.done ..), ?_, rfl⟩)
  rw [if_pos hused]
  exact .done ..

theorem Confirms.sessionId_of_verified {request : Request} {c : Confirmation}
    {a : Except Thrown Unit} {new : List SessionEventRow} {sessionId : String}
    (h : Confirms config request c s s' tr a new) (hv : Verified config request tr sessionId) :
    c.sessionId = sessionId := by
  obtain ⟨eligible, tr', rfl, houtcomes⟩ := h.trace
  rcases verified_cons.mp hv with hnot | hv
  · cases hnot
  rcases verified_cons.mp hv with hreceipt | ⟨⟨command, r⟩, hmem, hverifies⟩
  · obtain ⟨_, _, tier, hours, id, payer, hrequest, htier, hhours, hverify, hid⟩ := hreceipt
    obtain ⟨_, _, hrequest', htier', hhours'⟩ := h.passes.request
    cases hrequest.symm.trans hrequest'
    cases htier.symm.trans htier'
    cases hhours.symm.trans hhours'
    obtain ⟨rfl, -⟩ := Prod.mk.inj (Except.ok.inj (hverify.symm.trans h.passes.verified))
    exact hid
  · -- the transitions read no receipt
    cases command with
    | getTransactionReceipt =>
      rcases houtcomes.queries _ hmem with hselect | ⟨row, hrow⟩
      · cases hselect
      · cases hrow
    | _ => cases hverifies

/-- **A verified payment is not consumed without a token** exactly where the session has
    no row in the log when its payment is verified, and nothing that the request awaits
    fails. -/
theorem retry_gives_token_iff (hrun : SerialRun config now requests s) {request : Request}
    (h : Runs config (handle config request) s tr reply s') {sessionId : String}
    (hv : Verified config request tr sessionId) :
    (reply.status ≠ 200 → RetryGivesToken config request s' sessionId) ↔
      s.2.events.getSessionEvents sessionId = [] ∧ Undisturbed tr := by
  obtain ⟨tierParam, hoursParam, txHash, rfl⟩ : ∃ tierParam hoursParam txHash,
      request = .sessions tierParam hoursParam (some txHash) := by
    obtain ⟨⟨command, r⟩, -, hverifies⟩ := id hv
    cases command with
    | getTransactionReceipt txHash =>
      obtain ⟨tierParam, hoursParam, -, -, -, -, hrequest, -⟩ := hverifies
      exact ⟨tierParam, hoursParam, txHash, hrequest⟩
    | _ => cases hverifies
  rcases runs_sessions h with ⟨hdeclines, -⟩ | ⟨c, a, new, hconfirms, -, rfl⟩
  · exact absurd hv (hdeclines.unverified sessionId)
  obtain rfl := hconfirms.sessionId_of_verified hv
  rw [← hconfirms.ok_iff hrun.begun]
  constructor
  · intro hretry
    rcases a with e | _
    · -- a retry finds the hash marked used
      obtain ⟨tr', reply', hagain, hno, hstatus⟩ := exists_retry (s := s') hconfirms.passes
        hconfirms.txHash_ne (hconfirms.used ▸ List.mem_cons_self)
      have htoken := hretry (by simp [Confirmation.reply]) [] s' tr' reply' s' (.nil s') hagain hno
      simp [Reply.isTokenFor, hstatus] at htoken
    · rfl
  · rintro rfl hstatus
    exact absurd rfl hstatus

end Serial

/-! ### A run -/

section Sample

def Sample.paid : Memory × Env := happen (.mine buy) (genesis now)

/-- Nothing fails until the `INSERT` of `TOKEN_ISSUED`. -/
def Sample.failing : List (List (Event Sample.config.escrow) × Oracle) :=
  List.replicate 5 ([], oracle) ++ [([], { oracle with fault := some .lost })]

def Sample.verifies : Answered Answer → Bool
  | ⟨.getTransactionReceipt header, receipt⟩ => header = txHash ∧
      verifySessionPurchase Sample.config.escrow.address Sample.config.decodeEventLog receipt txHash
        (order .lite 1) = .ok (0, 3)
  | _ => false

theorem Sample.verified_of_any {tr : Trace} (h : tr.any verifies = true) :
    Verified Sample.config confirm tr "0" := by
  obtain ⟨⟨command, r⟩, hmem, hv⟩ := List.any_eq_true.mp h
  refine ⟨_, hmem, ?_⟩
  cases command with
  | getTransactionReceipt header =>
    obtain ⟨rfl, hverify⟩ := of_decide_eq_true hv
    exact ⟨"lite", "1", .lite, oneHour, 0, 3, rfl, rfl, parseHours_one, hverify, rfl⟩
  | _ => cases hv

theorem Sample.serialRun_paid : SerialRun Sample.config now [] paid :=
  System.Serial.happen (S := system Sample.config) (e := Event.mine buy) (System.Serial.nil paid)

theorem Sample.exists_failed : ∃ tr reply s, Runs Sample.config (handle Sample.config confirm) paid tr
    reply s ∧ Verified Sample.config confirm tr "0" ∧ reply.status = 500 ∧ txHash ∈ s.1.usedTxHashes := by
  have heval : ((system Sample.config).evaluate (handle Sample.config confirm) paid failing).any
      (fun result => result.1.any verifies && result.2.1.status = 500 &&
        decide (txHash ∈ result.2.2.1.usedTxHashes)) = true := by
    decide +kernel
  obtain ⟨⟨tr, reply, s⟩, hrun, hresult⟩ := (Option.any_eq_true _ _).mp heval
  simp only [Bool.and_eq_true, decide_eq_true_eq] at hresult
  exact ⟨tr, reply, s, evaluates_of_evaluate hrun, verified_of_any hresult.1.1, hresult.1.2, hresult.2⟩

def Sample.confirmation : Confirmation :=
  ⟨txHash, .lite, oneHour, carol, paid.2.receipt Sample.config txHash, 0, 3, now⟩

theorem Sample.confirmation_passes : confirmation.Passes Sample.config confirm where
  request := ⟨"lite", "1", rfl, rfl, parseHours_one⟩
  verified := by decide +kernel

/-- A query fails after the payment was verified, and the retry is turned down. -/
theorem payment_consumed : ∃ tr reply s, SerialRun Sample.config now [] paid ∧
    Runs Sample.config (handle Sample.config confirm) paid tr reply s ∧
    Verified Sample.config confirm tr "0" ∧ reply.status ≠ 200 ∧
    ¬ RetryGivesToken Sample.config confirm s "0" := by
  obtain ⟨tr, reply, s, hrun, hv, hstatus, hused⟩ := Sample.exists_failed
  refine ⟨tr, reply, s, Sample.serialRun_paid, hrun, hv, by rw [hstatus]; decide, ?_⟩
  intro hretry
  obtain ⟨tr', reply', hagain, hno, hturned⟩ :=
    exists_retry (c := Sample.confirmation) Sample.confirmation_passes (by decide) hused
  have htoken := hretry [] s tr' reply' s (.nil s) hagain hno
  simp [Reply.isTokenFor, hturned] at htoken

theorem retry_gives_token_iff_failed : ∃ tr reply s,
    Runs Sample.config (handle Sample.config confirm) paid tr reply s ∧
      ((reply.status ≠ 200 → RetryGivesToken Sample.config confirm s "0") ↔
        paid.2.events.getSessionEvents "0" = [] ∧ Undisturbed tr) := by
  obtain ⟨tr, reply, s, hrun, hv, -⟩ := Sample.exists_failed
  exact ⟨tr, reply, s, hrun, retry_gives_token_iff Sample.serialRun_paid hrun hv⟩

end Sample

end DVoD.Orchestrator
