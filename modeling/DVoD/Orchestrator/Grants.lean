import DVoD.Arc.PaymentSoundness
import DVoD.Async.Memory
import DVoD.Orchestrator.EndedAccess
import DVoD.Orchestrator.Refunds

/-!
# What a token grants

Behind a token that the orchestrator gives out stand an answer of discovery, a receipt on
the chain and the clock.  `granted_of_given` follows all three back to the request of the
token, in every interleaving; `access_is_paid` follows them on, to the relay that dials for
the token and to the session that the escrow holds.
-/

namespace DVoD.Orchestrator

open DVoD.Async DVoD.Async.Program DVoD.Async.System DVoD.Arc DVoD.Evm DVoD.Relay DVoD.Session Sample

/-! ### What the token is for -/

/-- The token is for what the reply says. -/
def SessionReply.Inscribed (config : Config) (session : SessionReply) : Prop :=
  ∃ (id : Word) (p : SessionTokenPayload),
    session.token = issueSessionToken config.sign p config.secret ∧
    session.sessionId = toString id.toNat ∧ p.sessionId = .ofWord id ∧ p.relay = session.relay ∧
    p.tier = session.tier ∧ p.hours.val = session.hours ∧ p.expiresAt.val = session.expiresAt

theorem guarded_inscribed (config : Config) (request : Request) :
    (handle config request).Guarded (fun _ _ => False)
      fun reply => ∃ session, reply.body = .session session ∧ ¬ session.Inscribed config := by
  refine guarded_handle ?_ ?_
  · rintro reply ⟨session, hbody, -⟩
    rw [hbody]
    trivial
  · intro _ _ txHash tier hours relay _ _ _
    apply guarded_bind_right
    intro receipt
    split
    · exact guarded_throw _
    next id payer _ =>
    apply guarded_bind_right
    intro _
    apply guarded_bind_right
    intro m
    apply guarded_bind_right
    intro _
    apply guarded_pure
    rintro ⟨session, hbody, hnot⟩
    obtain rfl := Body.session.inj hbody
    exact hnot ⟨id, tokenPayload id relay tier hours m.now, rfl, rfl, rfl, rfl, rfl, rfl, rfl⟩

/-! ### What was paid -/

/-- The receipt passes the check for the session that the reply is about. -/
def VerifiesOrder (config : Config) (session : SessionReply) (request : Request) :
    (c : Command) → Answer c → Prop
  | .getTransactionReceipt txHash, receipt => txHash = session.txHash ∧
      ∃ (tierParam hoursParam : String) (hours : SessionHours) (id : Word),
        request = .sessions tierParam hoursParam (some txHash) ∧
        Tier.safeParse tierParam = some session.tier ∧ parseHours hoursParam = some hours ∧
        hours.val = session.hours ∧ session.sessionId = toString id.toNat ∧
        verifySessionPurchase config.escrow.address config.decodeEventLog receipt txHash
          (order session.tier session.hours) = .ok (id, session.payer)
  | _, _ => False

theorem guarded_verifiesOrder (config : Config) (session : SessionReply) (request : Request) :
    (handle config request).Guarded (VerifiesOrder config session request)
      fun reply => reply.body = .session session := by
  refine guarded_handle (fun reply hbody => by rw [hbody]; trivial)
    fun tierParam hoursParam txHash tier hours relay hrequest htier hhours => ?_
  apply guarded_call_bind
  intro receipt
  split
  · exact Or.inr (guarded_throw _)
  next id payer hverify =>
  by_cases hsession : txHash = session.txHash ∧ tier = session.tier ∧ hours.val = session.hours ∧
      session.sessionId = toString id.toNat ∧ payer = session.payer
  · obtain ⟨htx, rfl, hhours', hid, rfl⟩ := hsession
    exact Or.inl ⟨htx, tierParam, hoursParam, hours, id, hrequest, htier, hhours, hhours', hid,
      hhours' ▸ hverify⟩
  · refine Or.inr (guarded_bind_right fun _ => guarded_bind_right fun m =>
      guarded_bind_right fun _ => guarded_pure ?_)
    intro hbody
    obtain rfl := Body.session.inj hbody
    exact hsession ⟨rfl, rfl, rfl, rfl, rfl⟩

/-! ### What discovery offered -/

theorem guarded_awaitOr_bind {G : (c : Command) → Answer c → Prop} {T : Reply → Prop} {e : Thrown}
    {c : Command} {f : Found c → Handler Reply}
    (h : ∀ x, G c (some x) ∨ (f x).run.Guarded G (Returns T)) :
    (awaitOr e c >>= f).run.Guarded G (Returns T) := by
  rw [run_bind]
  change ∀ answer, _
  intro answer
  cases answer with
  | none => exact .inr id
  | some x => exact h x

theorem guarded_respond {G : (c : Command) → Answer c → Prop} {T : Reply → Prop} {h : Handler Reply}
    (hT : ∀ error, ¬ T ⟨500, .uncaught error⟩) (hh : h.run.Guarded G (Returns T)) :
    (respond h).Guarded G T := by
  rw [respond, guarded_bind]
  apply hh.mono
  intro reply hreply
  cases reply with
  | ok reply => exact not_not.mp hreply
  | error err => exact absurd (hT err) hreply

/-- The relay is the first one that discovery offers for the tier. -/
def Offers (session : SessionReply) : (c : Command) → Answer c → Prop
  | .eligibleOperators tier, eligible => tier = session.tier ∧
      ∃ relay rest, eligible = some (relay :: rest) ∧ relay.operator = session.relay
  | _, _ => False

theorem guarded_confirmPurchase_offers (config : Config) (session : SessionReply) {txHash : String}
    {tier : Tier} {hours : SessionHours} {relay : CapabilityRecord}
    (h : ¬ (tier = session.tier ∧ relay.operator = session.relay)) :
    (confirmPurchase config txHash tier hours relay).run.Guarded (Offers session)
      (Returns fun reply => reply.body = .session session) := by
  apply guarded_bind_right
  intro receipt
  split
  · exact guarded_throw _
  · refine guarded_bind_right fun _ => guarded_bind_right fun m =>
      guarded_bind_right fun _ => guarded_pure ?_
    intro hbody
    obtain rfl := Body.session.inj hbody
    exact h ⟨rfl, rfl⟩

theorem guarded_sessionsRoute_offers (config : Config) (session : SessionReply)
    (tierParam hoursParam : String) (xSessionTx : Option String) :
    (sessionsRoute config tierParam hoursParam xSessionTx).run.Guarded (Offers session)
      (Returns fun reply => reply.body = .session session) := by
  unfold sessionsRoute
  split
  next tier hours _ _ =>
    apply guarded_awaitOr_bind
    intro eligible
    split
    · exact .inr (guarded_pure (by intro hbody; cases hbody))
    next relay rest =>
    by_cases hoffers : tier = session.tier ∧ relay.operator = session.relay
    · exact .inl ⟨hoffers.1, relay, rest, rfl, hoffers.2⟩
    refine .inr ?_
    split
    · exact guarded_pure (by intro hbody; cases hbody)
    apply guarded_bind_right
    intro m
    split
    · exact guarded_pure (by intro hbody; cases hbody)
    · refine guarded_tryCatch (guarded_confirmPurchase_offers config session hoffers) fun err => ?_
      cases err with
      | paymentVerification error => exact guarded_pure (by intro hbody; cases hbody)
      | _ => exact guarded_throw _
  · exact guarded_pure (by intro hbody; cases hbody)

theorem guarded_offers (config : Config) (session : SessionReply) (request : Request) :
    (handle config request).Guarded (Offers session) fun reply => reply.body = .session session := by
  have hT : ∀ reply : Reply, reply.body = .session session → reply.body.IsSession := by
    intro reply hbody
    rw [hbody]
    trivial
  have hroute : (route config request).run.Guarded (Offers session)
      (Returns fun reply => reply.body = .session session) := by
    cases request with
    | sessions tierParam hoursParam xSessionTx =>
      exact guarded_sessionsRoute_offers config session tierParam hoursParam xSessionTx
    | forceRelayFailure id => exact guarded_failoverRoute hT id
    | endSession id => exact guarded_endSessionRoute hT id
    | sessionDetail id => exact guarded_sessionDetailRoute hT id
  exact guarded_respond (fun error => hT _) hroute

/-! ### What the clock allows -/

/-- Memory moves on with the clock. -/
def clock : Ageing Memory where
  le m m' := m.now.ms ≤ m'.now.ms
  refl _ := Nat.le_refl _
  trans := Nat.le_trans

/-- The hours are at most a day, and the session ends no later than they would from now on. -/
def Timely (m : Memory) (reply : Reply) : Prop :=
  ∀ session, reply.body = .session session → session.hours ≤ maxSessionHours ∧
    session.expiresAt ≤ m.now.ms / 1000 + session.hours * 3600

theorem Timely.later {m m' : Memory} {reply : Reply} (hle : clock.le m m') (h : Timely m reply) :
    Timely m' reply := by
  intro session hbody
  obtain ⟨hhours, hexpires⟩ := h session hbody
  refine ⟨hhours, Nat.le_trans hexpires (Nat.add_le_add_right ?_ _)⟩
  exact Nat.div_le_div_right hle

theorem timely_of_not_session {m : Memory} {reply : Reply} (h : ¬ reply.body.IsSession) :
    Timely m reply := by
  intro session hbody
  rw [hbody] at h
  exact absurd trivial h

theorem forward_of_ne_tick {config : Config} {cfg : System.Config (system config)}
    {mv : System.Move (system config)} (h : ∀ now, mv ≠ .happen (.tick now)) : Forward clock cfg mv := by
  intro ev heq
  cases ev with
  | tick now => exact absurd heq (h now)
  | mine tx => exact Nat.le_refl _

section Ends

variable {m : Memory}

theorem ends_awaitOr {e : Thrown} {c : Command} : (awaitOr e c).run.Ends clock Anything m := by
  intro answer
  cases answer <;> trivial

theorem ends_transitionTier (sessionId : String) (options : TransitionOptions) :
    (transitionTier sessionId options).run.Ends clock Anything m := by
  rcases options with ⟨_, _ | tier, _, _⟩
  · exact ends_awaitOr
  · trivial

theorem ends_recordTransition (sessionId : String) (toState : SessionState)
    (options : TransitionOptions) :
    (recordTransition sessionId toState options).run.Ends clock Anything m := by
  refine ends_bind ends_awaitOr fun current _ _ => ends_bind ?_ fun _ _ _ =>
    ends_bind (ends_transitionTier sessionId options) fun tier _ _ => ends_awaitOr
  cases checkTransition sessionId current toState <;> trivial

theorem ends_broadcast (event : SessionEventRow) : (broadcast event).run.Ends clock Anything m :=
  fun _ _ => ⟨Nat.le_refl _, trivial⟩

theorem ends_recordAll (sessionId : String) (options : TransitionOptions)
    (transitions : List (SessionState × Option String)) :
    (recordAll sessionId options transitions).run.Ends clock Anything m := by
  induction transitions generalizing m with
  | nil => trivial
  | cons transition rest ih =>
    exact ends_bind (ends_recordTransition _ _ _) fun event _ _ =>
      ends_bind (ends_broadcast event) fun _ _ _ => ih

/-- The clock is read before the rows are written, and is not behind after. -/
theorem ends_confirmPurchase (config : Config) (txHash : String) (tier : Tier) (hours : SessionHours)
    (relay : CapabilityRecord) :
    (confirmPurchase config txHash tier hours relay).run.Ends clock (OrThrows Timely) m := by
  refine ends_bind (fun _ => trivial) fun receipt m₁ _ => ?_
  split
  · trivial
  refine ends_bind (fun m' _ => ⟨Nat.le_refl _, trivial⟩) fun _ m₂ _ => ?_
  rw [run_bind]
  intro m₃ _
  refine ⟨Nat.le_refl _, ends_bind (ends_recordAll _ _ _) fun _ m₄ hle => ?_⟩
  intro session hbody
  obtain rfl := Body.session.inj hbody
  exact ⟨hours.2.2, Nat.add_le_add_right (Nat.div_le_div_right hle) _⟩

theorem ends_sessionsRoute (config : Config) (tierParam hoursParam : String)
    (xSessionTx : Option String) :
    (sessionsRoute config tierParam hoursParam xSessionTx).run.Ends clock (OrThrows Timely) m := by
  unfold sessionsRoute
  split
  · refine ends_bind ends_awaitOr fun eligible _ _ => ?_
    split
    · exact timely_of_not_session id
    split
    · exact timely_of_not_session id
    · refine ends_bind (fun m' _ => ⟨Nat.le_refl _, trivial⟩) fun memory _ _ => ?_
      split
      · exact timely_of_not_session id
      · apply ends_tryCatch (ends_confirmPurchase _ _ _ _ _)
        intro err _ _
        cases err with
        | paymentVerification error => exact timely_of_not_session id
        | _ => trivial
  · exact timely_of_not_session id

theorem ends_conflict (err : Thrown) :
    (conflictOnInvalidTransition err).run.Ends clock (OrThrows Timely) m := by
  cases err with
  | invalidTransition message => exact timely_of_not_session id
  | _ => trivial

theorem ends_failover (sessionId : String) (tier : Tier) (failedRelay : String) :
    (failover sessionId tier failedRelay).run.Ends clock (OrThrows Timely) m := by
  refine ends_bind (ends_recordTransition _ _ _) fun event _ _ =>
    ends_bind (ends_broadcast event) fun _ _ _ => ?_
  refine ends_bind (ends_recordTransition _ _ _) fun event _ _ =>
    ends_bind (ends_broadcast event) fun _ _ _ => ?_
  refine ends_bind ends_awaitOr fun eligible _ _ => ?_
  split
  · exact timely_of_not_session id
  refine ends_bind (ends_recordTransition _ _ _) fun event _ _ =>
    ends_bind (ends_broadcast event) fun _ _ _ => ?_
  exact ends_bind (ends_recordTransition _ _ _) fun event _ _ =>
    ends_bind (ends_broadcast event) fun _ _ _ => timely_of_not_session id

theorem ends_failoverRoute (sessionId : String) :
    (failoverRoute sessionId).run.Ends clock (OrThrows Timely) m := by
  apply ends_bind ends_awaitOr
  intro state _ _
  split
  · exact timely_of_not_session id
  refine ends_bind ends_awaitOr fun tier _ _ => ends_bind ends_awaitOr fun failedRelay _ _ => ?_
  split
  · exact ends_tryCatch (ends_failover _ _ _) fun err _ _ => ends_conflict err
  · exact timely_of_not_session id

theorem ends_endSessionRoute (sessionId : String) :
    (endSessionRoute sessionId).run.Ends clock (OrThrows Timely) m := by
  apply ends_bind ends_awaitOr
  intro state _ _
  split
  · exact timely_of_not_session id
  refine ends_tryCatch ?_ fun err _ _ => ends_conflict err
  exact ends_bind (ends_recordTransition _ _ _) fun event _ _ =>
    ends_bind (ends_broadcast event) fun _ _ _ => timely_of_not_session id

theorem ends_sessionDetailRoute (sessionId : String) :
    (sessionDetailRoute sessionId).run.Ends clock (OrThrows Timely) m := by
  refine ends_bind ends_awaitOr fun events _ _ => ?_
  split
  · exact timely_of_not_session id
  · exact ends_bind ends_awaitOr fun state _ _ => ends_bind ends_awaitOr fun relay _ _ =>
      ends_bind ends_awaitOr fun expiresAt _ _ => timely_of_not_session id

theorem ends_handle (config : Config) (request : Request) : (handle config request).Ends clock Timely m := by
  refine Ends.bind (T := OrThrows Timely) ?_ ?_
  · cases request with
    | sessions tier hours xSessionTx => exact ends_sessionsRoute config tier hours xSessionTx
    | forceRelayFailure id => exact ends_failoverRoute id
    | endSession id => exact ends_endSessionRoute id
    | sessionDetail id => exact ends_sessionDetailRoute id
  · intro reply m' _ hreply
    cases reply with
    | ok reply => exact hreply
    | error err => exact timely_of_not_session id

end Ends

/-! ### The whole way -/

section Granted

variable {config : Config} {now₀ : Instant} {mvs : List (System.Move (system config))}
  {cfg : System.Config (system config)} {session : SessionReply}

/-- What task `i` of the run had come to know when it gave out the session. -/
structure Granted (config : Config) (now₀ : Instant) (mvs : List (System.Move (system config)))
    (i : ℕ) (session : SessionReply) : Prop where
  inscribed : session.Inscribed config
  offered : ∃ env relay rest, System.Gets (start config now₀) mvs i env
    (Command.eligibleOperators session.tier) (some (relay :: rest)) ∧ relay.operator = session.relay
  verified : ∃ before env request receipt,
    Reads config now₀ mvs i before env request session.txHash receipt ∧
    VerifiesOrder config session request (.getTransactionReceipt session.txHash) receipt

/-- Every session that is given out was asked for, offered and paid for by the same request. -/
theorem granted_of_given (hrun : run (start config now₀) mvs = some cfg) {i : ℕ} {reply : Reply}
    (hi : cfg.tasks[i]? = some (.done reply)) (hbody : reply.body = .session session) :
    Granted config now₀ mvs i session := by
  refine ⟨?_, ?_, ?_⟩
  · by_contra hnot
    obtain ⟨-, -, -, -, -, -, hfalse⟩ :=
      exists_gets (G := fun _ _ _ => False) (guarded_inscribed config) hrun hi ⟨session, hbody, hnot⟩
    exact hfalse
  · obtain ⟨request, -, env, c, r, hgets, hoffers⟩ :=
      exists_gets (G := fun _ => Offers session) (guarded_offers config session) hrun hi hbody
    cases c with
    | eligibleOperators tier =>
      obtain ⟨rfl, relay, rest, rfl, hrelay⟩ := hoffers
      exact ⟨env, relay, rest, hgets, hrelay⟩
    | _ => cases hoffers
  · obtain ⟨request, hrequest, env, c, r, hgets, hverifies⟩ :=
      exists_gets (G := VerifiesOrder config session) (guarded_verifiesOrder config session) hrun hi hbody
    cases c with
    | getTransactionReceipt txHash =>
      obtain ⟨rfl, hverifies⟩ := hverifies
      obtain ⟨before, hreads⟩ := exists_reads hrequest hgets
      exact ⟨before, env, request, r, hreads, rfl, hverifies⟩
    | _ => cases hverifies

/-- The escrow holds the session, as it was paid for. -/
structure Held (w : EscrowWorld) (id : ℕ) (session : SessionReply) : Prop where
  lt : id < w.storage.nextSessionId
  payer : (w.storage.sessions id).payer = session.payer
  tier : (w.storage.sessions id).tier = escrowTier session.tier
  hours : (w.storage.sessions id).hours_ = session.hours
  paidAmount : (w.storage.sessions id).paidAmount = priceWei session.tier session.hours

/-- A session of which the escrow has a record keeps it. -/
theorem held_of_created {D : Deployment} (txs after : List (Transaction D.escrow)) {id : ℕ}
    {w : EscrowWorld} (h : Created w (D.chain txs).world id session.payer
      (order session.tier session.hours)) : Held (D.chain (txs ++ after)).world id session := by
  obtain ⟨evs₀, hd₀⟩ := exists_delta D txs
  rw [D.chain_append]
  obtain ⟨evs, hd⟩ := (frames_delta D).mineAll (D.chain txs) after hd₀.valid
  obtain ⟨hkept, -⟩ := hd.kept id h.created
  exact ⟨Nat.lt_of_lt_of_le h.created hd.next_le, by rw [hkept]; exact h.payer, by rw [hkept]; exact h.tier,
    by rw [hkept]; exact h.hours, by rw [hkept]; exact h.paid⟩

/-- The payment is on the chain, and the escrow holds the session where the first log that
    matches the order is the escrow's own. -/
structure Paid (config : Config) (chain : Chain Storage) (session : SessionReply) : Prop where
  exists_tx : ∃ (txs after : List (Transaction config.escrow.escrow)) (tx : Transaction config.escrow.escrow)
    (id : Word), chain = config.escrow.chain (txs ++ tx :: after) ∧
      config.readHash session.txHash = some tx.hash ∧ tx.dest = some config.escrow.address ∧
      session.sessionId = toString id.toNat ∧
      (FirstMatchGenuine config.escrow config.decodeEventLog (order session.tier session.hours)
        (tx.receipt (config.escrow.chain txs).world) → Held chain.world id.toNat session)

/-- What the check returns for a genuine receipt has been created by its transaction. -/
theorem created_of_genuine {D : Deployment} {decodeEventLog : DecodeEventLog} {order : Order}
    {txs : List (Transaction D.escrow)} {tx : Transaction D.escrow} {args : SessionPurchasedArgs}
    (hstatus : (tx.receipt (D.chain txs).world).status = .success)
    (hscan : (tx.receipt (D.chain txs).world).logs.findSome? (order.matchLog decodeEventLog) = some args)
    (hgenuine : FirstMatchGenuine D decodeEventLog order (tx.receipt (D.chain txs).world)) :
    Created (D.chain txs).world (D.chain (txs ++ [tx])).world args.sessionId.toNat args.payer order := by
  obtain ⟨evs₀, hd₀⟩ := exists_delta D txs
  obtain ⟨w, evs, hexecute, hd, hown⟩ := receipt_delta hd₀.valid hstatus
  have hworld : (D.chain (txs ++ [tx])).world = w := by
    rw [D.chain_append, Chain.mineAll_cons, Chain.mineAll_nil, Chain.mine_world, hexecute, Option.getD_some]
  obtain ⟨log, hfind, hargs⟩ := findSome?_eq_some_iff_find?.mp hscan
  obtain ⟨hdecode, htier, hhours, hpaid⟩ := Order.matchLog_eq_some.mp hargs
  rw [hworld, hd.created_iff decodeEventLog hown htier hhours hpaid, ← hdecode]
  exact hgenuine log hfind

theorem Granted.paid (h : Granted config now₀ mvs i session) (hrun : run (start config now₀) mvs = some cfg) :
    Paid config cfg.env.chain session := by
  obtain ⟨before, env, request, receipt, hreads, -, tierParam, hoursParam, hours, id, -, -, -, -, hid,
    hverify⟩ := h.verified
  obtain ⟨r, args, rfl, hstatus, hdest, hscan, rfl, hpayer⟩ := verifySessionPurchase_eq_ok.mp hverify
  obtain ⟨o, rest, cfg', k, rfl, hbefore, -, rfl, hanswer⟩ := hreads.exists_move
  obtain ⟨cfg'', hbefore', hrest⟩ := (run_append before _).mp hrun
  obtain rfl : cfg' = cfg'' := Option.some.inj (hbefore.symm.trans hbefore')
  have htxs' := chain_of_run now₀ hbefore
  have hmore := run_chain hrest
  generalize mined (.answer i o :: rest) = more at hmore
  -- the receipt is one of the chain at that moment
  obtain ⟨txs, tx, after, hmined, hhash, rfl⟩ := exists_tx_of_answer htxs' hanswer
  rw [hmined] at htxs'
  have hchain : cfg.env.chain = config.escrow.chain (txs ++ tx :: (after ++ more)) := by
    rw [hmore, htxs', ← Deployment.chain_append, List.append_assoc, List.cons_append]
  refine ⟨txs, after ++ more, tx, args.sessionId, hchain, ?_, ?_, hid, fun hgenuine => ?_⟩
  · exact hhash
  · rw [← tx.receipt_dest]
    exact hdest
  · have hcreated := created_of_genuine hstatus hscan hgenuine
    rw [hpayer] at hcreated
    have hsplit : txs ++ tx :: (after ++ more) = (txs ++ [tx]) ++ (after ++ more) := by
      rw [List.append_assoc, List.singleton_append]
    rw [hchain, hsplit]
    exact held_of_created (txs ++ [tx]) (after ++ more) hcreated

/-- **Access is paid for.**  In every interleaving in which the clock is not put back: where
    a relay dials for a token that the orchestrator has given out, it is the first one that
    discovery offered the request for the tier, the time is not later than the hours of the
    session from now on, and they are at most a day; the payment that the request names is
    on the chain, and the escrow holds the session with its payer, tier, hours and price. -/
theorem access_is_paid (hne : ∀ body secret, config.sign body secret ≠ "")
    (hdot : ∀ body secret, '.' ∉ (config.sign body secret).toList)
    (hrun : run (start config now₀) mvs = some cfg)
    (hforward : AllMoves (Forward clock) (start config now₀) mvs) {status : ℕ} {i : ℕ}
    (hi : cfg.tasks[i]? = some (.done ⟨status, .session session⟩)) {relayName : String} {now : ℕ}
    {req : ConnectRequest} (htoken : req.token = some session.token)
    (hdials : TunnelServer.Dials ⟨config.secret, relayName⟩ config.sign now req) :
    (∃ env relay rest, System.Gets (start config now₀) mvs i env
      (Command.eligibleOperators session.tier) (some (relay :: rest)) ∧ relay.operator = relayName) ∧
    now / 1000 ≤ cfg.mem.now.ms / 1000 + session.hours * 3600 ∧ session.hours ≤ maxSessionHours ∧
    Paid config cfg.env.chain session := by
  have hgranted := granted_of_given hrun hi rfl
  obtain ⟨id, p, htoken', -, -, hrelay, -, -, hexpires⟩ := hgranted.inscribed
  rw [htoken'] at htoken
  obtain ⟨-, hrelay', hnow⟩ := (dials_issue_iff hne hdot p config.secret relayName now htoken).mp hdials
  obtain ⟨env, relay, rest, hgets, hoffered⟩ := hgranted.offered
  have hreply : (⟨status, .session session⟩ : Reply) ∈ cfg.replies :=
    List.mem_filterMap.mpr ⟨_, List.mem_of_getElem? hi, rfl⟩
  have htimely : Timely cfg.mem ⟨status, .session session⟩ :=
    run_ends (T := Timely) (fun _ _ _ => Timely.later) (fun request _ => ends_handle config request) hrun hforward hreply
  obtain ⟨hhours, hlimit⟩ := htimely session rfl
  refine ⟨⟨env, relay, rest, hgets, ?_⟩, ?_, hhours, hgranted.paid hrun⟩
  · rw [hoffered, ← hrelay, hrelay']
  · rw [hexpires] at hnow
    exact Nat.le_trans (by exact_mod_cast hnow) hlimit

end Granted

/-! ### A run -/

theorem Sample.exists_bought : ∃ cfg session, run (start Sample.config now) bought = some cfg ∧
    cfg.tasks[0]? = some (.done ⟨200, .session session⟩) ∧ session.token = token := by
  have heval : (run (start Sample.config now) bought).any (fun cfg =>
      (cfg.tasks[0]?.bind Program.result).any fun reply =>
        (sessionOf reply).any fun session => session.token = token) = true := by decide +kernel
  obtain ⟨cfg, hrun, hreply⟩ := (Option.any_eq_true _ _).mp heval
  obtain ⟨reply, hreply, hsession⟩ := (Option.any_eq_true _ _).mp hreply
  obtain ⟨session, hsession, htoken⟩ := (Option.any_eq_true _ _).mp hsession
  obtain ⟨p, hp, hresult⟩ := Option.bind_eq_some_iff.mp hreply
  obtain rfl := Program.result_eq_some.mp hresult
  obtain rfl := eq_of_sessionOf hsession
  exact ⟨cfg, session, hrun, hp, of_decide_eq_true htoken⟩

theorem Sample.forward_bought : AllMoves (Forward clock) (start Sample.config now) bought := by
  have hticks : ∀ mv ∈ bought, ∀ now, mv ≠ .happen (.tick now) := by
    simp only [bought, answered, resumed, List.forall_mem_append, List.forall_mem_cons]
    refine ⟨⟨?_, by simp⟩, by simp⟩
    intro now heq
    cases heq
  exact allMoves_of_mem fun mv hmv cfg => forward_of_ne_tick (hticks mv hmv)

theorem access_is_paid_bought : ∃ cfg session, run (start Sample.config now) bought = some cfg ∧
    session.token = token ∧ Paid Sample.config cfg.env.chain session := by
  obtain ⟨cfg, session, hrun, hi, htoken⟩ := Sample.exists_bought
  have hport : dialPort (ConnectRequest.target ⟨some "example.com:443", none⟩).1
      (ConnectRequest.target ⟨some "example.com:443", none⟩).2 = some 443 := by decide +kernel
  have hdials : TunnelServer.Dials ⟨Sample.config.secret, carol.operator⟩ Sample.config.sign now.ms
      ⟨some "example.com:443", some token⟩ :=
    ⟨443, _, (token_accepts_iff carol.operator).mpr rfl "example.com:443" 443 hport⟩
  obtain ⟨-, -, -, hpaid⟩ := access_is_paid sign_ne sign_no_dot hrun forward_bought hi
    (by rw [htoken]) hdials
  exact ⟨cfg, session, hrun, htoken, hpaid⟩

end DVoD.Orchestrator
