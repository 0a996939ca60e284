import DVoD.Orchestrator.Promises

/-!
# What stands before a token

Only a confirmed purchase gives a token, and on the way to it the receipt of the payment
has passed the check and a `PAID` row of the session has been inserted.
-/

namespace DVoD.Orchestrator

open DVoD.Async DVoD.Async.Program DVoD.Arc DVoD.Evm DVoD.Session

def Reply.isTokenFor (sessionId : String) (reply : Reply) : Bool :=
  reply.status == 200 &&
    match reply.body with
    | .session session => session.sessionId == sessionId
    | _ => false

def Body.IsSession : Body → Prop
  | .session _ => True
  | _ => False

theorem isSession_of_isTokenFor {sessionId : String} {reply : Reply}
    (h : reply.isTokenFor sessionId = true) : reply.body.IsSession := by
  rcases reply with ⟨status, _ | _ | _ | _ | _ | _ | _⟩ <;>
    simp_all [Reply.isTokenFor, Body.IsSession]

section Guards

variable {G : (c : Command) → Answer c → Prop} {T : Reply → Prop}

theorem guarded_other (hT : ∀ reply, T reply → reply.body.IsSession) {reply : Reply}
    (h : ¬ reply.body.IsSession) : (pure reply : Handler Reply).run.Guarded G (Returns T) :=
  guarded_pure fun ht => h (hT reply ht)

theorem guarded_conflict (hT : ∀ reply, T reply → reply.body.IsSession) (err : Thrown) :
    (conflictOnInvalidTransition err).run.Guarded G (Returns T) := by
  cases err with
  | invalidTransition message => exact guarded_other hT id
  | _ => exact guarded_throw _

theorem guarded_failover (hT : ∀ reply, T reply → reply.body.IsSession) (sessionId : String)
    (tier : Tier) (failedRelay : String) :
    (failover sessionId tier failedRelay).run.Guarded G (Returns T) := by
  apply guarded_bind_right
  intro _
  apply guarded_bind_right
  intro _
  apply guarded_bind_right
  intro _
  apply guarded_bind_right
  intro _
  apply guarded_bind_right
  intro eligible
  split
  · exact guarded_other hT id
  · apply guarded_bind_right
    intro _
    apply guarded_bind_right
    intro _
    exact guarded_bind_right fun _ => guarded_bind_right fun _ => guarded_other hT id

theorem guarded_failoverRoute (hT : ∀ reply, T reply → reply.body.IsSession) (sessionId : String) :
    (failoverRoute sessionId).run.Guarded G (Returns T) := by
  apply guarded_bind_right
  intro state
  split
  · exact guarded_other hT id
  apply guarded_bind_right
  intro tier
  apply guarded_bind_right
  intro failedRelay
  split
  · exact guarded_tryCatch (guarded_failover hT _ _ _) (guarded_conflict hT)
  · exact guarded_other hT id

theorem guarded_endSessionRoute (hT : ∀ reply, T reply → reply.body.IsSession)
    (sessionId : String) : (endSessionRoute sessionId).run.Guarded G (Returns T) := by
  apply guarded_bind_right
  intro state
  split
  · exact guarded_other hT id
  refine guarded_tryCatch ?_ (guarded_conflict hT)
  exact guarded_bind_right fun _ => guarded_bind_right fun _ => guarded_other hT id

theorem guarded_sessionDetailRoute (hT : ∀ reply, T reply → reply.body.IsSession)
    (sessionId : String) : (sessionDetailRoute sessionId).run.Guarded G (Returns T) := by
  apply guarded_bind_right
  intro events
  split
  · exact guarded_other hT id
  · exact guarded_bind_right fun _ => guarded_bind_right fun _ => guarded_bind_right fun _ =>
      guarded_other hT id

theorem guarded_sessionsRoute (hT : ∀ reply, T reply → reply.body.IsSession) {config : Config}
    {tierParam hoursParam : String} {xSessionTx : Option String}
    (h : ∀ txHash tier hours relay, xSessionTx = some txHash →
      Tier.safeParse tierParam = some tier → parseHours hoursParam = some hours →
      (confirmPurchase config txHash tier hours relay).run.Guarded G (Returns T)) :
    (sessionsRoute config tierParam hoursParam xSessionTx).run.Guarded G (Returns T) := by
  unfold sessionsRoute
  split
  next tier hours htier hhours =>
    apply guarded_bind_right
    intro eligible
    split
    · exact guarded_other hT id
    next relay _ =>
    split
    · exact guarded_other hT id
    next txHash hheader =>
    apply guarded_bind_right
    intro m
    split
    · exact guarded_other hT id
    · refine guarded_tryCatch
        (h txHash tier hours relay (Option.filter_eq_some_iff.mp hheader).1 htier hhours) fun err => ?_
      cases err with
      | paymentVerification error => exact guarded_other hT id
      | _ => exact guarded_throw _
  · exact guarded_other hT id

/-- Of all requests, only a confirmation has to be guarded. -/
theorem guarded_handle (hT : ∀ reply, T reply → reply.body.IsSession) {config : Config}
    {request : Request}
    (h : ∀ tierParam hoursParam txHash tier hours relay,
      request = .sessions tierParam hoursParam (some txHash) →
      Tier.safeParse tierParam = some tier → parseHours hoursParam = some hours →
      (confirmPurchase config txHash tier hours relay).run.Guarded G (Returns T)) :
    (handle config request).Guarded G T := by
  have hroute : (route config request).run.Guarded G (Returns T) := by
    cases request with
    | sessions tierParam hoursParam xSessionTx =>
      exact guarded_sessionsRoute hT fun txHash tier hours relay hheader htier hhours =>
        h tierParam hoursParam txHash tier hours relay (by rw [hheader]) htier hhours
    | forceRelayFailure id => exact guarded_failoverRoute hT id
    | endSession id => exact guarded_endSessionRoute hT id
    | sessionDetail id => exact guarded_sessionDetailRoute hT id
  rw [handle, respond, guarded_bind]
  apply hroute.mono
  intro reply hreply
  cases reply with
  | ok reply => exact not_not.mp hreply
  | error err => exact absurd (fun ht => hT _ ht) hreply

end Guards

/-! ### The receipt has passed the check -/

/-- The receipt of the payment, for the request, passes the check for the session. -/
def VerifiesReceipt (config : Config) (sessionId : String) (request : Request) :
    (c : Command) → Answer c → Prop
  | .getTransactionReceipt txHash, receipt => ∃ tierParam hoursParam tier hours id payer,
      request = .sessions tierParam hoursParam (some txHash) ∧
      Tier.safeParse tierParam = some tier ∧ parseHours hoursParam = some hours ∧
      verifySessionPurchase config.escrow.address config.decodeEventLog receipt txHash
        (order tier hours) = .ok (id, payer) ∧ toString id.toNat = sessionId
  | _, _ => False

theorem guarded_verifiesReceipt (config : Config) (sessionId : String) (request : Request) :
    (handle config request).Guarded (VerifiesReceipt config sessionId request)
      fun reply => reply.isTokenFor sessionId = true := by
  refine guarded_handle (fun _ => isSession_of_isTokenFor)
    fun tierParam hoursParam txHash tier hours relay hrequest htier hhours => ?_
  apply guarded_call_bind
  intro receipt
  split
  · exact Or.inr (guarded_throw _)
  next id payer hverify =>
  by_cases hid : toString id.toNat = sessionId
  · exact Or.inl ⟨tierParam, hoursParam, tier, hours, id, payer, hrequest, htier, hhours, hverify, hid⟩
  · refine Or.inr (guarded_bind_right fun _ => guarded_bind_right fun m =>
      guarded_bind_right fun _ => guarded_pure ?_)
    simpa [Reply.isTokenFor] using hid

/-! ### A `PAID` row has been inserted -/

def InsertsPaid (sessionId : String) : (c : Command) → Answer c → Prop
  | .insertEvent row, inserted => row.sessionId = sessionId ∧ row.toState = .paid ∧ inserted ≠ none
  | _, _ => False

theorem guarded_recordTransition {sessionId : String} {options : TransitionOptions} :
    (recordTransition sessionId .paid options).run.Guarded (InsertsPaid sessionId)
      (Returns fun _ => True) := by
  apply guarded_bind_right
  intro current
  apply guarded_bind_right
  intro _
  apply guarded_bind_right
  intro tier inserted
  cases inserted with
  | some event => exact Or.inl ⟨rfl, rfl, by simp⟩
  | none => exact Or.inr id

theorem guarded_insertsPaid (config : Config) (sessionId : String) (request : Request) :
    (handle config request).Guarded (InsertsPaid sessionId)
      fun reply => reply.isTokenFor sessionId = true := by
  refine guarded_handle (fun _ => isSession_of_isTokenFor)
    fun tierParam hoursParam txHash tier hours relay _ _ _ => ?_
  apply guarded_bind_right
  intro receipt
  split
  · exact guarded_throw _
  next id payer _ =>
  apply guarded_bind_right
  intro _
  apply guarded_bind_right
  intro m
  by_cases hid : toString id.toNat = sessionId
  · subst hid
    exact guarded_bind_left (guarded_bind_left guarded_recordTransition)
  · refine guarded_bind_right fun _ => guarded_pure ?_
    simpa [Reply.isTokenFor] using hid

end DVoD.Orchestrator
