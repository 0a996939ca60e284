import DVoD.Arc.ArcClient
import DVoD.Async.Exception
import DVoD.Orchestrator.SessionLog
import DVoD.Session.CapabilityRecord
import DVoD.Session.SessionToken

/-!
# The routes of the orchestrator

`session-state.ts` and the routes under `/sessions`, as resumable programs: each
`await` of the source is a command, and nothing else lets another handler in.

A database query is one command, and so are the read of a receipt and the whole of
`eligibleOperators`.  What a command is answered is for `DVoD.Orchestrator.Server`.
-/

namespace DVoD.Orchestrator

open DVoD.Async DVoD.Arc DVoD.Evm DVoD.Session DVoD.Text

/-! ### Memory, commands and answers -/

structure Instant where
  ms : ℕ
  le : ms ≤ 8640000000000000

/-- The memory of the process: `usedTxHashes`, `Date.now()`, and what was broadcast. -/
structure Memory where
  usedTxHashes : List String
  now : Instant
  broadcasts : List SessionEventRow

inductive Command where
  | getTransactionReceipt (txHash : String)
  | eligibleOperators (tier : Tier)
  | selectToState (sessionId : String)
  | selectTier (sessionId : String)
  | selectRelay (sessionId : String)
  | selectExpiresAt (sessionId : String)
  | selectEvents (sessionId : String)
  | insertEvent (row : NewRow)

abbrev Found : Command → Type
  | .getTransactionReceipt _ => Receipt
  | .eligibleOperators _ => List CapabilityRecord
  | .selectToState _ => Option SessionState
  | .selectTier _ => Option Tier
  | .selectRelay _ => Option String
  | .selectExpiresAt _ => Option ℕ
  | .selectEvents _ => List SessionEventRow
  | .insertEvent _ => SessionEventRow

/-- The answer to a command; `none` where the promise is rejected. -/
abbrev Answer (c : Command) : Type := Option (Found c)

inductive Thrown where
  | invalidTransition (message : String)
  | paymentVerification (error : PaymentVerificationError)
  | query
  | discovery

abbrev Process := Program Memory Command Answer
abbrev Handler := ExceptT Thrown Process

/-- Await the answer to a command, and throw `e` where the promise is rejected. -/
def awaitOr (e : Thrown) (c : Command) : Handler (Found c) :=
  ExceptT.mk ((Program.call c).bind fun
    | some a => .done (.ok a)
    | none => .done (.error e))

/-! ### `session-state.ts` -/

def getCurrentState (sessionId : String) : Handler (Option SessionState) :=
  awaitOr .query (.selectToState sessionId)

def getTier (sessionId : String) : Handler (Option Tier) :=
  awaitOr .query (.selectTier sessionId)

def getCurrentRelay (sessionId : String) : Handler (Option String) :=
  awaitOr .query (.selectRelay sessionId)

def getExpiresAt (sessionId : String) : Handler (Option ℕ) :=
  awaitOr .query (.selectExpiresAt sessionId)

def getSessionEvents (sessionId : String) : Handler (List SessionEventRow) :=
  awaitOr .query (.selectEvents sessionId)

structure TransitionOptions where
  relay : Option String := none
  tier : Option Tier := none
  detail : Option String := none
  expiresAt : Option ℕ := none

def checkTransition (sessionId : String) (current : Option SessionState) (toState : SessionState) :
    Except Thrown Unit :=
  match current with
  | none =>
      if toState ≠ .paid then
        .error (.invalidTransition ("session " ++ sessionId ++
          " has no prior state; first recorded transition must be to PAID, not " ++ toState.name))
      else .ok ()
  | some current =>
      if !isValidTransition current toState then
        .error (.invalidTransition ("cannot transition session " ++ sessionId ++ " from " ++
          current.name ++ " to " ++ toState.name))
      else .ok ()

/-- `options.tier ?? (await getTier(sessionId))`. -/
def transitionTier (sessionId : String) (options : TransitionOptions) : Handler (Option Tier) :=
  match options.tier with
  | some tier => pure (some tier)
  | none => getTier sessionId

/-- The parameters of the `INSERT`.  The expiry 0 is falsy. -/
def TransitionOptions.row (options : TransitionOptions) (sessionId : String)
    (current : Option SessionState) (toState : SessionState) (tier : Option Tier) : NewRow where
  sessionId := sessionId
  fromState := current
  toState := toState
  relay := options.relay
  tier := tier
  detail := options.detail
  expiresAt := options.expiresAt.filter (· ≠ 0)

def insertRow (row : NewRow) : Handler SessionEventRow :=
  awaitOr .query (.insertEvent row)

/-- `recordTransition`, from the answer to its `SELECT` on. -/
def transitionFrom (sessionId : String) (toState : SessionState) (options : TransitionOptions)
    (current : Option SessionState) : Handler SessionEventRow := do
  ExceptT.mk (.done (checkTransition sessionId current toState))
  let tier ← transitionTier sessionId options
  insertRow (options.row sessionId current toState tier)

def recordTransition (sessionId : String) (toState : SessionState) (options : TransitionOptions) :
    Handler SessionEventRow := do
  let current ← getCurrentState sessionId
  transitionFrom sessionId toState options current

theorem checkTransition_eq_ok {sessionId : String} {current : Option SessionState}
    {toState : SessionState} :
    checkTransition sessionId current toState = .ok () ↔ Allowed current toState := by
  cases current <;> simp [checkTransition, Allowed]

def broadcast (event : SessionEventRow) : Handler Unit :=
  ExceptT.lift (Program.modify fun m => { m with broadcasts := m.broadcasts ++ [event] })

/-! ### Requests and replies -/

inductive Request where
  | sessions (tier hours : String) (xSessionTx : Option String)
  | forceRelayFailure (id : String)
  | endSession (id : String)
  | sessionDetail (id : String)

/-- The 402 quote; its other fields are constants. -/
structure Quote where
  price : String
  payTo : Address
  tier : Tier
  hours : ℕ

structure SessionReply where
  token : String
  relay : String
  tier : Tier
  hours : ℕ
  sessionId : String
  payer : Address
  txHash : String
  expiresAt : ℕ

inductive Body where
  | error (message : String)
  | quote (quote : Quote)
  | session (session : SessionReply)
  | failover (sessionId previousRelay newRelay : String)
  | ended (sessionId : String) (state : SessionState)
  | detail (sessionId : String) (state : Option SessionState) (relay : Option String)
      (expiresAt : Option ℕ) (events : List SessionEventRow)
  | uncaught (error : Thrown)

structure Reply where
  status : ℕ
  body : Body

/-- The configuration, and the code outside the repository that the routes call:
    `readHash` is how a node reads the hash that it is asked for. -/
structure Config where
  escrow : Deployment
  decodeEventLog : DecodeEventLog
  readHash : String → Option Word
  sign : Sign
  secret : String

def maxSessionHours : ℕ := 24

abbrev SessionHours := { hours : ℕ // 1 ≤ hours ∧ hours ≤ maxSessionHours }

/-- `Number(request.params.hours)`, where it is an integer from 1 to 24. -/
def parseHours (hours : String) : Option SessionHours :=
  (JsNumber.ofString hours).toInteger?.bind fun n =>
    if h : 1 ≤ n.toNat ∧ n.toNat ≤ maxSessionHours then some ⟨n.toNat, h⟩ else none

/-- `Math.floor(Date.now() / 1000) + hours * 3600`. -/
def expiryOf (now : Instant) (hours : SessionHours) : ℕ := now.ms / 1000 + hours.val * 3600

theorem expiryOf_lt (now : Instant) (hours : SessionHours) : expiryOf now hours < 2 ^ 53 := by
  have hnow := now.le
  have hhours := hours.2.2
  unfold maxSessionHours at hhours
  unfold expiryOf
  omega

theorem SessionHours.lt (hours : SessionHours) : hours.val < 2 ^ 53 := by
  have hhours := hours.2.2
  unfold maxSessionHours at hhours
  omega

def tokenPayload (sessionId : Word) (relay : CapabilityRecord) (tier : Tier) (hours : SessionHours)
    (now : Instant) : SessionTokenPayload where
  sessionId := .ofWord sessionId
  relay := relay.operator
  tier := tier
  hours := .ofNat hours.val hours.lt
  expiresAt := .ofNat (expiryOf now hours) (expiryOf_lt now hours)

/-! ### `POST /sessions/:tier/:hours` -/

/-- The transitions that a confirmed purchase records, with their details. -/
def purchaseTransitions (txHash : String) (relay : CapabilityRecord) :
    List (SessionState × Option String) :=
  [(.paid, some ("paid via tx " ++ txHash)), (.tokenIssued, none),
    (.tunnelOpen, some ("relay " ++ relay.operator)), (.active, none)]

def recordAll (sessionId : String) (options : TransitionOptions) :
    List (SessionState × Option String) → Handler Unit
  | [] => pure ()
  | (toState, detail) :: rest => do
      let event ← recordTransition sessionId toState { options with detail := detail }
      broadcast event
      recordAll sessionId options rest

/-- The `try` block of the route. -/
def confirmPurchase (config : Config) (txHash : String) (tier : Tier) (hours : SessionHours)
    (relay : CapabilityRecord) : Handler Reply := do
  let receipt ← ExceptT.lift (Program.call (Command.getTransactionReceipt txHash))
  match verifySessionPurchase config.escrow.address config.decodeEventLog receipt txHash
      (order tier hours) with
  | .error error => throw (.paymentVerification error)
  | .ok (sessionId, payer) =>
      ExceptT.lift (Program.modify fun m => { m with usedTxHashes := txHash :: m.usedTxHashes })
      let m ← ExceptT.lift Program.read
      let expiresAt := expiryOf m.now hours
      let sid := toString sessionId.toNat
      recordAll sid ⟨some relay.operator, some tier, none, some expiresAt⟩
        (purchaseTransitions txHash relay)
      let token := issueSessionToken config.sign (tokenPayload sessionId relay tier hours m.now)
        config.secret
      pure ⟨200, .session ⟨token, relay.operator, tier, hours, sid, payer, txHash, expiresAt⟩⟩

def sessionsRoute (config : Config) (tierParam hoursParam : String) (xSessionTx : Option String) :
    Handler Reply :=
  match Tier.safeParse tierParam, parseHours hoursParam with
  | some tier, some hours => do
      let eligible ← awaitOr .discovery (.eligibleOperators tier)
      match eligible with
      | [] => pure ⟨400, .error ("no active relay currently supports tier \"" ++ tier.name ++ "\"")⟩
      | relay :: _ =>
          match xSessionTx.filter (· ≠ "") with
          | none =>
              pure ⟨402, .quote ⟨"$" ++ priceDisplay tier hours, config.escrow.address, tier, hours⟩⟩
          | some txHash => do
              let m ← ExceptT.lift Program.read
              if txHash ∈ m.usedTxHashes then
                pure ⟨409, .error "this payment has already been used for a session"⟩
              else
                tryCatch (confirmPurchase config txHash tier hours relay) fun
                  | Thrown.paymentVerification error => pure ⟨402, .error error.message⟩
                  | error => throw error
  | _, _ => pure ⟨400, .error "invalid tier or hours"⟩

/-! ### `POST /sessions/:id/force-relay-failure` -/

def notActive (sessionId : String) (state : Option SessionState) : Reply :=
  ⟨400, .error ("session " ++ sessionId ++ " is not ACTIVE (current: " ++
    (state.map SessionState.name).getD "unknown" ++ ")")⟩

/-- An `InvalidTransitionError` is a conflict, anything else is not caught. -/
def conflictOnInvalidTransition : Thrown → Handler Reply
  | .invalidTransition message => pure ⟨409, .error message⟩
  | error => throw error

/-- The `try` block of the route. -/
def failover (sessionId : String) (tier : Tier) (failedRelay : String) : Handler Reply := do
  let event ← recordTransition sessionId .relayUnreachable
    { relay := failedRelay, detail := "forced by demo control (brief §9.3)" }
  broadcast event
  let event ← recordTransition sessionId .failoverSelect { relay := failedRelay }
  broadcast event
  let eligible ← awaitOr .discovery (.eligibleOperators tier)
  match eligible.find? fun op => op.operator ≠ failedRelay with
  | none =>
      pure ⟨503, .error ("no other active relay currently supports tier \"" ++ tier.name ++ "\"")⟩
  | some nextRelay => do
      let event ← recordTransition sessionId .tunnelOpen { relay := nextRelay.operator, tier := tier }
      broadcast event
      let event ← recordTransition sessionId .active { relay := nextRelay.operator, tier := tier }
      broadcast event
      pure ⟨200, .failover sessionId failedRelay nextRelay.operator⟩

def failoverRoute (sessionId : String) : Handler Reply := do
  let state ← getCurrentState sessionId
  if state ≠ some .active then pure (notActive sessionId state)
  else
    let tier ← getTier sessionId
    let failedRelay ← getCurrentRelay sessionId
    match tier, failedRelay.filter (· ≠ "") with
    | some tier, some failedRelay =>
        tryCatch (failover sessionId tier failedRelay) conflictOnInvalidTransition
    | _, _ => pure ⟨500, .error ("session " ++ sessionId ++ " is missing tier/relay metadata")⟩

/-! ### `POST /sessions/:id/end` and `GET /sessions/:id` -/

def endSession (sessionId : String) : Handler Reply := do
  let event ← recordTransition sessionId .expiredNormal { detail := "ended by user" }
  broadcast event
  pure ⟨200, .ended sessionId .expiredNormal⟩

def endSessionRoute (sessionId : String) : Handler Reply := do
  let state ← getCurrentState sessionId
  if state ≠ some .active then pure (notActive sessionId state)
  else tryCatch (endSession sessionId) conflictOnInvalidTransition

def sessionDetailRoute (sessionId : String) : Handler Reply := do
  let events ← getSessionEvents sessionId
  if events = [] then pure ⟨404, .error ("no session " ++ sessionId)⟩
  else
    let state ← getCurrentState sessionId
    let relay ← getCurrentRelay sessionId
    let expiresAt ← getExpiresAt sessionId
    pure ⟨200, .detail sessionId state relay expiresAt events⟩

/-! ### The server -/

def route (config : Config) : Request → Handler Reply
  | .sessions tier hours xSessionTx => sessionsRoute config tier hours xSessionTx
  | .forceRelayFailure id => failoverRoute id
  | .endSession id => endSessionRoute id
  | .sessionDetail id => sessionDetailRoute id

/-- A route with the framework's handling of what it does not catch. -/
def respond (h : Handler Reply) : Process Reply :=
  h.run.bind fun
    | .ok reply => .done reply
    | .error error => .done ⟨500, .uncaught error⟩

def handle (config : Config) (request : Request) : Process Reply := respond (route config request)

end DVoD.Orchestrator
