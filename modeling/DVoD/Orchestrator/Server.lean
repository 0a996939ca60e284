import DVoD.Orchestrator.Handlers

/-!
# The orchestrator in its surroundings

The handlers of `DVoD.Orchestrator.Handlers` as a system: one database, one chain on
which transactions are mined at any time, and a clock.  An `Oracle` leaves open which
operators discovery returns, which queries fail, and when the node cannot be reached.
-/

namespace DVoD.Orchestrator

open DVoD.Async DVoD.Arc DVoD.Evm DVoD.Session

structure Env where
  events : SessionEvents
  chain : Chain Storage

/-- How a query fails: before the database executed it, or after. -/
inductive Fault where
  | lost
  | unanswered
deriving DecidableEq

/-- What the surroundings decide of one answer. -/
structure Oracle where
  eligible : Option (List CapabilityRecord) := none
  fault : Option Fault := none
  rpcFails : Bool := false
  createdAt : ℕ := 0

inductive Event (D : Deployment) where
  | tick (now : Instant)
  | mine (tx : Transaction D.escrow)

def Env.receipt (config : Config) (env : Env) (txHash : String) : Option Receipt :=
  (config.readHash txHash).bind fun hash =>
    env.chain.receipts.find? fun receipt => receipt.transactionHash = hash

def Oracle.select {α : Type} (o : Oracle) (a : α) : Option α := if o.fault = none then some a else none

def answer (config : Config) (o : Oracle) (env : Env) : (c : Command) → Answer c × Env
  | .getTransactionReceipt txHash => (if o.rpcFails then none else env.receipt config txHash, env)
  | .eligibleOperators _ => (o.eligible, env)
  | .selectToState sessionId => (o.select (env.events.getCurrentState sessionId), env)
  | .selectTier sessionId => (o.select (env.events.getTier sessionId), env)
  | .selectRelay sessionId => (o.select (env.events.getCurrentRelay sessionId), env)
  | .selectExpiresAt sessionId => (o.select (env.events.getExpiresAt sessionId), env)
  | .selectEvents sessionId => (o.select (env.events.getSessionEvents sessionId), env)
  | .insertEvent row =>
      match o.fault with
      | none => (some (row.toRow env.events.nextId o.createdAt),
          { env with events := env.events.insert row o.createdAt })
      | some .lost => (none, env)
      | some .unanswered => (none, { env with events := env.events.insert row o.createdAt })

def happen {D : Deployment} : Event D → Memory × Env → Memory × Env
  | .tick now, (m, env) => ({ m with now := now }, env)
  | .mine tx, (m, env) => (m, { env with chain := env.chain.mine tx })

def system (config : Config) : System Memory Env Command Answer where
  Request := Request
  Reply := Reply
  Oracle := Oracle
  Event := Event config.escrow
  handler := handle config
  answer := answer config
  happen := happen

/-- The process right after its start, with an empty database, before any block. -/
def genesis (now : Instant) : Memory × Env :=
  (⟨[], now, []⟩, ⟨SessionEvents.empty, ⟨Deployment.genesis, []⟩⟩)

def start (config : Config) (now : Instant) : System.Config (system config) :=
  ⟨(genesis now).1, (genesis now).2, []⟩

/-! ### What a step does to the database and to the chain -/

section Steps

variable {config : Config} {o : Oracle} {env : Env}

/-- Only an `INSERT` that is executed changes the table. -/
theorem answer_cases (config : Config) (o : Oracle) (env : Env) (c : Command) :
    (answer config o env c).2 = env ∨
    ∃ row, c = .insertEvent row ∧ o.fault ≠ some .lost ∧
      (answer config o env c).2 = { env with events := env.events.insert row o.createdAt } := by
  cases c with
  | insertEvent row =>
    rcases hf : o.fault with _ | _ | _
    · exact Or.inr ⟨row, rfl, by simp, by simp [answer, hf]⟩
    · exact Or.inl (by simp [answer, hf])
    · exact Or.inr ⟨row, rfl, by simp, by simp [answer, hf]⟩
  | _ => exact Or.inl rfl

theorem answer_insertEvent_events {row : NewRow} (h : o.fault ≠ some .lost) :
    (answer config o env (.insertEvent row)).2.events = env.events.insert row o.createdAt := by
  rcases hf : o.fault with _ | _ | _
  · simp [answer, hf]
  · exact absurd hf h
  · simp [answer, hf]

theorem fault_ne_lost_of_answer {row : NewRow}
    (h : (answer config o env (.insertEvent row)).1 ≠ none) : o.fault ≠ some .lost := by
  intro hf
  simp [answer, hf] at h

@[simp] theorem answer_chain (c : Command) : (answer config o env c).2.chain = env.chain := by
  rcases answer_cases config o env c with h | ⟨row, -, -, h⟩ <;> rw [h]

@[simp] theorem happen_events {D : Deployment} (event : Event D) (m : Memory) :
    (happen event (m, env)).2.events = env.events := by
  cases event <;> rfl

end Steps

/-! ### A small site

Account 3 buys session 0 (lite, one hour) at the time 1000000000, and there are two
relays. -/

namespace Sample

def txHash : String := "0x000000000000000000000000000000000000000000000000000000000000000a"

/-- HMAC-SHA256 under "dev-only-insecure-secret" of the body of the token for session 0;
    no other body is signed in the runs below. -/
def sign : Sign := fun body _ =>
  if body = "eyJzZXNzaW9uSWQiOjAsInJlbGF5IjoiY2Fyb2wuZHZvZC10ZXN0LmV0aCIsInRpZXIiOiJsaXRlIiwiaG91cnM" ++
      "iOjEsImV4cGlyZXNBdCI6MTAwMDAwMzYwMH0"
  then "TM_qilZs378KkIDBpVVU5idhFbxwlK7jp6CU8zEB1Lo"
  else "-------------------------------------------"

def config : Config where
  escrow := ⟨1, 2⟩
  decodeEventLog := decodeSessionPurchased
  readHash header := if header = txHash then some 10 else none
  sign := sign
  secret := "dev-only-insecure-secret"

def now : Instant := ⟨1000000000000, by norm_num⟩

def buy : Transaction config.escrow.escrow :=
  ⟨10, 3, by decide, 1000000000, .call (.purchaseSession .Lite 1) 100000000000000000 .stop⟩

def relay (operator endpoint : String) : CapabilityRecord :=
  ⟨operator, "0xc1fF98cCE7EBa8D1cAF3c5Cb0DB11E9a1bDD7eF0", "0x8d5E3F2b1bB5c9C0d3a4fD8Ab6aBb6b4bD3f5e11",
    endpoint, [.lite], .active, "0x01"⟩

def carol : CapabilityRecord := relay "carol.dvod-test.eth" "https://carol.example"
def dave : CapabilityRecord := relay "dave.dvod-test.eth" "https://dave.example"

def oracle : Oracle := { eligible := some [carol, dave] }

def confirm : Request := .sessions "lite" "1" txHash

def oneHour : SessionHours := ⟨1, by decide⟩

theorem parseHours_one : parseHours "1" = some oneHour := by decide +kernel

def answered (task : ℕ) : System.Move (system config) := .answer task oracle
def resumed (task : ℕ) : System.Move (system config) := .resume task

/-- The payment is mined, and task 0 confirms it before anything else happens. -/
def bought : List (System.Move (system config)) :=
  [.happen (.mine buy), .arrive confirm, answered 0, resumed 0, answered 0, resumed 0] ++
    (List.replicate 4 [answered 0, answered 0, resumed 0]).flatten

end Sample

end DVoD.Orchestrator
