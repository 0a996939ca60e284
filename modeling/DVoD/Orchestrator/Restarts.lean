import DVoD.Orchestrator.Failover

/-!
# Restarts

`usedTxHashes` is lost when the process is restarted, and the node reads a hash in any
spelling.  What still keeps a payment from buying twice is the table: a session that has
a row is never again in a state from which `PAID` may be recorded, and a token is given
only after `PAID` was.
-/

namespace DVoD.Orchestrator

open DVoD.Async DVoD.Async.System DVoD.Session Sample

/-- The process is started anew on the same database. -/
def restart (s : Memory × Env) : Memory × Env :=
  ({ s.1 with usedTxHashes := [], broadcasts := [] }, s.2)

/-- Requests handled one after another, with restarts in between. -/
inductive RestartedRun (config : Config) :
    Memory × Env → List (Request × Trace × Reply) → Memory × Env → Prop
  | last {s s' : Memory × Env} {requests : List (Request × Trace × Reply)} :
      Serial (system config) s requests s' → RestartedRun config s requests s'
  | restart {s s₁ s' : Memory × Env} {requests requests' : List (Request × Trace × Reply)} :
      Serial (system config) s requests s₁ → RestartedRun config (restart s₁) requests' s' →
      RestartedRun config s (requests ++ requests') s'

section Once

variable {config : Config} {s s' : Memory × Env} {tr : Trace} {sessionId : String}
  {requests : List (Request × Trace × Reply)} {tokens : List String}

/-- A session without a row was given no token, and no session more than one. -/
structure Once (t : SessionEvents) (sessionId : String) (tokens : List String) : Prop where
  unrecorded : t.getSessionEvents sessionId = [] → tokens = []
  length_le : tokens.length ≤ 1

theorem Once.congr {t : SessionEvents} {tokens' : List String} (h : Once t sessionId tokens)
    (htokens : tokens = tokens') : Once t sessionId tokens' :=
  htokens ▸ h

theorem Once.quiet {t t' : SessionEvents} {new : List SessionEventRow} (h : Once t sessionId tokens)
    (hnew : t'.getSessionEvents sessionId = t.getSessionEvents sessionId ++ new) :
    Once t' sessionId tokens := by
  constructor
  · intro hnone
    rw [hnew] at hnone
    exact h.unrecorded (List.append_eq_nil_iff.mp hnone).1
  · exact h.length_le

theorem Once.step {t t' : SessionEvents} {new : List SessionEventRow} {token : Option String}
    (h : Once t sessionId tokens)
    (hnew : t'.getSessionEvents sessionId = t.getSessionEvents sessionId ++ new)
    (heffect : Effect config t sessionId tr token new) :
    Once t' sessionId (tokens ++ token.toList) := by
  cases heffect with
  | quiet htoken _ =>
    rw [htoken, Option.toList_none, List.append_nil]
    exact h.quiet hnew
  | failover htoken =>
    rw [htoken, Option.toList_none, List.append_nil]
    exact h.quiet hnew
  | ended htoken =>
    rw [htoken, Option.toList_none, List.append_nil]
    exact h.quiet hnew
  | unfinished c _ _ _ htoken _ =>
    rw [htoken, Option.toList_none, List.append_nil]
    exact h.quiet hnew
  | bought c hnone _ hstates htoken _ =>
    -- the session had no row, so it had no token, and now it has rows
    rw [h.unrecorded hnone, htoken]
    constructor
    · intro hrows
      rw [hnew] at hrows
      exact absurd (List.append_eq_nil_iff.mp hrows).2 (ne_nil_of_states hstates)
    · simp

theorem Once.run {requests : List ((system config).Request × Trace × (system config).Reply)}
    (h : Serial (system config) s requests s') (hbegun : s.2.events.Begun)
    (honce : Once s.2.events sessionId tokens) :
    s'.2.events.Begun ∧ Once s'.2.events sessionId (tokens ++ tokensGiven requests sessionId) := by
  induction h generalizing tokens with
  | nil s =>
    exact ⟨hbegun, honce.congr (List.append_nil tokens).symm⟩
  | @happen s event s' requests _ ih =>
    have hevents := (happen_unchanged event s).events
    apply ih
    · exact hevents ▸ hbegun
    · exact hevents ▸ honce
  | @request s request tr reply s₁ s' requests h _ ih =>
    obtain ⟨new, hnew, heffect⟩ := runs_effect h hbegun sessionId
    obtain ⟨hbegun', honce'⟩ := ih (runs_begun h hbegun) (honce.step hnew heffect)
    refine ⟨hbegun', honce'.congr ?_⟩
    rw [List.append_assoc]
    exact congrArg (tokens ++ ·) (tokensGiven_cons request tr reply requests sessionId).symm

theorem tokensGiven_append (requests requests' : List (Request × Trace × Reply)) (sessionId : String) :
    tokensGiven (requests ++ requests') sessionId =
      tokensGiven requests sessionId ++ tokensGiven requests' sessionId :=
  List.filterMap_append

theorem RestartedRun.once (h : RestartedRun config s requests s') (hbegun : s.2.events.Begun)
    (honce : Once s.2.events sessionId tokens) :
    Once s'.2.events sessionId (tokens ++ tokensGiven requests sessionId) := by
  induction h generalizing tokens with
  | last hserial => exact (honce.run hserial hbegun).2
  | restart hserial _ ih =>
    obtain ⟨hbegun', honce'⟩ := honce.run hserial hbegun
    rw [tokensGiven_append, ← List.append_assoc]
    exact ih hbegun' honce'

/-- **A payment buys one session, across restarts.**  However often the process is
    restarted between requests that do not overlap, and however the hash of a payment is
    spelled, no session is given more than one token. -/
theorem tokens_le_one {now : Instant} (h : RestartedRun config (genesis now) requests s)
    (sessionId : String) : (tokensGiven requests sessionId).length ≤ 1 := by
  have hstart : Once (genesis now).2.events sessionId [] := ⟨fun _ => rfl, Nat.zero_le _⟩
  have hbegun : KeepingBegun (start config now) := keepingBegun_start now
  exact (h.once hbegun.2 hstart).length_le

end Once

/-! ### A run -/

namespace Sample

/-- The hash of the payment, in upper case. -/
def respelled : String := "0x000000000000000000000000000000000000000000000000000000000000000A"

/-- A node reads both spellings. -/
def lenient : Config :=
  { Sample.config with readHash := fun header => if header = txHash ∨ header = respelled then some 10 else none }

def confirmRespelled : Request := .sessions "lite" "1" respelled

def lenientlyEvaluated (request : Request) (s : Memory × Env) (queries : ℕ) :
    Option (Trace × Reply × (Memory × Env)) :=
  (system lenient).evaluate (handle lenient request) s (List.replicate queries ([], oracle))

end Sample

/-- A restart between two confirmations of one payment, the second in another spelling. -/
theorem tokens_le_one_restarted : ∃ requests s, RestartedRun lenient (genesis now) requests s ∧
    requests.map Prod.fst = [confirm, confirmRespelled] ∧
    requests.map (fun handled => handled.2.2.status) = [200, 500] ∧
    (tokensGiven requests "0").length ≤ 1 := by
  have heval : (lenientlyEvaluated confirm paid 10).any (fun first =>
      first.2.1.status = 200 && (lenientlyEvaluated confirmRespelled (restart first.2.2) 3).any
        fun second => second.2.1.status = 500) = true := by
    decide +kernel
  obtain ⟨⟨tr₁, reply₁, s₁⟩, hfirst, hrest⟩ := (Option.any_eq_true _ _).mp heval
  obtain ⟨hstatus₁, hsecond⟩ := Bool.and_eq_true_iff.mp hrest
  obtain ⟨⟨tr₂, reply₂, s₂⟩, hsecond, hstatus₂⟩ := (Option.any_eq_true _ _).mp hsecond
  have hrun : RestartedRun lenient (genesis now)
      ([(confirm, tr₁, reply₁)] ++ [(confirmRespelled, tr₂, reply₂)]) s₂ :=
    .restart (System.Serial.happen (S := system lenient) (e := Event.mine buy)
        (.request (evaluates_of_evaluate hfirst) (.nil s₁)))
      (.last (.request (evaluates_of_evaluate hsecond) (.nil s₂)))
  refine ⟨_, s₂, hrun, rfl, ?_, tokens_le_one hrun "0"⟩
  have hstatuses := And.intro (of_decide_eq_true hstatus₁) (of_decide_eq_true hstatus₂)
  simpa using hstatuses

end DVoD.Orchestrator
