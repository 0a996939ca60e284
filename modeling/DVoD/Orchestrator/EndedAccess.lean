import DVoD.Orchestrator.Progress
import DVoD.Relay.TokenIntegrity

/-!
# Access after the end of a session

The end of a session is a row in the orchestrator's table, and a relay decides by the
token alone.  `no_access_iff` says when the tokens of a session that was ended are
turned down all the same.
-/

namespace DVoD.Orchestrator

open DVoD.Async DVoD.Async.Program DVoD.Async.System DVoD.Relay DVoD.Session Sample

/-! ### What a token says -/

/-- The token is one for the relay and the expiry of the reply. -/
def SessionReply.Issued (config : Config) (session : SessionReply) : Prop :=
  ∃ p : SessionTokenPayload, session.token = issueSessionToken config.sign p config.secret ∧
    p.relay = session.relay ∧ p.expiresAt.val = session.expiresAt

theorem guarded_issued (config : Config) (request : Request) :
    (handle config request).Guarded (fun _ _ => False)
      fun reply => ∃ session, reply.body = .session session ∧ ¬ session.Issued config := by
  refine guarded_handle ?_ ?_
  · rintro reply ⟨session, hbody, -⟩
    rw [hbody]
    trivial
  · intro _ _ txHash tier hours relay _ _ _
    apply guarded_bind_right
    intro receipt
    split
    · exact guarded_throw _
    next id payer _ =>
    apply guarded_bind_right
    intro _
    apply guarded_bind_right
    intro m
    apply guarded_bind_right
    intro _
    apply guarded_pure
    rintro ⟨session, hbody, hnot⟩
    obtain rfl := Body.session.inj hbody
    exact hnot ⟨tokenPayload id relay tier hours m.now, rfl, rfl, rfl⟩

/-- Every token that was given, in any run, is one for the relay and the expiry that came
    with it. -/
theorem issued_of_mem {config : Config} {now : Instant} {mvs : List (System.Move (system config))}
    {cfg : System.Config (system config)} (hrun : run (start config now) mvs = some cfg)
    {status : ℕ} {session : SessionReply} (hmem : ⟨status, .session session⟩ ∈ cfg.replies) :
    session.Issued config := by
  by_contra hnot
  obtain ⟨p, hp, hresult⟩ := List.mem_filterMap.mp hmem
  obtain rfl := result_eq_some.mp hresult
  obtain ⟨i, hi⟩ := List.mem_iff_getElem?.mp hp
  obtain ⟨-, -, -, -, -, -, hfalse⟩ :=
    exists_gets (G := fun _ _ _ => False) (guarded_issued config) hrun hi ⟨session, rfl, hnot⟩
  exact hfalse

/-! ### Orchestrator and relays -/

/-- What happens: something at the orchestrator, or a relay gets a CONNECT at a time. -/
inductive Access (config : Config) where
  | orchestrator (move : System.Move (system config))
  | connect (relayName : String) (now : ℕ) (req : ConnectRequest)

/-- What of it happens at the orchestrator. -/
def moves {config : Config} : List (Access config) → List (System.Move (system config))
  | [] => []
  | .orchestrator move :: rest => move :: moves rest
  | .connect .. :: rest => moves rest

section Access

variable {config : Config}

/-- The end of the session has been answered. -/
def Ended (cfg : System.Config (system config)) (sessionId : String) : Prop :=
  ⟨200, .ended sessionId .expiredNormal⟩ ∈ cfg.replies

/-- The session was given out with this reply. -/
def Given (cfg : System.Config (system config)) (session : SessionReply) : Prop :=
  ⟨200, .session session⟩ ∈ cfg.replies

/-- `P` holds of every CONNECT that carries a token of a session that has been ended, and
    of what was given out with that token. -/
def OfEnded (config : Config) (now₀ : Instant) (accesses : List (Access config))
    (P : SessionReply → String → ℕ → ConnectRequest → Prop) : Prop :=
  ∀ before relayName now req after cfg session,
    accesses = before ++ .connect relayName now req :: after →
    run (start config now₀) (moves before) = some cfg → Given cfg session →
    Ended cfg session.sessionId → req.token = some session.token → P session relayName now req

/-- No relay accepts a CONNECT with a token of a session that has been ended. -/
def NoAccess (config : Config) (now₀ : Instant) (accesses : List (Access config)) : Prop :=
  OfEnded config now₀ accesses fun _ relayName now req =>
    ¬ TunnelServer.Dials ⟨config.secret, relayName⟩ config.sign now req

/-- The token of the request is that one, as it is or with anything behind a further dot. -/
def Presents (req : ConnectRequest) (text : String) : Prop :=
  ∃ token rest, req.token = some token ∧ (rest = [] ∨ ∃ rest', rest = '.' :: rest') ∧
    token.toList = text.toList ++ rest

theorem presents_of_eq {req : ConnectRequest} {text : String} (h : req.token = some text) :
    Presents req text :=
  ⟨text, [], h, Or.inl rfl, (List.append_nil _).symm⟩

/-- `OfEnded`, for what `carries` says of requests and tokens. -/
def OfEndedBy (config : Config) (now₀ : Instant) (accesses : List (Access config))
    (carries : ConnectRequest → String → Prop)
    (P : SessionReply → String → ℕ → ConnectRequest → Prop) : Prop :=
  ∀ before relayName now req after cfg session,
    accesses = before ++ .connect relayName now req :: after →
    run (start config now₀) (moves before) = some cfg → Given cfg session →
    Ended cfg session.sessionId → carries req session.token → P session relayName now req

section Digest

variable (hne : ∀ body secret, config.sign body secret ≠ "")
  (hdot : ∀ body secret, '.' ∉ (config.sign body secret).toList)

include hne hdot

theorem SessionReply.Issued.not_dials_iff {session : SessionReply} (h : session.Issued config)
    (relayName : String) (now : ℕ) {req : ConnectRequest} (hpresents : Presents req session.token) :
    ¬ TunnelServer.Dials ⟨config.secret, relayName⟩ config.sign now req ↔
      ¬ req.WellFormed ∨ session.relay ≠ relayName ∨ session.expiresAt < now / 1000 := by
  obtain ⟨p, hp, hrelay, hexpires⟩ := h
  obtain ⟨token, rest, htoken, hrest, htext⟩ := hpresents
  rw [hp] at htext
  have hverify := verifySessionToken_of_issue hne hdot p now hrest htext
  rw [dials_iff_of_verify htoken hverify, hrelay, hexpires, not_and_or, not_and_or, Nat.cast_le, not_le]

/-- One CONNECT at a time. -/
theorem ofEndedBy_iff (now₀ : Instant) (accesses : List (Access config))
    {carries : ConnectRequest → String → Prop} (hcarries : ∀ req text, carries req text → Presents req text) :
    (OfEndedBy config now₀ accesses carries fun _ relayName now req =>
      ¬ TunnelServer.Dials ⟨config.secret, relayName⟩ config.sign now req) ↔
      OfEndedBy config now₀ accesses carries fun session relayName now req =>
        ¬ req.WellFormed ∨ session.relay ≠ relayName ∨ session.expiresAt < now / 1000 := by
  constructor
  · intro h before relayName now req after cfg session hsplit hrun hgiven hended hcarry
    have hpresents := hcarries req session.token hcarry
    exact ((issued_of_mem hrun hgiven).not_dials_iff hne hdot relayName now hpresents).mp
      (h before relayName now req after cfg session hsplit hrun hgiven hended hcarry)
  · intro h before relayName now req after cfg session hsplit hrun hgiven hended hcarry
    have hpresents := hcarries req session.token hcarry
    exact ((issued_of_mem hrun hgiven).not_dials_iff hne hdot relayName now hpresents).mpr
      (h before relayName now req after cfg session hsplit hrun hgiven hended hcarry)

/-- **When an ended session grants no access.**  In any run, exactly where each CONNECT
    with a token of an ended session has a malformed target, or goes to a relay that the
    token does not name, or comes after the token's expiry. -/
theorem no_access_iff (now₀ : Instant) (accesses : List (Access config)) :
    NoAccess config now₀ accesses ↔
      OfEnded config now₀ accesses fun session relayName now req =>
        ¬ req.WellFormed ∨ session.relay ≠ relayName ∨ session.expiresAt < now / 1000 :=
  ofEndedBy_iff hne hdot now₀ accesses fun _ _ => presents_of_eq

/-- To put something behind a further dot of the token changes nothing: such CONNECTs of
    ended sessions are turned down in the same cases. -/
theorem no_access_presented_iff (now₀ : Instant) (accesses : List (Access config)) :
    (OfEndedBy config now₀ accesses Presents fun _ relayName now req =>
      ¬ TunnelServer.Dials ⟨config.secret, relayName⟩ config.sign now req) ↔
      OfEndedBy config now₀ accesses Presents fun session relayName now req =>
        ¬ req.WellFormed ∨ session.relay ≠ relayName ∨ session.expiresAt < now / 1000 :=
  ofEndedBy_iff hne hdot now₀ accesses fun _ _ => id

end Digest

end Access

/-! ### A run -/

namespace Sample

def sessionOf : Reply → Option SessionReply
  | ⟨200, .session session⟩ => some session
  | _ => none

def endedOf : Reply → Option String
  | ⟨200, .ended sessionId .expiredNormal⟩ => some sessionId
  | _ => none

theorem eq_of_sessionOf {reply : Reply} {session : SessionReply} (h : sessionOf reply = some session) :
    reply = ⟨200, .session session⟩ := by
  unfold sessionOf at h
  split at h
  · rw [Option.some.inj h]
  · cases h

theorem eq_of_endedOf {reply : Reply} {sessionId : String} (h : endedOf reply = some sessionId) :
    reply = ⟨200, .ended sessionId .expiredNormal⟩ := by
  unfold endedOf at h
  split at h
  · rw [Option.some.inj h]
  · cases h

theorem exists_ended : ∃ mvs cfg session, run (start Sample.config now) mvs = some cfg ∧
    Given cfg session ∧ session.sessionId = "0" ∧ session.token = token ∧ Ended cfg "0" := by
  have heval : opened.any (fun first => (sessionOf first.2.1).any (fun session =>
      session.sessionId = "0" && session.token = token) &&
      (evaluated (.endSession "0") first.2.2 4).any fun second => endedOf second.2.1 = some "0") = true := by
    decide +kernel
  obtain ⟨⟨tr₁, reply₁, s₁⟩, hopened, hresult⟩ := (Option.any_eq_true _ _).mp heval
  obtain ⟨hfirst, hsecond⟩ := Bool.and_eq_true_iff.mp hresult
  obtain ⟨session, hsession, hgiven⟩ := (Option.any_eq_true _ _).mp hfirst
  obtain ⟨⟨tr₂, reply₂, s₂⟩, hend, hended⟩ := (Option.any_eq_true _ _).mp hsecond
  obtain rfl := eq_of_sessionOf hsession
  obtain rfl := eq_of_endedOf (of_decide_eq_true hended)
  have hserial : SerialRun Sample.config now [(confirm, tr₁, ⟨200, .session session⟩),
      (.endSession "0", tr₂, ⟨200, .ended "0" .expiredNormal⟩)] s₂ :=
    System.Serial.happen (S := system Sample.config) (e := Event.mine buy)
      (.request (evaluates_of_evaluate hopened) (.request (evaluates_of_evaluate hend) (.nil s₂)))
  obtain ⟨mvs, hrun⟩ := hserial.run []
  simp only [Bool.and_eq_true, decide_eq_true_eq] at hgiven
  refine ⟨mvs, _, session, hrun, ?_, hgiven.1, hgiven.2, ?_⟩
  · exact List.mem_cons_self
  · exact List.mem_cons_of_mem _ List.mem_cons_self

/-- A CONNECT to the relay, after what happens at the orchestrator. -/
def thenConnect (mvs : List (System.Move (system Sample.config))) (relayName : String) (now : ℕ) :
    List (Access Sample.config) :=
  mvs.map .orchestrator ++ [.connect relayName now ⟨some "example.com:443", some token⟩]

theorem moves_map (mvs : List (System.Move (system Sample.config))) :
    moves (mvs.map .orchestrator) = mvs := by
  induction mvs with
  | nil => rfl
  | cons move mvs ih => exact congrArg (move :: ·) ih

end Sample

/-- Session 0 is ended, and carol still accepts its token. -/
theorem ended_session_accepted : ∃ mvs cfg, run (start Sample.config now) mvs = some cfg ∧
    Ended cfg "0" ∧ ¬ NoAccess Sample.config now (thenConnect mvs carol.operator now.ms) := by
  obtain ⟨mvs, cfg, session, hrun, hgiven, hid, htoken, hended⟩ := Sample.exists_ended
  refine ⟨mvs, cfg, hrun, hended, ?_⟩
  intro h
  have hnot := h (mvs.map .orchestrator) carol.operator now.ms _ [] cfg session rfl
    (by rw [moves_map]; exact hrun) hgiven (hid ▸ hended) (by rw [htoken])
  have hport : dialPort (ConnectRequest.target ⟨some "example.com:443", none⟩).1
      (ConnectRequest.target ⟨some "example.com:443", none⟩).2 = some 443 := by decide +kernel
  exact hnot ⟨443, _, (token_accepts_iff carol.operator).mpr rfl "example.com:443" 443 hport⟩

theorem no_access_iff_ended : ∃ mvs cfg session, run (start Sample.config now) mvs = some cfg ∧
    Given cfg session ∧ session.sessionId = "0" ∧ Ended cfg "0" ∧
    (NoAccess Sample.config now (thenConnect mvs carol.operator now.ms) ↔
      OfEnded Sample.config now (thenConnect mvs carol.operator now.ms) fun session relayName now req =>
        ¬ req.WellFormed ∨ session.relay ≠ relayName ∨ session.expiresAt < now / 1000) := by
  obtain ⟨mvs, cfg, session, hrun, hgiven, hid, -, hended⟩ := Sample.exists_ended
  exact ⟨mvs, cfg, session, hrun, hgiven, hid, hended, no_access_iff sign_ne sign_no_dot now _⟩

end DVoD.Orchestrator
