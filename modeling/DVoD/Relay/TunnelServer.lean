import DVoD.Session.SessionToken

/-!
# The relay's CONNECT handler

The `connect` handler of `server.ts`, up to where it dials.  Its effects are a list;
an exception that nothing catches is an error.

`connect_cases` is the spec the proofs about relays rest on: the handler dials, or it
rejects with one status line and one event, or it throws.
-/

namespace DVoD.Relay

open DVoD.Session DVoD.Text

inductive RejectReason where
  | malformedTarget
  | missingToken
  | invalidToken
  | wrongRelay (relay : Option Json) (relayName : String)

/-- The text of a reason, where the relay of the token is a string. -/
def RejectReason.text (relayText : Option Json → String) : RejectReason → String
  | malformedTarget => "malformed CONNECT target"
  | missingToken => "missing x-session-token"
  | invalidToken => "invalid or expired session token"
  | wrongRelay relay relayName =>
      "token is bound to relay \"" ++ relayText relay ++ "\", not \"" ++ relayName ++ "\""

inductive TunnelEventKind where
  | opened
  | closed
  | rejected
deriving DecidableEq

structure TunnelEvent where
  event : TunnelEventKind
  targetHost : List Char
  targetPort : JsNumber
  reason : Option RejectReason

inductive Effect where
  | onEvent (event : TunnelEvent)
  | write (text : String)
  | finish
  | dial (targetPort : ℤ) (targetHost : List Char)

/-- What the handler reads of a request.  `token` is `none` where the header
    `x-session-token` is not a string. -/
structure ConnectRequest where
  url : Option String
  token : Option String
deriving DecidableEq

def reject (targetHost : List Char) (targetPort : JsNumber) (status : String)
    (reason : RejectReason) : List Effect :=
  let port := if targetPort = .nan then .finite 0 else targetPort
  [.onEvent ⟨.rejected, targetHost, port, some reason⟩, .write ("HTTP/1.1 " ++ status ++ "\r\n\r\n"),
    .finish]

/-- The target of a request: host and port, as `split(":")` and `Number` read them. -/
def ConnectRequest.target (req : ConnectRequest) : List Char × JsNumber :=
  match split ':' (req.url.getD "").toList with
  | (targetHost, none) => (targetHost, .nan)
  | (targetHost, some targetPortStr) => (targetHost, .ofChars targetPortStr)

def dialPort (targetHost : List Char) (targetPort : JsNumber) : Option ℤ :=
  if targetHost = [] then none
  else
    targetPort.toInteger?.bind fun port => if port ≤ 0 ∨ 65535 < port then none else some port

/-- `!value` is false. -/
def truthy : Json → Bool
  | .null => false
  | .bool b => b
  | .number x => x ≠ .nan && x ≠ .finite 0
  | .string s => s ≠ []
  | .array _ | .object _ => true

/-- `value === s`. -/
def strictEq (value : Option Json) (s : String) : Bool :=
  match value with
  | some (.string units) => units == utf16 s.toList
  | _ => false

theorem eq_of_strictEq {value : Option Json} {s : String} (h : strictEq value s) :
    value = some (.string (utf16 s.toList)) := by
  unfold strictEq at h
  split at h
  · rw [beq_iff_eq.mp h]
  · cases h

structure TunnelServer where
  secret : String
  relayName : String

/-- The handler, at the time `now` in milliseconds. -/
def TunnelServer.connect (server : TunnelServer) (sign : Sign) (now : ℕ) (req : ConnectRequest) :
    Except JsError (List Effect) :=
  let (targetHost, targetPort) := req.target
  match dialPort targetHost targetPort with
  | none => .ok (reject targetHost targetPort "400 Bad Request" .malformedTarget)
  | some port =>
      match req.token with
      | none =>
          .ok (reject targetHost targetPort "407 Proxy Authentication Required" .missingToken)
      | some token =>
          match verifySessionToken sign token server.secret now with
          | .error err => .error err
          | .ok none =>
              .ok (reject targetHost targetPort "407 Proxy Authentication Required" .invalidToken)
          | .ok (some payload) =>
              if !truthy payload then
                .ok (reject targetHost targetPort "407 Proxy Authentication Required" .invalidToken)
              else
                match payload.get "relay" with
                | none => .error .TypeError
                | some relay =>
                    if strictEq relay server.relayName then .ok [.dial port targetHost]
                    -- the reason has the text of the relay in it
                    else if relay.any toStringThrows then .error .TypeError
                    else
                      .ok (reject targetHost targetPort "403 Forbidden"
                        (.wrongRelay relay server.relayName))

/-! ### What the handler does -/

/-- The effects of a rejection: one event, one status line of class 4xx, the end of the
    socket.  Nothing is dialled. -/
def Rejects (effects : List Effect) : Prop :=
  ∃ event status, effects = [.onEvent event, .write ("HTTP/1.1 " ++ status ++ "\r\n\r\n"), .finish] ∧
    event.event = .rejected ∧
    status ∈ ["400 Bad Request", "407 Proxy Authentication Required", "403 Forbidden"]

section Cases

variable {server : TunnelServer} {sign : Sign} {now : ℕ} {req : ConnectRequest}

theorem connect_cases (server : TunnelServer) (sign : Sign) (now : ℕ) (req : ConnectRequest) :
    (∃ effects, server.connect sign now req = .ok effects ∧ Rejects effects) ∨
    (∃ token payload port targetHost, req.token = some token ∧
      verifySessionToken sign token server.secret now = .ok (some payload) ∧
      payload.get "relay" = some (some (.string (utf16 server.relayName.toList))) ∧
      server.connect sign now req = .ok [.dial port targetHost]) ∨
    (∃ token err, req.token = some token ∧ server.connect sign now req = .error err ∧
      ∀ payload, verifySessionToken sign token server.secret now = .ok payload →
        ∃ value, payload = some value ∧
          ∀ relay, value.get "relay" = some relay → relay.any toStringThrows = true) := by
  have hreject (targetHost targetPort) {status} (reason)
      (h : status ∈ ["400 Bad Request", "407 Proxy Authentication Required", "403 Forbidden"]) :
      Rejects (reject targetHost targetPort status reason) := ⟨_, _, rfl, rfl, h⟩
  simp only [TunnelServer.connect]
  split
  · exact Or.inl ⟨_, rfl, hreject _ _ _ (by simp)⟩
  next port _ =>
  split
  · exact Or.inl ⟨_, rfl, hreject _ _ _ (by simp)⟩
  next token htoken =>
  rcases hverify : verifySessionToken sign token server.secret now with err | _ | payload
  · exact Or.inr (Or.inr ⟨token, err, htoken, rfl, fun payload h => by rw [hverify] at h; cases h⟩)
  · exact Or.inl ⟨_, rfl, hreject _ _ _ (by simp)⟩
  by_cases htruthy : truthy payload
  · rcases hget : payload.get "relay" with _ | relay
    · refine Or.inr (Or.inr ⟨token, .TypeError, htoken, by simp [htruthy, hget], ?_⟩)
      intro value h
      obtain rfl := Except.ok.inj (hverify.symm.trans h)
      exact ⟨payload, rfl, fun relay hrelay => nomatch hget.symm.trans hrelay⟩
    by_cases hrelay : strictEq relay server.relayName
    · refine Or.inr (Or.inl ⟨token, payload, port, req.target.1, htoken, hverify, ?_,
        by simp [htruthy, hget, hrelay]⟩)
      rw [hget, eq_of_strictEq hrelay]
    by_cases hthrows : relay.any toStringThrows = true
    · refine Or.inr (Or.inr ⟨token, .TypeError, htoken, by simp [htruthy, hget, hrelay, hthrows], ?_⟩)
      intro value h
      obtain rfl := Except.ok.inj (hverify.symm.trans h)
      refine ⟨payload, rfl, ?_⟩
      intro relay' hrelay'
      obtain rfl := Option.some.inj (hget.symm.trans hrelay')
      exact hthrows
    · exact Or.inl ⟨_, by simp [htruthy, hget, hrelay, hthrows]; rfl, hreject _ _ _ (by simp)⟩
  · exact Or.inl ⟨_, by simp [htruthy]; rfl, hreject _ _ _ (by simp)⟩

end Cases

/-! ### Which tokens a relay accepts -/

/-- With this token, the handler dials every well-formed target. -/
def TunnelServer.Accepts (server : TunnelServer) (sign : Sign) (now : ℕ) (token : String) : Prop :=
  ∀ url port, dialPort (ConnectRequest.target ⟨some url, some token⟩).1
      (ConnectRequest.target ⟨some url, some token⟩).2 = some port →
    server.connect sign now ⟨some url, some token⟩ =
      .ok [.dial port (ConnectRequest.target ⟨some url, some token⟩).1]

/-- The handler dials the target of the request. -/
def TunnelServer.Dials (server : TunnelServer) (sign : Sign) (now : ℕ) (req : ConnectRequest) : Prop :=
  ∃ port targetHost, server.connect sign now req = .ok [.dial port targetHost]

def ConnectRequest.WellFormed (req : ConnectRequest) : Prop :=
  ∃ port, dialPort req.target.1 req.target.2 = some port

/-- What is dialled is the target of the request. -/
theorem target_of_dial {server : TunnelServer} {sign : Sign} {now : ℕ} {req : ConnectRequest} {port : ℤ}
    {targetHost : List Char} (h : server.connect sign now req = .ok [.dial port targetHost]) :
    dialPort req.target.1 req.target.2 = some port ∧ targetHost = req.target.1 := by
  simp only [TunnelServer.connect] at h
  split at h
  · cases h
  next port' hport =>
  split at h
  · cases h
  split at h
  · cases h
  · cases h
  split at h
  · cases h
  split at h
  · cases h
  split at h
  · simp only [Except.ok.injEq, List.cons.injEq, Effect.dial.injEq, and_true] at h
    exact ⟨by rw [hport, h.1], h.2.symm⟩
  split at h
  · cases h
  · cases h

/-! ### Requests that make the handler throw -/

/-- The token of the request is signed, and its payload is of no use. -/
def ConnectRequest.Broken (req : ConnectRequest) (sign : Sign) (secret : String) (now : ℕ) : Prop :=
  ∃ token body, req.token = some token ∧ Signed sign secret token body ∧
    Unusable now (tokenPayload token)

section Throws

variable {server : TunnelServer} {sign : Sign} {now : ℕ} {req : ConnectRequest}

theorem toStringThrows_of_strictEq {value : Option Json} {s : String} (h : strictEq value s) :
    value.any toStringThrows = false := by
  rw [eq_of_strictEq h]
  rfl

/-- A payload that could be read is of no use exactly where the text of its relay is
    needed and there is none. -/
theorem unusable_iff {payload : Json} (hnull : payload ≠ .null)
    (hexpiresAt : ∀ value, payload.get "expiresAt" = some (some value) → toStringThrows value = false)
    (hexpired : ¬ Expired payload now) {relay : Option Json} (hrelay : payload.get "relay" = some relay) :
    Unusable now (some payload) ↔ relay.any toStringThrows = true := by
  constructor
  · intro h
    cases h with
    | null => exact absurd rfl hnull
    | expiresAt hget hthrows => cases (hexpiresAt _ hget).symm.trans hthrows
    | relay _ hget hthrows =>
      obtain rfl := Option.some.inj (hrelay.symm.trans hget)
      exact hthrows
  · intro h
    obtain ⟨value, rfl, hthrows⟩ := (Option.any_eq_true _ _).mp h
    exact .relay hexpired hrelay hthrows

theorem truthy_of_relay {payload value : Json} (h : payload.get "relay" = some (some value)) :
    truthy payload = true := by
  cases payload with
  | object members => rfl
  | _ => cases h

theorem not_unusable_of_expired {payload : Json} (hnull : payload ≠ .null)
    (hexpiresAt : ∀ value, payload.get "expiresAt" = some (some value) → toStringThrows value = false)
    (hexpired : Expired payload now) : ¬ Unusable now (some payload) := by
  intro h
  cases h with
  | null => exact hnull rfl
  | expiresAt hget hthrows => cases (hexpiresAt _ hget).symm.trans hthrows
  | relay hnot _ _ => exact hnot hexpired

/-- **When the handler throws.** -/
theorem throws_iff : (∃ err, server.connect sign now req = .error err) ↔
    req.WellFormed ∧ req.Broken sign server.secret now := by
  simp only [TunnelServer.connect, ConnectRequest.WellFormed]
  rcases dialPort req.target.1 req.target.2 with _ | port
  · simp
  rcases htoken : req.token with _ | token
  · simp [ConnectRequest.Broken, htoken]
  have hbroken : req.Broken sign server.secret now ↔
      (∃ body, Signed sign server.secret token body) ∧ Unusable now (tokenPayload token) := by
    simp [ConnectRequest.Broken, htoken]
  rw [hbroken]
  dsimp only
  by_cases hsigned : ∃ body, Signed sign server.secret token body
  swap
  · rw [verifySessionToken_of_not_signed (not_exists.mp hsigned)]
    simp [hsigned]
  obtain ⟨body, hsigned'⟩ := hsigned
  rw [verifySessionToken_of_signed hsigned', hsigned'.tokenPayload_eq]
  rcases readPayload_cases body now with ⟨err, herr, hunusable⟩ |
    ⟨payload, hparse, hexpiresAt, hnull, ⟨hnone, hexpired⟩ | ⟨hsome, hexpired⟩⟩
  · rw [herr]
    exact iff_of_true ⟨err, rfl⟩ ⟨⟨port, rfl⟩, ⟨body, hsigned'⟩, hunusable⟩
  · rw [hnone, hparse]
    exact iff_of_false (fun h => nomatch h.choose_spec)
      fun h => not_unusable_of_expired hnull hexpiresAt hexpired h.2.2
  rw [hsome, hparse]
  rcases hrelay : payload.get "relay" with _ | relay
  · exact absurd (get_eq_none_iff.mp hrelay) hnull
  rw [unusable_iff hnull hexpiresAt hexpired hrelay, and_iff_right ⟨port, rfl⟩,
    and_iff_right ⟨body, hsigned'⟩]
  rcases hthrows : relay.any toStringThrows with _ | _
  · refine iff_of_false ?_ (by simp)
    rintro ⟨err, herr⟩
    simp only [hrelay, hthrows, Bool.false_eq_true, if_false] at herr
    split at herr
    · cases herr
    · split at herr <;> cases herr
  · obtain ⟨value, rfl, -⟩ := (Option.any_eq_true _ _).mp hthrows
    have hstrict : strictEq (some value) server.relayName = false := by
      by_contra hne
      rw [Bool.not_eq_false] at hne
      cases (toStringThrows_of_strictEq hne).symm.trans hthrows
    refine iff_of_true ⟨.TypeError, ?_⟩ rfl
    simp only [hrelay, truthy_of_relay hrelay, hstrict, hthrows, Bool.not_true, Bool.false_eq_true,
      if_false, if_true]

end Throws

/-- A request whose token is read as that payload. -/
theorem dials_iff_of_verify {sign : Sign} {p : SessionTokenPayload} {secret relayName token : String} {now : ℕ}
    {req : ConnectRequest} (htoken : req.token = some token)
    (hverify : verifySessionToken sign token secret now =
      .ok (if p.expiresAt.val < (now / 1000 : ℕ) then none else some p.toJson)) :
    TunnelServer.Dials ⟨secret, relayName⟩ sign now req ↔
      req.WellFormed ∧ p.relay = relayName ∧ (now / 1000 : ℕ) ≤ p.expiresAt.val := by
  constructor
  · rintro ⟨port, targetHost, hdial⟩
    refine ⟨⟨port, (target_of_dial hdial).1⟩, ?_⟩
    rcases connect_cases ⟨secret, relayName⟩ sign now req with
      ⟨effects, hok, _, _, heffects, -⟩ | ⟨token, payload, _, _, htoken', hpayload, hrelay, -⟩ |
      ⟨token, err, -, herr, -⟩
    · cases hdial.symm.trans (hok.trans (congrArg _ heffects))
    · obtain rfl := Option.some.inj (htoken.symm.trans htoken')
      rw [hverify] at hpayload
      by_cases hexpired : p.expiresAt.val < (now / 1000 : ℕ)
      · rw [if_pos hexpired] at hpayload
        cases hpayload
      · rw [if_neg hexpired] at hpayload
        obtain rfl : p.toJson = payload := by simpa using hpayload
        rw [p.get_relay] at hrelay
        exact ⟨String.toList_injective (utf16_injective (by simpa using hrelay)), not_lt.mp hexpired⟩
    · cases hdial.symm.trans herr
  · rintro ⟨⟨port, hport⟩, rfl, hexpires⟩
    have htruthy : truthy p.toJson = true := rfl
    have hrelay : strictEq (some (.string (utf16 p.relay.toList))) p.relay = true := by simp [strictEq]
    rw [if_neg (not_lt.mpr hexpires)] at hverify
    refine ⟨port, req.target.1, ?_⟩
    simp only [TunnelServer.connect, hport, htoken, hverify, htruthy, p.get_relay, hrelay, Bool.not_true,
      Bool.false_eq_true, if_false, if_true]

section Issued

variable {sign : Sign} (hne : ∀ body secret, sign body secret ≠ "")
  (hdot : ∀ body secret, '.' ∉ (sign body secret).toList) (p : SessionTokenPayload)
  (secret relayName : String) (now : ℕ)

include hne hdot

theorem dials_issue_iff {req : ConnectRequest}
    (htoken : req.token = some (issueSessionToken sign p secret)) :
    TunnelServer.Dials ⟨secret, relayName⟩ sign now req ↔
      req.WellFormed ∧ p.relay = relayName ∧ (now / 1000 : ℕ) ≤ p.expiresAt.val :=
  dials_iff_of_verify htoken (verifySessionToken_issue hne hdot p secret now)

/-- **An issued token is accepted** by the relay that it names, until it expires. -/
theorem accepts_issue_iff :
    TunnelServer.Accepts ⟨secret, relayName⟩ sign now (issueSessionToken sign p secret) ↔
      p.relay = relayName ∧ (now / 1000 : ℕ) ≤ p.expiresAt.val := by
  constructor
  · intro h
    have hport : dialPort (ConnectRequest.target ⟨some "relay.example:443", none⟩).1
        (ConnectRequest.target ⟨some "relay.example:443", none⟩).2 = some 443 := by decide +kernel
    have htarget (token : Option String) : ConnectRequest.target ⟨some "relay.example:443", token⟩ =
        ConnectRequest.target ⟨some "relay.example:443", none⟩ := by
      simp only [ConnectRequest.target]
    have hdial := h "relay.example:443" 443 (by rw [htarget]; exact hport)
    exact ((dials_issue_iff hne hdot p secret relayName now rfl).mp ⟨_, _, hdial⟩).2
  · intro h url port hport
    obtain ⟨port', targetHost, hdial⟩ := (dials_issue_iff hne hdot p secret relayName now rfl).mpr
      ⟨⟨port, hport⟩, h⟩
    obtain ⟨hport', rfl⟩ := target_of_dial hdial
    obtain rfl := Option.some.inj (hport'.symm.trans hport)
    exact hdial

end Issued

end DVoD.Relay
