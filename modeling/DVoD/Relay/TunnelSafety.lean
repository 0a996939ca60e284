import DVoD.Relay.TunnelServer

/-!
# Tunnels are backed by issued tokens

The orchestrator issues tokens under a secret, and clients send any requests to any
relays that share it.  What stands for the strength of HMAC is `Unforged`: a client
that has not been given a signature of a body does not send one behind that body.  Issued
tokens sent as they are meet it for every digest without a dot: `unforged_issue`.
`connect_backed` is the result for whole runs.
-/

namespace DVoD.Relay

open DVoD.Session DVoD.Text

/-- What happens in a run: the orchestrator issues a token, or a relay gets a request
    at the time `now`. -/
inductive Action where
  | issue (payload : SessionTokenPayload)
  | connect (relayName : String) (now : ℕ) (req : ConnectRequest)

def issued : List Action → List SessionTokenPayload
  | [] => []
  | .issue payload :: actions => payload :: issued actions
  | .connect .. :: actions => issued actions

/-- A token that starts with a body, a dot and the signature of this body has a body that
    was signed before. -/
def Unforged (sign : Sign) (secret : String) (payloads : List SessionTokenPayload)
    (req : ConnectRequest) : Prop :=
  ∀ token, req.token = some token → ∀ body rest,
    token.toList = body ++ '.' :: ((sign (String.ofList body) secret).toList ++ rest) →
      ∃ p ∈ payloads, body = p.body

def AllUnforged (sign : Sign) (secret : String) (run : List Action) : Prop :=
  ∀ before relayName now req after, run = before ++ .connect relayName now req :: after →
    Unforged sign secret (issued before) req

section Backed

variable {sign : Sign} {secret : String} {payloads : List SessionTokenPayload}

/-- A token of an unforged request is turned down, or it is read as one that was issued
    and has not expired. -/
theorem verifySessionToken_of_unforged {req : ConnectRequest} {token : String}
    (h : Unforged sign secret payloads req) (htoken : req.token = some token) (now : ℕ) :
    verifySessionToken sign token secret now = .ok none ∨
    ∃ p ∈ payloads, (now / 1000 : ℕ) ≤ p.expiresAt.val ∧
      verifySessionToken sign token secret now = .ok (some p.toJson) := by
  rcases verifySessionToken_cases sign token secret now with hnone | ⟨body, rest, hsplit, hread⟩
  · exact Or.inl hnone
  obtain ⟨p, hp, hbody⟩ := h token htoken body rest hsplit
  rw [hbody, readPayload_body] at hread
  by_cases hexpired : p.expiresAt.val < (now / 1000 : ℕ)
  · rw [if_pos hexpired] at hread
    exact Or.inl hread
  · rw [if_neg hexpired] at hread
    exact Or.inr ⟨p, hp, not_lt.mp hexpired, hread⟩

/-- The one dot of an issued token is behind the body that was signed. -/
theorem unforged_issue (hdot : ∀ body secret, '.' ∉ (sign body secret).toList)
    {p : SessionTokenPayload} (hp : p ∈ payloads) (target : Option String) :
    Unforged sign secret payloads ⟨target, some (issueSessionToken sign p secret)⟩ := by
  intro token htoken body rest hsplit
  obtain rfl := Option.some.inj htoken
  rw [toList_issue] at hsplit
  refine ⟨p, hp, ?_⟩
  rcases List.append_eq_append_iff.mp hsplit with ⟨between, hbody, hsign⟩ | ⟨between, hbody, hsign⟩
  · cases between with
    | nil => simpa using hbody
    | cons c between =>
      have hdot' : '.' ∈ (sign (String.ofList p.body) secret).toList := by
        rw [(List.cons.inj hsign).2]
        simp
      exact absurd hdot' (hdot _ _)
  · cases between with
    | nil => simpa using hbody.symm
    | cons c between =>
      obtain ⟨rfl, -⟩ := List.cons.inj hsign
      exact absurd (by rw [hbody]; simp) p.dot_not_mem_body

end Backed

/-- **Every tunnel is backed by an issued, unexpired, relay-bound token.**  In every run
    of unforged requests, a relay dials only where a token was issued before that names
    it and has not expired, and rejects every other request. -/
theorem connect_backed (sign : Sign) (secret : String) (run before after : List Action)
    {relayName : String} {now : ℕ} {req : ConnectRequest} (h : AllUnforged sign secret run)
    (hrun : run = before ++ .connect relayName now req :: after) :
    (∃ port targetHost,
      TunnelServer.connect ⟨secret, relayName⟩ sign now req = .ok [.dial port targetHost] ∧
      ∃ p ∈ issued before, p.relay = relayName ∧ (now / 1000 : ℕ) ≤ p.expiresAt.val) ∨
    (∃ effects, TunnelServer.connect ⟨secret, relayName⟩ sign now req = .ok effects ∧
      Rejects effects) := by
  have hunforged := h before relayName now req after hrun
  rcases connect_cases ⟨secret, relayName⟩ sign now req with hreject |
    ⟨token, payload, port, targetHost, htoken, hverify, hrelay, hdial⟩ | ⟨token, err, htoken, -, hthrow⟩
  · exact Or.inr hreject
  · rcases verifySessionToken_of_unforged hunforged htoken now with hnone | ⟨p, hp, hexpires, hp'⟩
    · cases hnone.symm.trans hverify
    · obtain rfl : p.toJson = payload := by simpa using hp'.symm.trans hverify
      rw [p.get_relay] at hrelay
      have hname : p.relay = relayName := String.toList_injective (utf16_injective (by simpa using hrelay))
      exact Or.inl ⟨port, targetHost, hdial, p, hp, hname, hexpires⟩
  · -- an issued payload is an object with its members, so nothing throws
    rcases verifySessionToken_of_unforged hunforged htoken now with hnone | ⟨p, -, -, hp'⟩
    · obtain ⟨value, hvalue, -⟩ := hthrow none hnone
      cases hvalue
    · obtain ⟨value, hvalue, hget⟩ := hthrow _ hp'
      obtain rfl := Option.some.inj hvalue
      cases hget _ p.get_relay

/-! ### A run -/

def samplePayload : SessionTokenPayload :=
  ⟨.ofNat 7 (by norm_num), "carol.dvod-test.eth", .lite, .ofNat 1 (by norm_num),
    .ofNat 1000003600 (by norm_num)⟩

/-- HMAC-SHA256 under "dev-only-insecure-secret" of the body of that token; other bodies
    are never signed in the run, and get a digest that no header of it holds. -/
def sampleSign : Sign := fun body _ =>
  if body = String.ofList samplePayload.body then "1jTLAdTwc8_ksNBFuKA9ILfx3V6LwFYbENnaTu8UBws"
  else "-------------------------------------------"

def sampleToken : String :=
  "eyJzZXNzaW9uSWQiOjcsInJlbGF5IjoiY2Fyb2wuZHZvZC10ZXN0LmV0aCIsInRpZXIiOiJsaXRlIiwiaG91cnMiOjEsI" ++
    "mV4cGlyZXNBdCI6MTAwMDAwMzYwMH0.1jTLAdTwc8_ksNBFuKA9ILfx3V6LwFYbENnaTu8UBws"

theorem issue_sample : issueSessionToken sampleSign samplePayload "dev-only-insecure-secret" = sampleToken := by
  decide +kernel

theorem sampleSign_ne (body secret : String) : sampleSign body secret ≠ "" := by
  unfold sampleSign
  split <;> decide

theorem sampleSign_no_dot (body secret : String) : '.' ∉ (sampleSign body secret).toList := by
  unfold sampleSign
  split <;> decide

theorem connect_backed_sample :
    let req : ConnectRequest := ⟨some "example.com:443", some sampleToken⟩
    (∃ port targetHost,
      TunnelServer.connect ⟨"dev-only-insecure-secret", "carol.dvod-test.eth"⟩ sampleSign
        1000000001000 req = .ok [.dial port targetHost] ∧
      ∃ p ∈ issued [.issue samplePayload], p.relay = "carol.dvod-test.eth" ∧
        (1000000001000 / 1000 : ℕ) ≤ p.expiresAt.val) ∨
    (∃ effects, TunnelServer.connect ⟨"dev-only-insecure-secret", "carol.dvod-test.eth"⟩ sampleSign
      1000000001000 req = .ok effects ∧ Rejects effects) := by
  intro req
  refine connect_backed sampleSign "dev-only-insecure-secret"
    [.issue samplePayload, .connect "carol.dvod-test.eth" 1000000001000 req]
    [.issue samplePayload] [] ?_ rfl
  intro before relayName now req' after hrun
  obtain ⟨rfl, rfl⟩ : before = [.issue samplePayload] ∧ req' = req := by
    rcases before with _ | ⟨a, _ | ⟨b, before⟩⟩
    · simp at hrun
    · simp only [List.cons_append, List.nil_append, List.cons.injEq, Action.connect.injEq] at hrun
      exact ⟨by rw [hrun.1], hrun.2.1.2.2.symm⟩
    · simp at hrun
  have hunforged : Unforged sampleSign "dev-only-insecure-secret" [samplePayload]
      ⟨some "example.com:443", some (issueSessionToken sampleSign samplePayload _)⟩ :=
    unforged_issue sampleSign_no_dot (List.mem_singleton_self _) _
  rwa [issue_sample] at hunforged

end DVoD.Relay
