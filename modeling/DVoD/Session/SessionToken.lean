import DVoD.Session.Tier
import DVoD.Text.Base64Url
import DVoD.Text.Stringify

/-!
# Session tokens

`session-token.ts`: `issueSessionToken` and `verifySessionToken`.  HMAC-SHA256 is the
parameter `sign`, from body and secret to the base64url digest.

* `parse_stringify` - the JSON of a payload is read back member by member;
* `verifySessionToken_cases` - a token that is not turned down holds the signature of its
  body;
* `verifySessionToken_issue` - an issued token verifies until it expires.
-/

namespace DVoD.Session

open DVoD.Text

structure SessionTokenPayload where
  sessionId : JsInt
  relay : String
  tier : Tier
  hours : JsInt
  expiresAt : JsInt

namespace SessionTokenPayload

variable (p : SessionTokenPayload)

/-- `JSON.stringify(payload)`. -/
def stringify : List Char :=
  '{' :: quote "sessionId" ++ ':' :: p.sessionId.print ++
  ',' :: quote "relay" ++ ':' :: quote p.relay ++
  ',' :: quote "tier" ++ ':' :: quote p.tier.name ++
  ',' :: quote "hours" ++ ':' :: p.hours.print ++
  ',' :: quote "expiresAt" ++ ':' :: p.expiresAt.print ++ ['}']

def toJson : Json :=
  .object [
    (utf16 "sessionId".toList, .number p.sessionId.toNumber),
    (utf16 "relay".toList, .string (utf16 p.relay.toList)),
    (utf16 "tier".toList, .string (utf16 p.tier.name.toList)),
    (utf16 "hours".toList, .number p.hours.toNumber),
    (utf16 "expiresAt".toList, .number p.expiresAt.toNumber)]

def body : List Char := Base64Url.encode (Utf8.encode p.stringify)

end SessionTokenPayload

open Json

section Parse

variable {members : List (JsString × Json)} {key : JsString} {value : Json} {stack : List Frame}

private theorem feed_colon (s : List Char) :
    feed ⟨.colon members key, stack⟩ (':' :: s) =
      feed ⟨.value false, .object members key :: stack⟩ s := rfl

private theorem feed_comma (s : List Char) :
    feed ⟨.after value, .object members key :: stack⟩ (',' :: s) =
      feed ⟨.key ((key, value) :: members) false, stack⟩ s := rfl

private theorem feed_comma_print (n : JsInt) (s : List Char) :
    feed ⟨.number n.print, .object members key :: stack⟩ (',' :: s) =
      feed ⟨.key ((key, .number n.toNumber) :: members) false, stack⟩ s := by
  rw [feed_cons, JsInt.step_print _ n rfl]
  rfl

private theorem feed_close_print (n : JsInt) :
    feed ⟨.number n.print, .object members key :: stack⟩ ['}'] =
      some ⟨.after (.object ((key, .number n.toNumber) :: members).reverse), stack⟩ := by
  rw [feed_cons, JsInt.step_print _ n rfl]
  rfl

private theorem feed_open (s : List Char) :
    feed ⟨.value false, []⟩ ('{' :: s) = feed ⟨.key [] true, []⟩ s := rfl

theorem parse_stringify (p : SessionTokenPayload) : parse p.stringify = some p.toJson := by
  simp only [parse, SessionTokenPayload.stringify, List.cons_append, List.append_assoc, feed_open,
    feed_append, feed_quote_key, feed_colon, JsInt.feed_print, feed_comma_print, feed_quote,
    feed_comma, Option.bind_some, feed_close_print]
  rfl

end Parse

/-! ### Issuing -/

/-- HMAC-SHA256 of a body under a secret, in base64url. -/
abbrev Sign := String → String → String

def issueSessionToken (sign : Sign) (payload : SessionTokenPayload) (secret : String) : String :=
  let body := String.ofList payload.body
  body ++ "." ++ sign body secret

theorem toList_issue (sign : Sign) (p : SessionTokenPayload) (secret : String) :
    (issueSessionToken sign p secret).toList =
      p.body ++ '.' :: (sign (String.ofList p.body) secret).toList := by
  simp [issueSessionToken]

/-! ### Verifying -/

inductive JsError where
  | SyntaxError
  | TypeError

mutual

/-- Whether `ToString` of a value throws: an object with a member `toString` does. -/
def toStringThrows : Json → Bool
  | .object members => (members.lookup (utf16 "toString".toList)).isSome
  | .array elements => anyThrows elements
  | _ => false

def anyThrows : List Json → Bool
  | [] => false
  | e :: es => toStringThrows e || anyThrows es

end

/-- The number that a string of code units spells; no numeral has a surrogate in it. -/
def numberOfUnits (s : JsString) : JsNumber := .ofChars (s.map fun unit => Char.ofNat unit.toNat)

/-- `ToNumber` of a value of JSON that is not `undefined`. -/
def toNumber : Json → JsNumber
  | .null => .finite 0
  | .bool b => .finite (if b then 1 else 0)
  | .number x => x
  | .string s => numberOfUnits s
  | .array [] => .finite 0
  | .array [.bool _] => .nan
  | .array [e] => toNumber e
  | .array _ => .nan
  | .object _ => .nan

/-- `value < n`, where `value` may be `undefined`. -/
def lessThan (value : Option Json) (n : ℤ) : Except JsError Bool :=
  match value with
  | none => .ok false
  | some value => if toStringThrows value then .error .TypeError else .ok ((toNumber value).ltInt n)

/-- The end of `verifySessionToken`: read the payload and check that it has not expired. -/
def readPayload (body : List Char) (now : ℕ) : Except JsError (Option Json) :=
  match parse (Utf8.decode (Base64Url.decode body)) with
  | none => .error .SyntaxError
  | some payload =>
      match payload.get "expiresAt" with
      | none => .error .TypeError
      | some expiresAt =>
          (lessThan expiresAt (now / 1000 : ℕ)).map fun expired =>
            if expired then none else some payload

/-- `verifySessionToken`, at the time `now` in milliseconds.  `timingSafeEqual` compares
    the bytes of the two signatures. -/
def verifySessionToken (sign : Sign) (token secret : String) (now : ℕ) :
    Except JsError (Option Json) :=
  match split '.' token.toList with
  | (_, none) => .ok none
  | (body, some signature) =>
      if body = [] ∨ signature = [] then .ok none
      else
        let expected := sign (String.ofList body) secret
        if Utf8.encode signature ≠ Utf8.encode expected.toList then .ok none
        else readPayload body now

/-! ### The members of a payload -/

namespace SessionTokenPayload

variable (p : SessionTokenPayload)

theorem get_relay : p.toJson.get "relay" = some (some (.string (utf16 p.relay.toList))) := rfl

theorem get_expiresAt :
    p.toJson.get "expiresAt" = some (some (.number p.expiresAt.toNumber)) := rfl

theorem parse_body : parse (Utf8.decode (Base64Url.decode p.body)) = some p.toJson := by
  rw [body, Base64Url.decode_encode, Utf8.decode_encode, parse_stringify]

theorem body_ne_nil : p.body ≠ [] := by
  intro h
  have hparse := p.parse_body
  rw [h] at hparse
  cases hparse

theorem dot_not_mem_body : '.' ∉ p.body := Base64Url.dot_not_mem_encode _

end SessionTokenPayload

theorem lessThan_number (n : JsInt) (k : ℤ) :
    lessThan (some (.number n.toNumber)) k = .ok (decide (n.val < k)) := by
  simp [lessThan, toStringThrows, toNumber, JsInt.toNumber]

/-! ### Verification -/

theorem readPayload_body (p : SessionTokenPayload) (now : ℕ) :
    readPayload p.body now =
      .ok (if p.expiresAt.val < (now / 1000 : ℕ) then none else some p.toJson) := by
  simp only [readPayload, p.parse_body, p.get_expiresAt, lessThan_number, Except.map,
    decide_eq_true_eq]

theorem verifySessionToken_cases (sign : Sign) (token secret : String) (now : ℕ) :
    verifySessionToken sign token secret now = .ok none ∨
    ∃ body rest, token.toList = body ++ '.' :: ((sign (String.ofList body) secret).toList ++ rest) ∧
      verifySessionToken sign token secret now = readPayload body now := by
  simp only [verifySessionToken]
  split
  · exact Or.inl rfl
  next body signature hsplit =>
  split
  · exact Or.inl rfl
  split
  · exact Or.inl rfl
  next hsignature =>
  obtain ⟨rest, htoken⟩ := split_eq_some hsplit
  rw [Utf8.encode_injective (not_not.mp hsignature)] at htoken
  exact Or.inr ⟨body, rest, htoken, rfl⟩

/-- **An issued token verifies until it expires.** -/
theorem verifySessionToken_issue {sign : Sign} (hne : ∀ body secret, sign body secret ≠ "")
    (hdot : ∀ body secret, '.' ∉ (sign body secret).toList) (p : SessionTokenPayload)
    (secret : String) (now : ℕ) :
    verifySessionToken sign (issueSessionToken sign p secret) secret now =
      .ok (if p.expiresAt.val < (now / 1000 : ℕ) then none else some p.toJson) := by
  have hsignature : (sign (String.ofList p.body) secret).toList ≠ [] := fun h =>
    hne _ _ (String.toList_eq_nil_iff.mp h)
  simp only [verifySessionToken, toList_issue, split_append p.dot_not_mem_body (hdot _ _),
    p.body_ne_nil, hsignature, or_self, if_false, ne_eq, not_true_eq_false, readPayload_body]

/-! ### Tokens that make the verifier throw -/

/-- The token is a body with its signature. -/
def Signed (sign : Sign) (secret token : String) (body : List Char) : Prop :=
  split '.' token.toList = (body, some (sign (String.ofList body) secret).toList) ∧ body ≠ [] ∧
    sign (String.ofList body) secret ≠ ""

def tokenPayload (token : String) : Option Json :=
  parse (Utf8.decode (Base64Url.decode (split '.' token.toList).1))

/-- The payload has an `expiresAt` that is past. -/
def Expired (payload : Json) (now : ℕ) : Prop :=
  ∃ expiresAt, payload.get "expiresAt" = some (some expiresAt) ∧
    lessThan (some expiresAt) (now / 1000 : ℕ) = .ok true

/-- The payload is not JSON, or is `null`, or a member of it that is read has no text. -/
inductive Unusable (now : ℕ) : Option Json → Prop
  | notJson : Unusable now none
  | null : Unusable now (some .null)
  | expiresAt {payload value} : payload.get "expiresAt" = some (some value) →
      toStringThrows value = true → Unusable now (some payload)
  | relay {payload value} : ¬ Expired payload now → payload.get "relay" = some (some value) →
      toStringThrows value = true → Unusable now (some payload)

theorem expired_toJson (p : SessionTokenPayload) (now : ℕ) :
    Expired p.toJson now ↔ p.expiresAt.val < (now / 1000 : ℕ) := by
  unfold Expired
  rw [p.get_expiresAt]
  constructor
  · rintro ⟨expiresAt, heq, hless⟩
    obtain rfl := Option.some.inj (Option.some.inj heq)
    rw [lessThan_number] at hless
    exact of_decide_eq_true (Except.ok.inj hless)
  · intro hless
    refine ⟨_, rfl, ?_⟩
    rw [lessThan_number, decide_eq_true hless]

theorem tokenPayload_issue {sign : Sign} (hdot : ∀ body secret, '.' ∉ (sign body secret).toList)
    (p : SessionTokenPayload) (secret : String) :
    tokenPayload (issueSessionToken sign p secret) = some p.toJson := by
  have hbody : (split '.' (issueSessionToken sign p secret).toList).1 = p.body := by
    rw [toList_issue, split_append p.dot_not_mem_body (hdot _ _)]
  rw [tokenPayload, hbody, p.parse_body]

theorem get_eq_none_iff {payload : Json} {key : String} : payload.get key = none ↔ payload = .null := by
  cases payload <;> simp [Json.get]

theorem lessThan_cases (value : Option Json) (n : ℤ) :
    (∃ json, value = some json ∧ toStringThrows json = true ∧ lessThan value n = .error .TypeError) ∨
    ((∀ json, value = some json → toStringThrows json = false) ∧ ∃ b, lessThan value n = .ok b) := by
  rcases value with _ | json
  · exact Or.inr ⟨(fun _ h => nomatch h), false, rfl⟩
  · rcases hthrows : toStringThrows json with _ | _
    · refine Or.inr ⟨?_, _, by rw [lessThan, hthrows]; rfl⟩
      intro json' heq
      exact Option.some.inj heq ▸ hthrows
    · exact Or.inl ⟨json, rfl, hthrows, by rw [lessThan, hthrows]; rfl⟩

section Verify

variable {sign : Sign} {token secret : String} {body : List Char} {now : ℕ}

theorem Signed.tokenPayload_eq (h : Signed sign secret token body) :
    tokenPayload token = parse (Utf8.decode (Base64Url.decode body)) := by
  rw [tokenPayload, h.1]

theorem verifySessionToken_of_signed (h : Signed sign secret token body) :
    verifySessionToken sign token secret now = readPayload body now := by
  have hsignature : (sign (String.ofList body) secret).toList ≠ [] := fun heq =>
    h.2.2 (String.toList_eq_nil_iff.mp heq)
  simp only [verifySessionToken, h.1, h.2.1, hsignature, or_self, if_false, ne_eq, not_true_eq_false]

theorem verifySessionToken_of_not_signed (h : ∀ body, ¬ Signed sign secret token body) :
    verifySessionToken sign token secret now = .ok none := by
  simp only [verifySessionToken]
  split
  · rfl
  next body signature hsplit =>
  split
  · rfl
  next hne =>
  split
  · rfl
  next hsignature =>
  have heq := Utf8.encode_injective (not_not.mp hsignature)
  rw [not_or] at hne
  refine absurd ⟨?_, hne.1, ?_⟩ (h body)
  · rw [hsplit, heq]
  · intro hempty
    rw [heq, hempty] at hne
    exact hne.2 rfl

/-- What the reading of a payload comes to. -/
theorem readPayload_cases (body : List Char) (now : ℕ) :
    (∃ err, readPayload body now = .error err ∧
      Unusable now (parse (Utf8.decode (Base64Url.decode body)))) ∨
    (∃ payload, parse (Utf8.decode (Base64Url.decode body)) = some payload ∧
      (∀ value, payload.get "expiresAt" = some (some value) → toStringThrows value = false) ∧
      payload ≠ .null ∧
      ((readPayload body now = .ok none ∧ Expired payload now) ∨
        (readPayload body now = .ok (some payload) ∧ ¬ Expired payload now))) := by
  unfold readPayload
  rcases parse (Utf8.decode (Base64Url.decode body)) with _ | payload
  · exact Or.inl ⟨_, rfl, .notJson⟩
  rcases hget : payload.get "expiresAt" with _ | expiresAt
  · obtain rfl := get_eq_none_iff.mp hget
    exact Or.inl ⟨_, rfl, .null⟩
  have hnull : payload ≠ .null := fun heq => nomatch hget.symm.trans (get_eq_none_iff.mpr heq)
  rcases lessThan_cases expiresAt (now / 1000 : ℕ) with ⟨json, rfl, hthrows, hless⟩ | ⟨hno, b, hless⟩
  · refine Or.inl ⟨.TypeError, ?_, .expiresAt hget hthrows⟩
    simp only [hget, hless]
    rfl
  · refine Or.inr ⟨payload, rfl, ?_, hnull, ?_⟩
    · intro value heq
      exact hno value (Option.some.inj (hget.symm.trans heq))
    · have hexpired : Expired payload now ↔ b = true := by
        constructor
        · rintro ⟨value, hvalue, htrue⟩
          obtain rfl := Option.some.inj (hget.symm.trans hvalue)
          exact Except.ok.inj (hless.symm.trans htrue)
        · rintro rfl
          rcases expiresAt with _ | value
          · cases hless
          · exact ⟨value, hget, hless⟩
      simp only [hget, hless, Except.map, hexpired]
      cases b <;> simp

end Verify

end DVoD.Session
