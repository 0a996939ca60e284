import DVoD.Relay.TunnelSafety

/-!
# Session tokens of the macOS client

`SessionToken.swift`: what the app shows of a token.  It reads the body with the base64
decoder of Foundation, which knows the other alphabet and wants its padding, and with
`JSONDecoder`, which reads the JSON that `JSON.parse` reads.
-/

namespace DVoD.MacClient

open DVoD.Session DVoD.Text

structure SessionTokenPayload where
  sessionId : ℤ
  relay : String
  tier : String
  hours : ℤ
  expiresAt : JsNumber
deriving DecidableEq

/-! ### Base64 -/

/-- `while base64.count % 4 != 0 { base64 += "=" }`, inside the braces and out. -/
def pad (base64 : List Char) : List Char :=
  if base64.length % 4 ≠ 0 then pad (base64 ++ ['=']) else base64
termination_by (4 - base64.length % 4) % 4
decreasing_by
  rw [List.length_append, List.length_singleton]
  omega

/-- The sextet of a character of the standard alphabet. -/
def standardSextet (c : Char) : Option ℕ :=
  if c = '-' ∨ c = '_' then none else Base64Url.sextet c

/-- `Data(base64Encoded:)`. -/
def dataOfBase64 (base64 : List Char) : Option (List UInt8) :=
  let padding := base64.dropWhile (· ≠ '=')
  if base64.length % 4 ≠ 0 ∨ 2 < padding.length ∨ !padding.all (· = '=') then none
  else
    ((base64.takeWhile (· ≠ '=')).mapM standardSextet).map fun sextets =>
      (Base64Url.bytes sextets).map UInt8.ofNat

/-- The two calls of `replacingOccurrences`. -/
def replace (c : Char) : Char := if c = '-' then '+' else if c = '_' then '/' else c

/-! ### The payload -/

/-- A value that `decode(Int.self)` takes. -/
def intOfJson : Json → Option ℤ
  | .number x => x.toInteger?.bind fun n => if -2 ^ 63 ≤ n ∧ n < 2 ^ 63 then some n else none
  | _ => none

def stringOfJson : Json → Option String
  | .string units => (ofUtf16 units).map String.ofList
  | _ => none

def doubleOfJson : Json → Option JsNumber
  | .number x => some x
  | _ => none

/-- The member of an object that a key of the container asks for. -/
def member (value : Json) (key : String) : Option Json := (value.get key).join

def payloadOfJson (value : Json) : Option SessionTokenPayload := do
  let sessionId ← (member value "sessionId").bind intOfJson
  let relay ← (member value "relay").bind stringOfJson
  let tier ← (member value "tier").bind stringOfJson
  let hours ← (member value "hours").bind intOfJson
  let expiresAt ← (member value "expiresAt").bind doubleOfJson
  return ⟨sessionId, relay, tier, hours, expiresAt⟩

/-- `JSONDecoder().decode`, which does not take bytes that are not UTF-8. -/
def decodeJson (data : List UInt8) : Option SessionTokenPayload :=
  if Utf8.encode (Utf8.decode data) = data then (Json.parse (Utf8.decode data)).bind payloadOfJson
  else none

/-- `SessionTokenPayload.decode`.  The first piece of a split is the first that is not empty. -/
def decode (token : String) : Option SessionTokenPayload :=
  match (token.toList.dropWhile (· = '.')).takeWhile (· ≠ '.') with
  | [] => none
  | body => (dataOfBase64 (pad (body.map replace))).bind decodeJson

/-! ### The decoder on encoded bytes -/

theorem pad_eq (base64 : List Char) :
    pad base64 = base64 ++ List.replicate ((4 - base64.length % 4) % 4) '=' := by
  induction base64 using pad.induct with
  | case1 base64 h ih =>
    rw [pad, if_pos h, ih, List.length_append, List.length_singleton, List.append_assoc,
      List.singleton_append, ← List.replicate_succ]
    congr 2
    omega
  | case2 base64 h =>
    have hzero : (4 - base64.length % 4) % 4 = 0 := by omega
    rw [pad, if_neg h, hzero, List.replicate_zero, List.append_nil]

theorem standardSextet_replace {n : ℕ} (h : n < 64) :
    standardSextet (replace (Base64Url.digit n)) = some n := by
  revert n
  decide

theorem replace_digit_ne_pad {n : ℕ} (h : n < 64) : replace (Base64Url.digit n) ≠ '=' := by
  revert n
  decide

/-- Some bytes never leave one character over. -/
theorem length_sextets_mod (bs : List ℕ) : (Base64Url.sextets bs).length % 4 ≠ 1 := by
  induction bs using Base64Url.sextets.induct with
  | case1 => decide
  | case2 a => simp [Base64Url.sextets]
  | case3 a b => simp [Base64Url.sextets]
  | case4 a b c rest ih =>
    simp only [Base64Url.sextets, List.length_cons]
    omega

theorem mapM_standardSextet {sextets : List ℕ} (h : ∀ n ∈ sextets, n < 64) :
    (sextets.map fun n => replace (Base64Url.digit n)).mapM standardSextet = some sextets := by
  induction sextets with
  | nil => rfl
  | cons n sextets ih =>
    have hn := h n List.mem_cons_self
    rw [List.map_cons, List.mapM_cons, standardSextet_replace hn,
      ih fun m hm => h m (List.mem_cons_of_mem _ hm)]
    rfl

/-- A padded body is split where it was padded. -/
theorem dataOfBase64_pad {base64 : List Char} (hpad : '=' ∉ base64) (hlength : base64.length % 4 ≠ 1) :
    dataOfBase64 (pad base64) = (base64.mapM standardSextet).map fun sextets =>
      (Base64Url.bytes sextets).map UInt8.ofNat := by
  generalize hk : (4 - base64.length % 4) % 4 = k
  have hstart : List.replicate k '=' = [] ∨ ∃ rest, List.replicate k '=' = '=' :: rest := by
    cases k with
    | zero => exact Or.inl rfl
    | succ k => exact Or.inr ⟨_, List.replicate_succ⟩
  obtain ⟨htake, hdrop⟩ := takeWhile_append_separator hpad hstart
  have hall : (List.replicate k '=').all (· = '=') = true := by simp
  unfold dataOfBase64
  rw [pad_eq, hk, htake, hdrop, if_neg]
  rw [hall, List.length_append, List.length_replicate]
  simp only [Bool.not_true, Bool.false_eq_true, or_false, not_or]
  omega

theorem dataOfBase64_encode (bs : List UInt8) :
    dataOfBase64 (pad ((Base64Url.encode bs).map replace)) = some bs := by
  have hbytes : ∀ b ∈ bs.map UInt8.toNat, b < 256 := by
    intro b hb
    obtain ⟨b, -, rfl⟩ := List.mem_map.mp hb
    exact b.toNat_lt
  have hlt := Base64Url.lt_of_mem_sextets hbytes
  have hmap : (Base64Url.encode bs).map replace =
      (Base64Url.sextets (bs.map UInt8.toNat)).map fun n => replace (Base64Url.digit n) := List.map_map
  have hpad : '=' ∉ (Base64Url.encode bs).map replace := by
    rw [hmap]
    intro h
    obtain ⟨n, hn, heq⟩ := List.mem_map.mp h
    exact replace_digit_ne_pad (hlt n hn) heq
  have hlength : ((Base64Url.encode bs).map replace).length % 4 ≠ 1 := by
    rw [hmap, List.length_map]
    exact length_sextets_mod _
  rw [dataOfBase64_pad hpad hlength, hmap, mapM_standardSextet hlt, Option.map_some,
    Base64Url.bytes_sextets hbytes, List.map_map]
  exact congrArg some ((List.map_congr_left fun b _ => UInt8.ofNat_toNat).trans (List.map_id _))

/-! ### The payload of an issued token -/

theorem intOfJson_toNumber {n : JsInt} (h : |n.val| < 2 ^ 53) :
    intOfJson (.number n.toNumber) = some n.val := by
  obtain ⟨hlow, hhigh⟩ := abs_lt.mp h
  rw [intOfJson, JsInt.toNumber, JsNumber.toInteger?_intCast, Option.bind_some, if_pos]
  omega

theorem stringOfJson_utf16 (s : String) : stringOfJson (.string (utf16 s.toList)) = some s := by
  rw [stringOfJson, ofUtf16_utf16, Option.map_some, String.ofList_toList]

theorem payloadOfJson_toJson {p : Session.SessionTokenPayload} (hsessionId : |p.sessionId.val| < 2 ^ 53)
    (hhours : |p.hours.val| < 2 ^ 53) : payloadOfJson p.toJson =
      some ⟨p.sessionId.val, p.relay, p.tier.name, p.hours.val, p.expiresAt.toNumber⟩ := by
  have hmember : member p.toJson "sessionId" = some (.number p.sessionId.toNumber) ∧
      member p.toJson "relay" = some (.string (utf16 p.relay.toList)) ∧
      member p.toJson "tier" = some (.string (utf16 p.tier.name.toList)) ∧
      member p.toJson "hours" = some (.number p.hours.toNumber) ∧
      member p.toJson "expiresAt" = some (.number p.expiresAt.toNumber) := ⟨rfl, rfl, rfl, rfl, rfl⟩
  obtain ⟨hid, hrelay, htier, hh, hexpires⟩ := hmember
  unfold payloadOfJson
  rw [hid, hrelay, htier, hh, hexpires, Option.bind_some, Option.bind_some, Option.bind_some,
    Option.bind_some, Option.bind_some, intOfJson_toNumber hsessionId, stringOfJson_utf16,
    stringOfJson_utf16, intOfJson_toNumber hhours]
  rfl

/-- The digests that `digest("base64url")` gives for SHA-256. -/
def IsDigest (sign : Sign) : Prop :=
  ∀ body secret, ∃ digest : List UInt8, digest.length = 32 ∧
    sign body secret = String.ofList (Base64Url.encode digest)

theorem IsDigest.ne_empty {sign : Sign} (hsign : IsDigest sign) (body secret : String) :
    sign body secret ≠ "" := by
  obtain ⟨digest, hlength, heq⟩ := hsign body secret
  intro hempty
  have hnil : Base64Url.encode digest = [] := by
    rw [heq] at hempty
    exact String.ofList_injective hempty
  have hdecode := Base64Url.decode_encode digest
  rw [hnil] at hdecode
  rw [← hdecode] at hlength
  cases hlength

theorem IsDigest.dot_not_mem {sign : Sign} (hsign : IsDigest sign) (body secret : String) :
    '.' ∉ (sign body secret).toList := by
  obtain ⟨digest, -, heq⟩ := hsign body secret
  rw [heq, String.toList_ofList]
  exact Base64Url.dot_not_mem_encode digest

theorem decode_issue {sign : Sign} (p : Session.SessionTokenPayload) (secret : String)
    (hsessionId : |p.sessionId.val| < 2 ^ 53) (hhours : |p.hours.val| < 2 ^ 53) :
    decode (issueSessionToken sign p secret) =
      some ⟨p.sessionId.val, p.relay, p.tier.name, p.hours.val, p.expiresAt.toNumber⟩ := by
  have hpiece : ((issueSessionToken sign p secret).toList.dropWhile (· = '.')).takeWhile (· ≠ '.') =
      p.body := by
    rw [toList_issue]
    cases hbody : p.body with
    | nil => exact absurd hbody p.body_ne_nil
    | cons c cs =>
      have hdot : '.' ∉ c :: cs := hbody ▸ p.dot_not_mem_body
      have hc : c ≠ '.' := fun heq => hdot (heq ▸ List.mem_cons_self)
      rw [List.cons_append, List.dropWhile_cons_of_neg (by simpa using hc), ← List.cons_append]
      exact (takeWhile_append_separator hdot (Or.inr ⟨_, rfl⟩)).1
  have hjson : decodeJson (Utf8.encode p.stringify) =
      some ⟨p.sessionId.val, p.relay, p.tier.name, p.hours.val, p.expiresAt.toNumber⟩ := by
    unfold decodeJson
    rw [Utf8.decode_encode, if_pos rfl, parse_stringify, Option.bind_some,
      payloadOfJson_toJson hsessionId hhours]
  unfold decode
  rw [hpiece]
  split
  · next hnil => exact absurd hnil p.body_ne_nil
  · rw [Session.SessionTokenPayload.body, dataOfBase64_encode, Option.bind_some, hjson]

/-- **A token reads the same on both sides.** -/
theorem token_round_trip {sign : Sign} (hsign : IsDigest sign) (p : Session.SessionTokenPayload)
    (secret : String) (now : ℕ) (hsessionId : |p.sessionId.val| < 2 ^ 53)
    (hhours : |p.hours.val| < 2 ^ 53) :
    verifySessionToken sign (issueSessionToken sign p secret) secret now =
      .ok (if (now / 1000 : ℕ) ≤ p.expiresAt.val then some p.toJson else none) ∧
    decode (issueSessionToken sign p secret) =
      some ⟨p.sessionId.val, p.relay, p.tier.name, p.hours.val, p.expiresAt.toNumber⟩ := by
  refine ⟨?_, decode_issue p secret hsessionId hhours⟩
  rw [verifySessionToken_issue hsign.ne_empty hsign.dot_not_mem]
  by_cases hexpired : p.expiresAt.val < (now / 1000 : ℕ)
  · rw [if_pos hexpired, if_neg (not_le.mpr hexpired)]
  · rw [if_neg hexpired, if_pos (not_lt.mp hexpired)]

/-- HMAC-SHA256 under "dev-only-insecure-secret", for the one body that is asked for. -/
def sampleHmac : Sign := fun body _ =>
  String.ofList (Base64Url.encode
    (if body = String.ofList Relay.samplePayload.body then
      Base64Url.decode "1jTLAdTwc8_ksNBFuKA9ILfx3V6LwFYbENnaTu8UBws".toList
    else List.replicate 32 0))

theorem isDigest_sampleHmac : IsDigest sampleHmac := by
  intro body secret
  refine ⟨_, ?_, rfl⟩
  split
  · decide +kernel
  · exact List.length_replicate

theorem token_round_trip_sample :
    verifySessionToken sampleHmac
        (issueSessionToken sampleHmac Relay.samplePayload "dev-only-insecure-secret")
        "dev-only-insecure-secret" 1000000001000 =
      .ok (if (1000000001000 / 1000 : ℕ) ≤ Relay.samplePayload.expiresAt.val then
        some Relay.samplePayload.toJson else none) ∧
    decode (issueSessionToken sampleHmac Relay.samplePayload "dev-only-insecure-secret") =
      some ⟨7, "carol.dvod-test.eth", "lite", 1, .finite 1000003600⟩ :=
  token_round_trip isDigest_sampleHmac Relay.samplePayload "dev-only-insecure-secret" 1000000001000
    (by decide) (by decide)

end DVoD.MacClient
