import DVoD.Relay.Tunnel
import DVoD.Text.Decimal

/-!
# Targets of a CONNECT

The authority-form of a request target, and which targets the handler reads otherwise: it
looks at the first two pieces between colons, and reads the second one with `Number`.
-/

namespace DVoD.Relay

open DVoD.Session DVoD.Text DVoD.Text.JsNumber

/-! ### Authority-form -/

/-- A group of an IPv6 address. -/
def isHextet (piece : List Char) : Bool :=
  piece ≠ [] && piece.length ≤ 4 && piece.all fun c => (digitValue c).any (· < 16)

def isIPv4 (piece : List Char) : Bool :=
  let octets := piece.splitOn '.'
  octets.length = 4 && octets.all fun octet =>
    octet.all Char.isDigit && (octet = ['0'] || octet.head?.any (· ≠ '0')) && digitsValue 10 octet < 256

/-- How many groups the pieces are.  The last piece may be an IPv4 address. -/
def groups : List (List Char) → Option ℕ
  | [] => none
  | [piece] => if isHextet piece then some 1 else if isIPv4 piece then some 2 else none
  | piece :: pieces => if isHextet piece then (groups pieces).map (· + 1) else none

/-- The groups of one side of `::`, where there may be none. -/
def sideGroups (side : List Char) : Option ℕ :=
  if side = [] then some 0 else groups (side.splitOn ':')

/-- The text of an IPv6 address. -/
def IsIPv6 (address : List Char) : Prop :=
  groups (address.splitOn ':') = some 8 ∨
  ∃ front back m n, address = front ++ ':' :: ':' :: back ∧ sideGroups front = some m ∧
    '.' ∉ front ∧ sideGroups back = some n ∧ m + n < 8

def IsPort (port : ℤ) : Prop := 1 ≤ port ∧ port ≤ 65535

instance (port : ℤ) : Decidable (IsPort port) := inferInstanceAs (Decidable (_ ∧ _))

/-- `host ":" port`, the port in decimal digits. -/
def AuthorityForm (u host : List Char) (port : ℤ) : Prop :=
  ∃ digits n, u = host ++ ':' :: digits ∧ Denotes digits n ∧ port = n ∧ IsPort port ∧
    (host ≠ [] ∧ ':' ∉ host ∨ ∃ address, IsIPv6 address ∧ host = '[' :: address ++ [']'])

theorem groups_one {pieces : List (List Char)} (h : groups pieces = some 8) : 2 ≤ pieces.length := by
  match pieces with
  | [] => cases h
  | [piece] =>
    simp only [groups] at h
    split at h
    · cases h
    split at h
    · cases h
    · cases h
  | _ :: _ :: _ => simp

theorem IsIPv6.colon_mem {address : List Char} (h : IsIPv6 address) : ':' ∈ address := by
  rcases h with hgroups | ⟨front, back, m, n, rfl, -⟩
  · by_contra hnot
    have hlength := groups_one hgroups
    rw [List.splitOn_eq_singleton hnot] at hlength
    simp at hlength
  · simp

theorem colon_not_mem_of_digits {digits : List Char} (h : digits.all Char.isDigit = true) :
    ':' ∉ digits := by
  intro hmem
  have hcolon := List.all_eq_true.mp h ':' hmem
  exact absurd hcolon (by decide)

/-! ### What the handler reads -/

/-- The targets that the handler reads otherwise: an IPv6 address in brackets, and pieces
    that are not the authority-form, with a second one that `Number` takes for a port. -/
inductive Misread (u : List Char) : Prop
  | bracketed {address port} : AuthorityForm u ('[' :: address ++ [']']) port → IsIPv6 address → Misread u
  | lenient {host piece rest port} : u = host ++ ':' :: (piece ++ rest) → host ≠ [] → ':' ∉ host →
      ':' ∉ piece → (rest = [] ∨ ∃ rest', rest = ':' :: rest') →
      (ofChars piece).toInteger? = some port → IsPort port →
      (rest ≠ [] ∨ piece.all Char.isDigit = false) → Misread u

theorem dialPort_eq_some_iff {targetHost : List Char} {targetPort : JsNumber} {port : ℤ} :
    dialPort targetHost targetPort = some port ↔
      targetHost ≠ [] ∧ targetPort.toInteger? = some port ∧ IsPort port := by
  unfold dialPort IsPort
  split
  · next h => simp [h]
  next h =>
  simp only [Option.bind_eq_some_iff, Option.ite_none_left_eq_some, not_or, not_le, not_lt]
  constructor
  · rintro ⟨n, hn, hrange, heq⟩
    obtain rfl := Option.some.inj heq
    exact ⟨h, hn, by omega⟩
  · rintro ⟨-, hn, hrange⟩
    exact ⟨port, hn, by omega, rfl⟩

/-- What the handler dials, in terms of the pieces of the target. -/
theorem dialPort_target_iff (token : String) {u : String} {host : List Char} {port : ℤ} :
    (dialPort (ConnectRequest.target ⟨some u, some token⟩).1
        (ConnectRequest.target ⟨some u, some token⟩).2 = some port ∧
      (ConnectRequest.target ⟨some u, some token⟩).1 = host) ↔
    ∃ piece rest, u.toList = host ++ ':' :: (piece ++ rest) ∧ host ≠ [] ∧ ':' ∉ host ∧
      ':' ∉ piece ∧ (rest = [] ∨ ∃ rest', rest = ':' :: rest') ∧
      (ofChars piece).toInteger? = some port ∧ IsPort port := by
  rw [dialPort_eq_some_iff]
  unfold ConnectRequest.target
  simp only [Option.getD_some]
  rcases split_cases ':' u.toList with ⟨hnot, hsplit⟩ |
    ⟨host', piece', rest', hhost', hpiece', hrest', hu, hsplit⟩
  · rw [hsplit]
    constructor
    · rintro ⟨⟨-, hinteger, -⟩, -⟩
      cases hinteger
    · rintro ⟨piece, rest, hu, -⟩
      rw [hu] at hnot
      simp at hnot
  rw [hsplit]
  constructor
  · rintro ⟨⟨hne, hinteger, hport⟩, rfl⟩
    exact ⟨piece', rest', hu, hne, hhost', hpiece', hrest', hinteger, hport⟩
  · rintro ⟨piece, rest, hu', hne, hhost, hpiece, hrest, hinteger, hport⟩
    have hpieces := hsplit.symm.trans (hu' ▸ split_pieces hhost hpiece hrest)
    cases hpieces
    exact ⟨⟨hne, hinteger, hport⟩, rfl⟩

/-! ### Authorized requests -/

/-- The token makes the handler dial, if the target can be read. -/
def TunnelServer.Authorizes (server : TunnelServer) (sign : Sign) (now : ℕ) (token : String) : Prop :=
  ∃ payload, verifySessionToken sign token server.secret now = .ok (some payload) ∧
    payload.get "relay" = some (some (.string (utf16 server.relayName.toList)))

/-- The effects of the answer to a target that is turned down. -/
def BadRequest (effects : List Effect) : Prop :=
  ∃ event, effects = [.onEvent event, .write "HTTP/1.1 400 Bad Request\r\n\r\n", .finish]

section Authorized

variable {server : TunnelServer} {sign : Sign} {now : ℕ} {u token : String}

theorem connect_of_port (hauth : server.Authorizes sign now token) {req : ConnectRequest}
    (htoken : req.token = some token) {port : ℤ} (h : dialPort req.target.1 req.target.2 = some port) :
    server.connect sign now req = .ok [.dial port req.target.1] := by
  obtain ⟨payload, hverify, hrelay⟩ := hauth
  have hstrict : strictEq (some (.string (utf16 server.relayName.toList))) server.relayName := by
    simp [strictEq]
  simp only [TunnelServer.connect, h, htoken, hverify, truthy_of_relay hrelay, hrelay, hstrict,
    Bool.not_true, Bool.false_eq_true, if_false, if_true]

theorem connect_of_no_port
    (h : dialPort (ConnectRequest.target ⟨some u, some token⟩).1
      (ConnectRequest.target ⟨some u, some token⟩).2 = none) :
    ∃ effects, server.connect sign now ⟨some u, some token⟩ = .ok effects ∧ BadRequest effects := by
  simp only [TunnelServer.connect, h]
  exact ⟨_, rfl, _, rfl⟩

/-- An authorized request is dialled where its first two pieces say. -/
theorem connect_eq_dial_iff (hauth : server.Authorizes sign now token) {host : List Char} {port : ℤ} :
    server.connect sign now ⟨some u, some token⟩ = .ok [.dial port host] ↔
      ∃ piece rest, u.toList = host ++ ':' :: (piece ++ rest) ∧ host ≠ [] ∧ ':' ∉ host ∧
        ':' ∉ piece ∧ (rest = [] ∨ ∃ rest', rest = ':' :: rest') ∧
        (ofChars piece).toInteger? = some port ∧ IsPort port := by
  rw [← dialPort_target_iff token]
  constructor
  · intro hdial
    obtain ⟨hport, hhost⟩ := target_of_dial hdial
    exact ⟨hport, hhost.symm⟩
  · rintro ⟨hport, rfl⟩
    exact connect_of_port hauth rfl hport

/-- A target in authority-form is read as it is meant, unless its host is in brackets. -/
theorem pieces_of_authorityForm {host : List Char} {port : ℤ} (h : AuthorityForm u.toList host port)
    (hhost : ':' ∉ host) {host' piece rest : List Char} (hhost' : ':' ∉ host') (hpiece : ':' ∉ piece)
    (hrest : rest = [] ∨ ∃ rest', rest = ':' :: rest') (hu : u.toList = host' ++ ':' :: (piece ++ rest)) :
    rest = [] ∧ piece.all Char.isDigit = true := by
  obtain ⟨digits, n, hu', ⟨-, hall, -⟩, -, -⟩ := h
  have hdigits : ':' ∉ digits := colon_not_mem_of_digits hall
  have hsplit : split ':' u.toList = (host', some piece) := hu ▸ split_pieces hhost' hpiece hrest
  have hsplit' : split ':' u.toList = (host, some digits) := hu' ▸ split_append hhost hdigits
  cases hsplit.symm.trans hsplit'
  have hnil : rest = [] := by simpa using hu.symm.trans hu'
  exact ⟨hnil, hall⟩

theorem authorityForm_of_pieces {host piece : List Char} {port : ℤ} (hu : u.toList = host ++ ':' :: piece)
    (hne : host ≠ []) (hhost : ':' ∉ host) (hall : piece.all Char.isDigit = true)
    (hinteger : (ofChars piece).toInteger? = some port) (hport : IsPort port) :
    AuthorityForm u.toList host port := by
  have hpiece : piece ≠ [] := by
    rintro rfl
    obtain ⟨hpos, -⟩ := hport
    have hzero : some (0 : ℤ) = some port := hinteger
    rw [← Option.some.inj hzero] at hpos
    omega
  have hdenotes : Denotes piece (digitsValue 10 piece) := ⟨hpiece, hall, rfl⟩
  have hvalue := (toInteger?_ofChars 65535 hdenotes (by norm_num) hport.2).mp hinteger
  exact ⟨piece, _, hu, hdenotes, hvalue, hport, Or.inl ⟨hne, hhost⟩⟩

/-- **Which targets are read as the authority-form.** -/
theorem target_exact_iff (hauth : server.Authorizes sign now token) :
    ((∀ host port, server.connect sign now ⟨some u, some token⟩ = .ok [.dial port host] ↔
        AuthorityForm u.toList host port) ∧
      ((∀ host port, ¬ AuthorityForm u.toList host port) →
        ∃ effects, server.connect sign now ⟨some u, some token⟩ = .ok effects ∧ BadRequest effects)) ↔
      ¬ Misread u.toList := by
  constructor
  · rintro ⟨hdials, -⟩ hmisread
    cases hmisread with
    | @bracketed address port hform hip =>
      obtain ⟨_, _, -, -, hhost, -⟩ := (connect_eq_dial_iff hauth).mp ((hdials _ _).mpr hform)
      exact hhost (by simp [hip.colon_mem])
    | @lenient host piece rest port hu hne hhost hpiece hrest hinteger hport hlenient =>
      have hdial := (connect_eq_dial_iff hauth).mpr
        ⟨piece, rest, hu, hne, hhost, hpiece, hrest, hinteger, hport⟩
      obtain ⟨hnil, hall⟩ :=
        pieces_of_authorityForm ((hdials _ _).mp hdial) hhost hhost hpiece hrest hu
      rcases hlenient with hlenient | hlenient
      · exact hlenient hnil
      · exact Bool.false_ne_true (hlenient.symm.trans hall)
  · intro hnot
    have hdials (host : List Char) (port : ℤ) :
        server.connect sign now ⟨some u, some token⟩ = .ok [.dial port host] ↔
          AuthorityForm u.toList host port := by
      rw [connect_eq_dial_iff hauth]
      constructor
      · rintro ⟨piece, rest, hu, hne, hhost, hpiece, hrest, hinteger, hport⟩
        have hstrict : ¬ (rest ≠ [] ∨ piece.all Char.isDigit = false) := fun hlenient =>
          hnot (.lenient hu hne hhost hpiece hrest hinteger hport hlenient)
        rw [not_or, not_not, Bool.not_eq_false] at hstrict
        obtain ⟨rfl, hall⟩ := hstrict
        rw [List.append_nil] at hu
        exact authorityForm_of_pieces hu hne hhost hall hinteger hport
      · intro hform
        obtain ⟨digits, n, hu, hdenotes, rfl, hport, ⟨hne, hhost⟩ | ⟨address, hip, rfl⟩⟩ := id hform
        · have hdigits : ':' ∉ digits := colon_not_mem_of_digits hdenotes.2.1
          refine ⟨digits, [], by rw [hu, List.append_nil], hne, hhost, hdigits, Or.inl rfl, ?_, hport⟩
          exact (toInteger?_ofChars 65535 hdenotes (by norm_num) hport.2).mpr rfl
        · exact absurd (.bracketed hform hip) hnot
    refine ⟨hdials, ?_⟩
    intro hform
    rcases hport : dialPort (ConnectRequest.target ⟨some u, some token⟩).1
      (ConnectRequest.target ⟨some u, some token⟩).2 with _ | port
    · exact connect_of_no_port hport
    · exact absurd ((hdials _ _).mp (connect_of_port hauth rfl hport)) (hform _ _)

end Authorized

theorem sampleServer_authorizes : sampleServer.Authorizes sampleSign 1000000001000 sampleToken := by
  refine ⟨samplePayload.toJson, ?_, samplePayload.get_relay⟩
  have hverify := verifySessionToken_issue sampleSign_ne sampleSign_no_dot samplePayload
    "dev-only-insecure-secret" 1000000001000
  rw [issue_sample, if_neg (by decide)] at hverify
  exact hverify

theorem target_exact_iff_443 :
    ((∀ host port, sampleServer.connect sampleSign 1000000001000 ⟨some "example.com:443", some sampleToken⟩ =
          .ok [.dial port host] ↔ AuthorityForm "example.com:443".toList host port) ∧
      ((∀ host port, ¬ AuthorityForm "example.com:443".toList host port) →
        ∃ effects, sampleServer.connect sampleSign 1000000001000
          ⟨some "example.com:443", some sampleToken⟩ = .ok effects ∧ BadRequest effects)) ↔
      ¬ Misread "example.com:443".toList :=
  target_exact_iff sampleServer_authorizes

/-- What follows a second colon is not looked at. -/
theorem third_piece_dialled :
    sampleServer.Authorizes sampleSign 1000000001000 sampleToken ∧
    sampleServer.connect sampleSign 1000000001000 ⟨some "example.com:443:8443", some sampleToken⟩ =
      .ok [.dial 443 "example.com".toList] ∧
    ∀ host port, ¬ AuthorityForm "example.com:443:8443".toList host port := by
  have hu : "example.com:443:8443".toList =
      "example.com".toList ++ ':' :: ("443".toList ++ ":8443".toList) := by decide
  have hrest : ":8443".toList = [] ∨ ∃ rest', ":8443".toList = ':' :: rest' :=
    Or.inr ⟨"8443".toList, by decide⟩
  refine ⟨sampleServer_authorizes, ?_, ?_⟩
  · apply (connect_eq_dial_iff sampleServer_authorizes).mpr
    exact ⟨_, _, hu, by decide, by decide, by decide, hrest, by decide +kernel, by decide⟩
  · intro host port hform
    obtain ⟨digits, n, hu', -, -, -, ⟨-, hhost⟩ | ⟨address, -, rfl⟩⟩ := id hform
    · cases (pieces_of_authorityForm hform hhost (by decide) (by decide) hrest hu).1
    · cases (List.cons.inj hu').1

end DVoD.Relay
