import DVoD.Relay.TunnelSafety

/-!
# Tokens as strings

Which strings a verifier accepts.  It reads two pieces between dots and looks no further,
so an issued token is accepted with more pieces behind it: `accepts_iff`.
-/

namespace DVoD.Relay

open DVoD.Session DVoD.Text

section Accepts

variable {sign : Sign} (hne : ∀ body secret, sign body secret ≠ "")
  (hdot : ∀ body secret, '.' ∉ (sign body secret).toList) {secret token : String} {body : List Char}
  {payloads : List SessionTokenPayload} {now : ℕ}

/-- The client that made up the string has signatures only of bodies that were issued, and
    puts no other signature behind a body. -/
def UnforgedToken (sign : Sign) (secret : String) (payloads : List SessionTokenPayload)
    (token : String) : Prop :=
  Unforged sign secret payloads ⟨none, some token⟩

theorem toList_of_signed (h : Signed sign secret token body) :
    ∃ rest, (rest = [] ∨ ∃ rest', rest = '.' :: rest') ∧
      token.toList = body ++ '.' :: ((sign (String.ofList body) secret).toList ++ rest) := by
  rcases split_cases '.' token.toList with ⟨-, hsplit⟩ | ⟨_, _, rest, -, -, hrest, htoken, hsplit⟩
  · cases h.1.symm.trans hsplit
  · obtain ⟨rfl, hsignature⟩ := Prod.mk.inj (h.1.symm.trans hsplit)
    rw [Option.some.inj hsignature]
    exact ⟨rest, hrest, htoken⟩

include hne hdot

theorem signed_of_issue {p : SessionTokenPayload} {rest : List Char}
    (hrest : rest = [] ∨ ∃ rest', rest = '.' :: rest')
    (htoken : token.toList = (issueSessionToken sign p secret).toList ++ rest) :
    Signed sign secret token p.body := by
  refine ⟨?_, p.body_ne_nil, hne _ _⟩
  rw [htoken, toList_issue, List.append_assoc, List.cons_append,
    split_pieces p.dot_not_mem_body (hdot _ _) hrest]

/-- An issued token, with or without anything behind a further dot, is read as it is. -/
theorem verifySessionToken_of_issue (p : SessionTokenPayload) (now : ℕ) {rest : List Char}
    (hrest : rest = [] ∨ ∃ rest', rest = '.' :: rest')
    (htoken : token.toList = (issueSessionToken sign p secret).toList ++ rest) :
    verifySessionToken sign token secret now =
      .ok (if p.expiresAt.val < (now / 1000 : ℕ) then none else some p.toJson) := by
  rw [verifySessionToken_of_signed (signed_of_issue hne hdot hrest htoken), readPayload_body]

/-- The strings that are accepted. -/
theorem accepts_iff (h : UnforgedToken sign secret payloads token) :
    (∃ payload, verifySessionToken sign token secret now = .ok (some payload)) ↔
      ∃ p ∈ payloads, (now / 1000 : ℕ) ≤ p.expiresAt.val ∧
        ∃ rest, (rest = [] ∨ ∃ rest', rest = '.' :: rest') ∧
          token.toList = (issueSessionToken sign p secret).toList ++ rest := by
  constructor
  · rintro ⟨payload, hverify⟩
    by_cases hsigned : ∃ body, Signed sign secret token body
    · obtain ⟨body, hsigned⟩ := hsigned
      obtain ⟨rest, hrest, htoken⟩ := toList_of_signed hsigned
      obtain ⟨p, hp, hbody⟩ := h token rfl body rest htoken
      -- rewritten, since a substitution would evaluate `p.body`
      rw [hbody] at hsigned htoken
      rw [verifySessionToken_of_signed hsigned, readPayload_body] at hverify
      refine ⟨p, hp, ?_, rest, hrest, by rw [htoken, toList_issue]; simp⟩
      by_contra hexpired
      rw [if_pos (not_le.mp hexpired)] at hverify
      cases hverify
    · rw [verifySessionToken_of_not_signed (not_exists.mp hsigned)] at hverify
      cases hverify
  · rintro ⟨p, -, hexpires, rest, hrest, htoken⟩
    refine ⟨p.toJson, ?_⟩
    rw [verifySessionToken_of_issue hne hdot p now hrest htoken, if_neg (not_lt.mpr hexpires)]

/-- An issued token has one dot. -/
theorem eq_nil_of_issue {p q : SessionTokenPayload} {rest : List Char}
    (hrest : rest = [] ∨ ∃ rest', rest = '.' :: rest')
    (h : (issueSessionToken sign q secret).toList = (issueSessionToken sign p secret).toList ++ rest) :
    rest = [] := by
  have hp := (signed_of_issue hne hdot hrest h).1
  have hself : (issueSessionToken sign q secret).toList = (issueSessionToken sign q secret).toList ++ [] :=
    (List.append_nil _).symm
  have hq := (signed_of_issue hne hdot (Or.inl rfl) hself).1
  obtain ⟨hbody, -⟩ := Prod.mk.inj (hq.symm.trans hp)
  rw [toList_issue, toList_issue, hbody] at h
  simpa using h

/-- **Where accepted strings are issued tokens**: everywhere but where an issued token that
    has not expired is followed by a dot. -/
theorem accepted_issued_iff (h : UnforgedToken sign secret payloads token) :
    ((∃ payload, verifySessionToken sign token secret now = .ok (some payload)) →
      ∃ p ∈ payloads, token = issueSessionToken sign p secret) ↔
    ¬ ∃ p ∈ payloads, (now / 1000 : ℕ) ≤ p.expiresAt.val ∧
        ∃ rest, token.toList = (issueSessionToken sign p secret).toList ++ '.' :: rest := by
  constructor
  · rintro hissued ⟨p, hp, hexpires, rest, htoken⟩
    have hrest : '.' :: rest = [] ∨ ∃ rest', '.' :: rest = '.' :: rest' := Or.inr ⟨rest, rfl⟩
    obtain ⟨q, -, rfl⟩ := hissued ((accepts_iff hne hdot h).mpr ⟨p, hp, hexpires, _, hrest, htoken⟩)
    cases eq_nil_of_issue hne hdot hrest htoken
  · intro hnot haccepted
    obtain ⟨p, hp, hexpires, rest, rfl | ⟨rest', rfl⟩, htoken⟩ := (accepts_iff hne hdot h).mp haccepted
    · rw [List.append_nil] at htoken
      exact ⟨p, hp, String.toList_injective htoken⟩
    · exact absurd ⟨p, hp, hexpires, rest', htoken⟩ hnot

end Accepts

/-- A string that does not hold the digest of the unsigned bodies. -/
theorem unforgedToken_sample {token : String}
    (h : ¬ "-------------------------------------------".toList <:+: token.toList) :
    UnforgedToken sampleSign "dev-only-insecure-secret" [samplePayload] token := by
  intro token' htoken body rest hsplit
  obtain rfl := Option.some.inj htoken
  refine ⟨samplePayload, List.mem_singleton_self _, ?_⟩
  by_contra hne
  rw [sampleSign, if_neg fun hbody => hne (String.ofList_injective hbody)] at hsplit
  exact h ⟨body ++ ['.'], rest, by rw [hsplit]; simp⟩

theorem accepted_issued_iff_sample :
    ((∃ payload, verifySessionToken sampleSign sampleToken "dev-only-insecure-secret" 1000000001000 =
        .ok (some payload)) →
      ∃ p ∈ [samplePayload], sampleToken = issueSessionToken sampleSign p "dev-only-insecure-secret") ↔
    ¬ ∃ p ∈ [samplePayload], (1000000001000 / 1000 : ℕ) ≤ p.expiresAt.val ∧
        ∃ rest, sampleToken.toList =
          (issueSessionToken sampleSign p "dev-only-insecure-secret").toList ++ '.' :: rest :=
  accepted_issued_iff sampleSign_ne sampleSign_no_dot (unforgedToken_sample (by decide +kernel))

/-- A piece that nobody looks at. -/
theorem appended_accepted :
    UnforgedToken sampleSign "dev-only-insecure-secret" [samplePayload] (sampleToken ++ ".x") ∧
    verifySessionToken sampleSign (sampleToken ++ ".x") "dev-only-insecure-secret" 1000000001000 =
      .ok (some samplePayload.toJson) ∧
    ∀ p, issueSessionToken sampleSign p "dev-only-insecure-secret" ≠ sampleToken ++ ".x" := by
  have htoken : (sampleToken ++ ".x").toList =
      (issueSessionToken sampleSign samplePayload "dev-only-insecure-secret").toList ++ ".x".toList := by
    rw [issue_sample, String.toList_append]
  have hrest : ".x".toList = [] ∨ ∃ rest, ".x".toList = '.' :: rest := Or.inr ⟨['x'], rfl⟩
  refine ⟨unforgedToken_sample (by decide +kernel), ?_, ?_⟩
  · rw [verifySessionToken_of_issue sampleSign_ne sampleSign_no_dot samplePayload _ hrest htoken,
      if_neg (by decide)]
  · intro p hp
    rw [← hp] at htoken
    cases eq_nil_of_issue sampleSign_ne sampleSign_no_dot hrest htoken

end DVoD.Relay
