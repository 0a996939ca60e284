import Mathlib.Data.List.Basic
import Mathlib.Data.List.TakeWhile

/-!
# Base64url

`encode` is `buffer.toString("base64url")`, without padding; `decode` is
`Buffer.from(s, "base64url")`, which takes both alphabets, skips other characters
and stops at the first `=`.
-/

namespace DVoD.Text.Base64Url

/-! ### The alphabet -/

def digit (n : ℕ) : Char :=
  if n < 26 then Char.ofNat (0x41 + n)
  else if n < 52 then Char.ofNat (0x61 + (n - 26))
  else if n < 62 then Char.ofNat (0x30 + (n - 52))
  else if n = 62 then '-'
  else '_'

/-- The sextet of a character of either alphabet. -/
def sextet (c : Char) : Option ℕ :=
  let n := c.toNat
  if 0x41 ≤ n ∧ n ≤ 0x5A then some (n - 0x41)
  else if 0x61 ≤ n ∧ n ≤ 0x7A then some (n - 0x61 + 26)
  else if 0x30 ≤ n ∧ n ≤ 0x39 then some (n - 0x30 + 52)
  else if c = '-' ∨ c = '+' then some 62
  else if c = '_' ∨ c = '/' then some 63
  else none

theorem sextet_digit {n : ℕ} (h : n < 64) : sextet (digit n) = some n := by
  revert n; decide

theorem digit_ne_dot {n : ℕ} (h : n < 64) : digit n ≠ '.' := by
  revert n; decide

theorem digit_ne_pad {n : ℕ} (h : n < 64) : digit n ≠ '=' := by
  revert n; decide

/-! ### Encoding and decoding -/

def sextets : List ℕ → List ℕ
  | [] => []
  | [a] => [a / 4, a % 4 * 16]
  | [a, b] => [a / 4, a % 4 * 16 + b / 16, b % 16 * 4]
  | a :: b :: c :: rest =>
      a / 4 :: (a % 4 * 16 + b / 16) :: (b % 16 * 4 + c / 64) :: c % 64 :: sextets rest

def bytes : List ℕ → List ℕ
  | a :: b :: c :: d :: rest =>
      (a * 4 + b / 16) :: (b % 16 * 16 + c / 4) :: (c % 4 * 64 + d) :: bytes rest
  | [a, b, c] => [a * 4 + b / 16, b % 16 * 16 + c / 4]
  | [a, b] => [a * 4 + b / 16]
  | _ => []

def encode (bs : List UInt8) : List Char := (sextets (bs.map UInt8.toNat)).map digit

def decode (s : List Char) : List UInt8 :=
  (bytes ((s.takeWhile (· ≠ '=')).filterMap sextet)).map UInt8.ofNat

/-! ### The round trip -/

theorem lt_of_mem_sextets {bs : List ℕ} (hbs : ∀ b ∈ bs, b < 256) : ∀ n ∈ sextets bs, n < 64 := by
  induction bs using sextets.induct with
  | case1 => simp [sextets]
  | case2 a =>
    have ha := hbs a (by simp)
    simp only [sextets, List.mem_cons, List.not_mem_nil, or_false]
    omega
  | case3 a b =>
    have ha := hbs a (by simp)
    have hb := hbs b (by simp)
    simp only [sextets, List.mem_cons, List.not_mem_nil, or_false]
    omega
  | case4 a b c rest ih =>
    have ha := hbs a (by simp)
    have hb := hbs b (by simp)
    have hc := hbs c (by simp)
    have hrest := ih fun n hn => hbs n (by simp [hn])
    simp only [sextets, List.mem_cons]
    rintro n (rfl | rfl | rfl | rfl | hn)
    · omega
    · omega
    · omega
    · omega
    · exact hrest n hn

theorem bytes_sextets {bs : List ℕ} (hbs : ∀ b ∈ bs, b < 256) : bytes (sextets bs) = bs := by
  induction bs using sextets.induct with
  | case1 => rfl
  | case2 a =>
    have ha := hbs a (by simp)
    simp only [sextets, bytes, List.cons.injEq, and_true]
    omega
  | case3 a b =>
    have ha := hbs a (by simp)
    have hb := hbs b (by simp)
    simp only [sextets, bytes, List.cons.injEq, and_true]
    omega
  | case4 a b c rest ih =>
    have ha := hbs a (by simp)
    have hb := hbs b (by simp)
    have hc := hbs c (by simp)
    rw [sextets, bytes, ih fun n hn => hbs n (by simp [hn])]
    simp only [List.cons.injEq, and_true]
    omega

theorem mem_encode {bs : List UInt8} {c : Char} (h : c ∈ encode bs) : ∃ n < 64, c = digit n := by
  obtain ⟨n, hn, rfl⟩ := List.mem_map.mp h
  refine ⟨n, lt_of_mem_sextets ?_ n hn, rfl⟩
  intro b hb
  obtain ⟨b, -, rfl⟩ := List.mem_map.mp hb
  exact b.toNat_lt

theorem decode_encode (bs : List UInt8) : decode (encode bs) = bs := by
  have hlt : ∀ b ∈ bs.map UInt8.toNat, b < 256 := by
    intro b hb
    obtain ⟨b, -, rfl⟩ := List.mem_map.mp hb
    exact b.toNat_lt
  have hpad : (encode bs).takeWhile (· ≠ '=') = encode bs := by
    apply List.takeWhile_eq_self_iff.mpr
    intro c hc
    obtain ⟨n, hn, rfl⟩ := mem_encode hc
    simpa using digit_ne_pad hn
  have hsextets : (encode bs).filterMap sextet = sextets (bs.map UInt8.toNat) := by
    rw [encode, List.filterMap_map]
    refine (List.filterMap_congr ?_).trans List.filterMap_some
    intro n hn
    exact sextet_digit (lt_of_mem_sextets hlt n hn)
  rw [decode, hpad, hsextets, bytes_sextets hlt, List.map_map]
  exact (List.map_congr_left fun b _ => UInt8.ofNat_toNat).trans (List.map_id _)

theorem dot_not_mem_encode (bs : List UInt8) : '.' ∉ encode bs := by
  intro h
  obtain ⟨n, hn, hdot⟩ := mem_encode h
  exact digit_ne_dot hn hdot.symm

end DVoD.Text.Base64Url
