import DVoD.Text.Hex
import DVoD.Text.Utf8

/-!
# Percent-encoding

`encodeURIComponent` keeps the letters, the digits and a few marks, and writes the UTF-8
bytes of everything else as a percent sign with two digits.  What it writes is read back as
it was (`removingPercentEncoding_encodeURIComponent`) and has no character that delimits
anything in a URL (`mem_encodeURIComponent`).
-/

namespace DVoD.Text

open JsNumber

/-! ### Encoding -/

/-- What `encodeURIComponent` leaves as it is. -/
def isUnescaped (c : Char) : Bool := c.isAlphanum || decide (c ∈ "-_.!~*'()".toList)

def percentByte (b : UInt8) : List Char := '%' :: (hexByte b).map Char.toUpper

def encodeURIComponent (s : List Char) : List Char :=
  s.flatMap fun c => if isUnescaped c then [c] else (Utf8.encode [c]).flatMap percentByte

/-! ### Decoding -/

/-- The bytes that percent-encoded text stands for; `none` where a percent sign is not
    followed by two digits. -/
def percentBytes : List Char → Option (List UInt8)
  | [] => some []
  | '%' :: high :: low :: rest =>
      match hexValue high, hexValue low with
      | some high, some low => (percentBytes rest).map (UInt8.ofNat (16 * high + low) :: ·)
      | _, _ => none
  | c :: rest => if c = '%' then none else (percentBytes rest).map (Utf8.encode [c] ++ ·)

/-- The property of that name of a `String` of Swift. -/
def removingPercentEncoding (s : List Char) : Option (List Char) := (percentBytes s).bind Utf8.decodeStrict

/-! ### The round trip -/

theorem percentByte_eq (b : UInt8) : percentByte b =
    ['%', (hexDigit (b.toNat / 16)).toUpper, (hexDigit (b.toNat % 16)).toUpper] := by
  rw [percentByte, hexByte_eq]
  rfl

theorem hexValue_toUpper_hexDigit {n : ℕ} (h : n < 16) : hexValue (hexDigit n).toUpper = some n := by
  revert n
  decide

theorem isAlphanum_toUpper_hexDigit {n : ℕ} (h : n < 16) : (hexDigit n).toUpper.isAlphanum = true := by
  revert n
  decide

theorem percentBytes_percentByte (b : UInt8) (rest : List Char) :
    percentBytes (percentByte b ++ rest) = (percentBytes rest).map (b :: ·) := by
  have hb : b.toNat < 256 := b.toNat_lt
  have hhigh := hexValue_toUpper_hexDigit (show b.toNat / 16 < 16 by omega)
  have hlow := hexValue_toUpper_hexDigit (show b.toNat % 16 < 16 by omega)
  have hvalue : 16 * (b.toNat / 16) + b.toNat % 16 = b.toNat := Nat.div_add_mod _ _
  rw [percentByte_eq]
  simp only [List.cons_append, List.nil_append, percentBytes, hhigh, hlow, hvalue, UInt8.ofNat_toNat]

theorem percentBytes_flatMap_percentByte (bytes : List UInt8) (rest : List Char) :
    percentBytes (bytes.flatMap percentByte ++ rest) = (percentBytes rest).map (bytes ++ ·) := by
  induction bytes with
  | nil => simp
  | cons b bytes ih =>
    rw [List.flatMap_cons, List.append_assoc, percentBytes_percentByte, ih, Option.map_map]
    rfl

theorem percentBytes_cons {c : Char} (hc : c ≠ '%') (rest : List Char) :
    percentBytes (c :: rest) = (percentBytes rest).map (Utf8.encode [c] ++ ·) := by
  rw [percentBytes, if_neg hc]
  intro high low rest' hpercent
  exact absurd hpercent hc

theorem ne_percent_of_isUnescaped {c : Char} (h : isUnescaped c = true) : c ≠ '%' := by
  rintro rfl
  exact absurd h (by decide)

theorem encode_cons (c : Char) (s : List Char) : Utf8.encode [c] ++ Utf8.encode s = Utf8.encode (c :: s) := by
  simp [Utf8.encode]

theorem percentBytes_encodeURIComponent (s : List Char) :
    percentBytes (encodeURIComponent s) = some (Utf8.encode s) := by
  induction s with
  | nil => rfl
  | cons c s ih =>
    rw [encodeURIComponent, List.flatMap_cons, ← encodeURIComponent]
    by_cases hc : isUnescaped c = true
    · rw [if_pos hc, List.singleton_append, percentBytes_cons (ne_percent_of_isUnescaped hc), ih,
        Option.map_some, encode_cons]
    · rw [if_neg hc, percentBytes_flatMap_percentByte, ih, Option.map_some, encode_cons]

theorem removingPercentEncoding_encodeURIComponent (s : List Char) :
    removingPercentEncoding (encodeURIComponent s) = some s := by
  rw [removingPercentEncoding, percentBytes_encodeURIComponent, Option.bind_some]
  exact Utf8.decodeStrict_eq_some_iff.mpr rfl

/-- What has no percent sign stands for itself. -/
theorem removingPercentEncoding_of_not_mem {s : List Char} (h : '%' ∉ s) :
    removingPercentEncoding s = some s := by
  have hbytes : percentBytes s = some (Utf8.encode s) := by
    induction s with
    | nil => rfl
    | cons c s ih =>
      rw [List.mem_cons, not_or] at h
      rw [percentBytes_cons (Ne.symm h.1), ih h.2, Option.map_some, encode_cons]
  rw [removingPercentEncoding, hbytes, Option.bind_some]
  exact Utf8.decodeStrict_eq_some_iff.mpr rfl

/-! ### The alphabet -/

theorem mem_encodeURIComponent {s : List Char} {c : Char} (h : c ∈ encodeURIComponent s) :
    isUnescaped c = true ∨ c = '%' := by
  obtain ⟨c', -, h⟩ := List.mem_flatMap.mp h
  split at h
  · next hc' =>
    rw [List.mem_singleton.mp h]
    exact Or.inl hc'
  · obtain ⟨b, -, h⟩ := List.mem_flatMap.mp h
    have hb : b.toNat < 256 := b.toNat_lt
    have hdigit {n : ℕ} (hn : n < 16) (heq : c = (hexDigit n).toUpper) : isUnescaped c = true := by
      rw [heq, isUnescaped, isAlphanum_toUpper_hexDigit hn, Bool.true_or]
    simp only [percentByte_eq, List.mem_cons, List.not_mem_nil, or_false] at h
    rcases h with h | h | h
    · exact Or.inr h
    · exact Or.inl (hdigit (by omega) h)
    · exact Or.inl (hdigit (by omega) h)

end DVoD.Text
