import DVoD.Text.JsNumber
import Mathlib.Data.List.TakeWhile

/-!
# Decimal numerals

What `Number(s)` is where `s` consists of decimal digits: the number they denote, if it
is below `2 ^ 53`, and a number that is no smaller than `2 ^ 52` otherwise.
-/

namespace DVoD.Text.JsNumber

/-- The characters are decimal digits that denote `n`. -/
def Denotes (digits : List Char) (n : ℕ) : Prop :=
  digits ≠ [] ∧ digits.all Char.isDigit ∧ digitsValue 10 digits = n

instance (digits : List Char) (n : ℕ) : Decidable (Denotes digits n) :=
  inferInstanceAs (Decidable (_ ∧ _ ∧ _))

/-! ### The literal -/

theorem not_isStrWhiteSpace_of_isDigit {c : Char} (h : c.isDigit) : isStrWhiteSpace c = false := by
  have hrange : 48 ≤ c.toNat ∧ c.toNat ≤ 57 := by
    simpa [Char.isDigit, UInt32.le_iff_toNat_le] using h
  simp only [isStrWhiteSpace, List.mem_cons, List.not_mem_nil, or_false, Bool.or_eq_false_iff,
    decide_eq_false_iff_not, Bool.and_eq_false_iff]
  omega

theorem dropWhile_isStrWhiteSpace {s : List Char} (h : ∀ c ∈ s, c.isDigit) :
    s.dropWhile isStrWhiteSpace = s := by
  cases s with
  | nil => rfl
  | cons c s =>
    have hc := not_isStrWhiteSpace_of_isDigit (h c List.mem_cons_self)
    simp [hc]

theorem span_isDigit {s : List Char} (h : ∀ c ∈ s, c.isDigit) : s.span Char.isDigit = (s, []) := by
  rw [List.span_eq_takeWhile_dropWhile, List.takeWhile_eq_self_iff.mpr h,
    List.dropWhile_eq_nil_iff.mpr h]

theorem unsignedDecimal_of_digits {s : List Char} (hne : s ≠ []) (h : ∀ c ∈ s, c.isDigit) :
    unsignedDecimal false s = roundRatio false (digitsValue 10 s) 1 := by
  have hinfinity : s ≠ "Infinity".toList := by
    rintro rfl
    have hI : ('I' : Char).isDigit := h 'I' (by decide)
    exact absurd hI (by decide)
  simp only [unsignedDecimal, hinfinity, if_false, span_isDigit h, hne, false_and, readExponent_nil,
    List.append_nil, List.length_nil, Nat.cast_zero, sub_zero]
  exact ofDecimal_zero _ _

theorem ofChars_of_digits {s : List Char} (hne : s ≠ []) (h : ∀ c ∈ s, c.isDigit) :
    ofChars s = roundRatio false (digitsValue 10 s) 1 := by
  have htrim : ((s.dropWhile isStrWhiteSpace).reverse.dropWhile isStrWhiteSpace).reverse = s := by
    rw [dropWhile_isStrWhiteSpace h,
      dropWhile_isStrWhiteSpace fun c hc => h c (List.mem_reverse.mp hc), List.reverse_reverse]
  have hno (c : Char) (hc : c ∈ s) (hnot : c.isDigit = false) : False :=
    Bool.false_ne_true (hnot.symm.trans (h c hc))
  unfold ofChars
  rw [htrim]
  split
  · exact absurd rfl hne
  · exact (hno 'x' (by simp) (by decide)).elim
  · exact (hno 'X' (by simp) (by decide)).elim
  · exact (hno 'o' (by simp) (by decide)).elim
  · exact (hno 'O' (by simp) (by decide)).elim
  · exact (hno 'b' (by simp) (by decide)).elim
  · exact (hno 'B' (by simp) (by decide)).elim
  · exact (hno '-' (by simp) (by decide)).elim
  · exact (hno '+' (by simp) (by decide)).elim
  · exact unsignedDecimal_of_digits hne h

/-! ### Its value -/

theorem le_of_roundMagnitude {n : ℕ} (h : 2 ^ 53 ≤ n) {value : ℚ} (hvalue : roundMagnitude n 1 = some value) :
    2 ^ 52 ≤ value := by
  have hn : n ≠ 0 := by
    rintro rfl
    norm_num at h
  have hlog : 53 ≤ Nat.log2 n := (Nat.le_log2 hn).mpr h
  set e := Nat.log2 n - 52 with he
  have hexponent : max (binade n 1 - 52) (-1074) = (e : ℤ) := by
    rw [binade_one hn]
    omega
  have hquotient : 2 ^ 52 ≤ n / 2 ^ e := by
    rw [Nat.le_div_iff_mul_le (by positivity), ← Nat.pow_add, show 52 + e = Nat.log2 n by omega]
    exact Nat.log2_self_le hn
  have hround : 2 ^ 52 ≤ roundHalfEven n (2 ^ e) * 2 ^ e :=
    calc 2 ^ 52 ≤ n / 2 ^ e := hquotient
      _ ≤ roundHalfEven n (2 ^ e) := (roundHalfEven_bounds n (2 ^ e)).1
      _ ≤ roundHalfEven n (2 ^ e) * 2 ^ e := Nat.le_mul_of_pos_right _ (by positivity)
  simp only [roundMagnitude, hn, if_false, hexponent, Int.natCast_nonneg, if_true, Int.toNat_natCast,
    Nat.one_mul] at hvalue
  split at hvalue
  · cases hvalue
  · obtain rfl := Option.some.inj hvalue
    exact_mod_cast hround

/-- In a range that doubles count one by one, a numeral is read as what it denotes. -/
theorem toInteger?_roundRatio {n bound : ℕ} (hbound : bound < 2 ^ 52) {m : ℤ} (hm : m ≤ bound) :
    (roundRatio false n 1).toInteger? = some m ↔ m = n := by
  by_cases h : n < 2 ^ 53
  · have hnat : roundRatio false n 1 = finite ((n : ℤ) : ℚ) := by
      rw [roundRatio, roundMagnitude_of_lt h]
      simp
    rw [hnat, toInteger?_intCast, Option.some.injEq, eq_comm]
  · refine iff_of_false ?_ (by omega)
    intro hinteger
    unfold roundRatio at hinteger
    split at hinteger
    · cases hinteger
    next value hvalue =>
    have hle := le_of_roundMagnitude (not_lt.mp h) hvalue
    simp only [toInteger?, Bool.false_eq_true, if_false] at hinteger
    split at hinteger
    · next hden =>
      have hnum : value = (m : ℚ) := by
        rw [← Option.some.inj hinteger]
        exact (Rat.den_eq_one_iff value).mp hden |>.symm
      rw [hnum] at hle
      have : (2 : ℤ) ^ 52 ≤ m := by exact_mod_cast hle
      omega
    · cases hinteger

theorem toInteger?_ofChars (bound : ℕ) {digits : List Char} {n : ℕ} (h : Denotes digits n)
    (hbound : bound < 2 ^ 52) {m : ℤ} (hm : m ≤ bound) : (ofChars digits).toInteger? = some m ↔ m = n := by
  obtain ⟨hne, hdigits, rfl⟩ := h
  rw [ofChars_of_digits hne (List.all_eq_true.mp hdigits), toInteger?_roundRatio hbound hm]

end DVoD.Text.JsNumber
