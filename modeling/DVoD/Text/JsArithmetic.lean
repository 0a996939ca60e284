import DVoD.Text.Decimal
import DVoD.Text.Stringify
import Mathlib.Algebra.Order.Field.Power
import Mathlib.Algebra.Order.Floor.Ring
import Mathlib.Data.Rat.Floor
import Mathlib.Tactic.Linarith
import Mathlib.Tactic.Positivity

/-!
# Arithmetic of JavaScript numbers

`x * y`, `Math.round` and `parseFloat`.  A result is the double nearest to the exact one;
`roundMagnitude_error` says how far it is off, and `round_mul_hundred` that this does not
matter where an amount in hundredths is read, multiplied and rounded.
-/

namespace DVoD.Text

namespace JsNumber

/-! ### The error of rounding -/

/-- Twice the error is at most the divisor. -/
theorem roundHalfEven_near (a : ℕ) {b : ℕ} (hb : 0 < b) :
    2 * (roundHalfEven a b * b) ≤ 2 * a + b ∧ 2 * a ≤ 2 * (roundHalfEven a b * b) + b := by
  obtain ⟨p, hp⟩ : ∃ p, a / b * b = p := ⟨_, rfl⟩
  have hsucc : (a / b + 1) * b = p + b := by rw [Nat.add_mul, Nat.one_mul, hp]
  have hdiv : p + a % b = a := by rw [← hp, Nat.mul_comm, Nat.div_add_mod]
  unfold roundHalfEven
  dsimp only
  split
  · rw [hp]
    omega
  split
  · have hmod := Nat.mod_lt a hb
    rw [hsucc]
    omega
  · rcases Nat.mod_two_eq_zero_or_one (a / b) with heven | hodd
    · rw [heven, Nat.add_zero, hp]
      omega
    · rw [hodd, hsucc]
      omega

theorem roundHalfEven_error (a : ℕ) {b : ℕ} (hb : 0 < b) :
    |(roundHalfEven a b : ℚ) - a / b| ≤ 1 / 2 := by
  obtain ⟨hlow, hhigh⟩ := roundHalfEven_near a hb
  have hlow' : 2 * ((roundHalfEven a b : ℚ) * b) ≤ 2 * a + b := by exact_mod_cast hlow
  have hhigh' : 2 * (a : ℚ) ≤ 2 * (roundHalfEven a b * b) + b := by exact_mod_cast hhigh
  have hb' : (0 : ℚ) < b := by exact_mod_cast hb
  rw [sub_div' hb'.ne', abs_le, le_div_iff₀ hb', div_le_iff₀ hb']
  constructor <;> linarith

/-- The binade holds the quotient. -/
theorem binade_bounds {a b : ℕ} (ha : a ≠ 0) (hb : b ≠ 0) :
    (2 : ℚ) ^ binade a b ≤ a / b ∧ (a : ℚ) / b < 2 ^ (binade a b + 1) := by
  have ha' : (2 : ℚ) ^ (Nat.log2 a : ℤ) ≤ a ∧ (a : ℚ) < 2 ^ ((Nat.log2 a : ℤ) + 1) :=
    ⟨by exact_mod_cast Nat.log2_self_le ha, by exact_mod_cast Nat.lt_log2_self⟩
  have hb' : (2 : ℚ) ^ (Nat.log2 b : ℤ) ≤ b ∧ (b : ℚ) < 2 ^ ((Nat.log2 b : ℤ) + 1) :=
    ⟨by exact_mod_cast Nat.log2_self_le hb, by exact_mod_cast Nat.lt_log2_self⟩
  have hpos : (0 : ℚ) < b := by exact_mod_cast Nat.pos_of_ne_zero hb
  rw [le_div_iff₀ hpos, div_lt_iff₀ hpos]
  unfold binade
  dsimp only
  generalize hk : (Nat.log2 a : ℤ) - Nat.log2 b = k
  have hlow : (2 : ℚ) ^ (k - 1) * b ≤ a := by
    have hnonneg : (0 : ℚ) ≤ 2 ^ (k - 1) := by positivity
    calc (2 : ℚ) ^ (k - 1) * b ≤ 2 ^ (k - 1) * 2 ^ ((Nat.log2 b : ℤ) + 1) :=
          mul_le_mul_of_nonneg_left hb'.2.le hnonneg
      _ = 2 ^ (Nat.log2 a : ℤ) := by
          rw [← zpow_add₀ two_ne_zero]
          congr 1
          omega
      _ ≤ a := ha'.1
  have hhigh : (a : ℚ) < 2 ^ (k + 1) * b := by
    have hnonneg : (0 : ℚ) ≤ 2 ^ (k + 1) := by positivity
    calc (a : ℚ) < 2 ^ ((Nat.log2 a : ℤ) + 1) := ha'.2
      _ = 2 ^ (k + 1) * 2 ^ (Nat.log2 b : ℤ) := by
          rw [← zpow_add₀ two_ne_zero]
          congr 1
          omega
      _ ≤ 2 ^ (k + 1) * b := mul_le_mul_of_nonneg_left hb'.1 hnonneg
  have hcond : (if 0 ≤ k then b * 2 ^ k.toNat ≤ a else b ≤ a * 2 ^ (-k).toNat) ↔ (2 : ℚ) ^ k * b ≤ a := by
    split
    · next hk0 =>
      obtain ⟨n, rfl⟩ := Int.eq_ofNat_of_zero_le hk0
      rw [Int.toNat_natCast, zpow_natCast, mul_comm]
      exact_mod_cast Iff.rfl
    · next hk0 =>
      obtain ⟨n, hn⟩ := Int.eq_ofNat_of_zero_le (Int.le_of_lt (Int.neg_pos_of_neg (Int.not_le.mp hk0)))
      have hkn : k = -(n : ℤ) := by omega
      rw [hn, Int.toNat_natCast, hkn, zpow_neg, zpow_natCast, inv_mul_le_iff₀ (by positivity), mul_comm (2 ^ n : ℚ)]
      exact_mod_cast Iff.rfl
  by_cases h : if 0 ≤ k then b * 2 ^ k.toNat ≤ a else b ≤ a * 2 ^ (-k).toNat
  · rw [if_pos h]
    exact ⟨hcond.mp h, hhigh⟩
  · rw [if_neg h, sub_add_cancel]
    exact ⟨hlow, not_le.mp fun hle => h (hcond.mpr hle)⟩

/-- Rounding to a multiple of `2 ^ e` is off by half of that at most. -/
theorem roundUnit_error (a : ℕ) {b : ℕ} (hb : 0 < b) (e : ℤ) :
    |(if 0 ≤ e then ((roundHalfEven a (b * 2 ^ e.toNat) * 2 ^ e.toNat : ℕ) : ℚ)
      else (roundHalfEven (a * 2 ^ (-e).toNat) b : ℕ) / (2 ^ (-e).toNat : ℕ)) - a / b| ≤ 2 ^ e / 2 := by
  have hb' : (b : ℚ) ≠ 0 := by exact_mod_cast hb.ne'
  split
  · next he =>
    obtain ⟨n, rfl⟩ := Int.eq_ofNat_of_zero_le he
    have herror := roundHalfEven_error a (Nat.mul_pos hb (Nat.two_pow_pos n))
    rw [Int.toNat_natCast, zpow_natCast]
    generalize roundHalfEven a (b * 2 ^ n) = m at herror
    push_cast at herror ⊢
    have hfactor : (m : ℚ) * 2 ^ n - a / b = (m - a / (b * 2 ^ n)) * 2 ^ n := by
      field_simp
    rw [hfactor, abs_mul, abs_of_pos (by positivity : (0 : ℚ) < 2 ^ n)]
    linarith [mul_le_mul_of_nonneg_right herror (by positivity : (0 : ℚ) ≤ 2 ^ n)]
  · next he =>
    obtain ⟨n, hn⟩ := Int.eq_ofNat_of_zero_le (Int.le_of_lt (Int.neg_pos_of_neg (Int.not_le.mp he)))
    obtain rfl : e = -(n : ℤ) := by omega
    have herror := roundHalfEven_error (a * 2 ^ n) hb
    rw [hn, Int.toNat_natCast, zpow_neg, zpow_natCast]
    generalize roundHalfEven (a * 2 ^ n) b = m at herror
    push_cast at herror ⊢
    have hfactor : (m : ℚ) / 2 ^ n - a / b = (m - a * 2 ^ n / b) * (2 ^ n)⁻¹ := by
      field_simp
    rw [hfactor, abs_mul, abs_of_pos (by positivity : (0 : ℚ) < (2 ^ n)⁻¹)]
    linarith [mul_le_mul_of_nonneg_right herror (by positivity : (0 : ℚ) ≤ (2 ^ n)⁻¹)]

/-- A quotient is off by half the step between the doubles around it at most. -/
theorem roundMagnitude_step {a b : ℕ} (ha : a ≠ 0) (hb : 0 < b) (hlt : (a : ℚ) / b < 2 ^ (1023 : ℤ)) :
    ∃ v : ℚ, roundMagnitude a b = some v ∧
      |v - a / b| ≤ 2 ^ (max (binade a b - 52) (-1074)) / 2 := by
  have hunit := roundUnit_error a hb (max (binade a b - 52) (-1074))
  have hbinade : binade a b < 1023 :=
    (zpow_lt_zpow_iff_right₀ (one_lt_two : (1 : ℚ) < 2)).mp ((binade_bounds ha hb.ne').1.trans_lt hlt)
  have hstep : (2 : ℚ) ^ (max (binade a b - 52) (-1074)) ≤ 2 ^ (1023 : ℤ) :=
    zpow_le_zpow_right₀ one_le_two (by omega)
  unfold roundMagnitude
  rw [if_neg ha]
  dsimp only
  generalize (if 0 ≤ max (binade a b - 52) (-1074) then
    ((roundHalfEven a (b * 2 ^ (max (binade a b - 52) (-1074)).toNat) *
      2 ^ (max (binade a b - 52) (-1074)).toNat : ℕ) : ℚ)
    else (roundHalfEven (a * 2 ^ (-max (binade a b - 52) (-1074)).toNat) b : ℕ) /
      (2 ^ (-max (binade a b - 52) (-1074)).toNat : ℕ)) = v at hunit
  have hfinite : ¬ (2 : ℚ) ^ overflowExponent ≤ v := by
    have hdouble : (2 : ℚ) ^ overflowExponent = 2 ^ (1023 : ℤ) * 2 := by
      have hexponent : (overflowExponent : ℤ) = 1023 + 1 := by norm_num [overflowExponent]
      rw [← zpow_natCast, hexponent, zpow_add_one₀ two_ne_zero]
    have hpos : (0 : ℚ) < 2 ^ (1023 : ℤ) := by positivity
    rw [hdouble, not_le]
    generalize (2 : ℚ) ^ (1023 : ℤ) = limit at *
    linarith only [(abs_le.mp hunit).2, hstep, hlt, hpos]
  exact ⟨v, if_neg hfinite, hunit⟩

/-- **The error of a double** is less than a part in `2 ^ 53`, from the smallest normal double on. -/
theorem roundMagnitude_error {a b : ℕ} (ha : a ≠ 0) (hb : 0 < b)
    (hnormal : (2 : ℚ) ^ (-1022 : ℤ) ≤ a / b) (hlt : (a : ℚ) / b < 2 ^ (1023 : ℤ)) :
    ∃ v : ℚ, roundMagnitude a b = some v ∧ |v - a / b| ≤ a / b / 2 ^ (53 : ℤ) := by
  obtain ⟨hlow, hhigh⟩ := binade_bounds ha hb.ne'
  obtain ⟨v, hv, herror⟩ := roundMagnitude_step ha hb hlt
  have hbinade : -1022 ≤ binade a b := by
    have h := (zpow_lt_zpow_iff_right₀ (one_lt_two : (1 : ℚ) < 2)).mp (hnormal.trans_lt hhigh)
    omega
  refine ⟨v, hv, herror.trans ?_⟩
  have hmax : max (binade a b - 52) (-1074) = binade a b - 52 := by omega
  have hstep : (2 : ℚ) ^ (binade a b - 52) / 2 = 2 ^ binade a b / 2 ^ (53 : ℤ) := by
    rw [div_eq_div_iff two_ne_zero (by positivity), ← zpow_add₀ two_ne_zero, ← zpow_add_one₀ two_ne_zero]
    congr 1
    ring
  rw [hmax, hstep]
  exact div_le_div_of_nonneg_right hlow (by positivity)

/-! ### Products, `Math.round` and `parseFloat` -/

/-- The double nearest to a rational. -/
def roundRat (q : ℚ) : JsNumber := roundRatio (decide (q < 0)) q.num.natAbs q.den

/-- `x * y`. -/
def mul : JsNumber → JsNumber → JsNumber
  | nan, _ => nan
  | _, nan => nan
  | infinity negative, infinity negative' => infinity (negative != negative')
  | infinity negative, finite y => if y = 0 then nan else infinity (negative != decide (y < 0))
  | finite x, infinity negative => if x = 0 then nan else infinity (decide (x < 0) != negative)
  | finite x, finite y => roundRat (x * y)

/-- `Math.round`, which rounds a half up. -/
def round : JsNumber → JsNumber
  | finite value => finite ⌊value + 1 / 2⌋
  | x => x

/-- The exponent part that the text begins with, if there is one. -/
def exponentPrefix : List Char → ℤ
  | [] => 0
  | e :: s =>
      let (minus, s) : Bool × List Char :=
        match s with
        | '-' :: s => (true, s)
        | '+' :: s => (false, s)
        | s => (false, s)
      let digits := s.takeWhile Char.isDigit
      if (e ≠ 'e' ∧ e ≠ 'E') ∨ digits = [] then 0
      else if minus then -digitsValue 10 digits else digitsValue 10 digits

/-- The longest `StrDecimalLiteral` that the text begins with, after its sign. -/
def decimalPrefix (negative : Bool) (s : List Char) : JsNumber :=
  if "Infinity".toList.isPrefixOf s then infinity negative
  else
    let (whole, s) := s.span Char.isDigit
    let (fraction, s) :=
      match s with
      | '.' :: s => s.span Char.isDigit
      | s => ([], s)
    if whole = [] ∧ fraction = [] then nan
    else ofDecimal negative (digitsValue 10 (whole ++ fraction)) (exponentPrefix s - fraction.length)

/-- `parseFloat`, which ignores what follows the number. -/
def parseFloat (s : List Char) : JsNumber :=
  match s.dropWhile isStrWhiteSpace with
  | '-' :: s => decimalPrefix true s
  | '+' :: s => decimalPrefix false s
  | s => decimalPrefix false s

/-! ### Decimal fractions -/

section Digits

variable {whole fraction : List Char} (hne : whole ≠ []) (hwhole : ∀ c ∈ whole, c.isDigit)
  (hfraction : ∀ c ∈ fraction, c.isDigit)

include hne hwhole hfraction

theorem decimalPrefix_digits : decimalPrefix false (whole ++ '.' :: fraction) =
    ofDecimal false (digitsValue 10 (whole ++ fraction)) (-fraction.length) := by
  have hdot : ∀ c ∈ ('.' :: fraction).head?, c.isDigit = false := by
    intro c hc
    obtain rfl := Option.some.inj hc
    decide
  have hinfinity : "Infinity".toList.isPrefixOf (whole ++ '.' :: fraction) = false := by
    obtain ⟨d, rest, rfl⟩ := List.exists_cons_of_ne_nil hne
    have hI : ('I' == d) = false := by
      rw [beq_eq_false_iff_ne]
      rintro rfl
      exact absurd (hwhole 'I' List.mem_cons_self) (by decide)
    have hlist : "Infinity".toList = 'I' :: "nfinity".toList := by decide
    rw [hlist, List.cons_append, List.isPrefixOf_cons_cons, hI, Bool.false_and]
  simp only [decimalPrefix, hinfinity, span_digits hwhole hdot, span_isDigit hfraction, hne, false_and,
    Bool.false_eq_true, if_false, exponentPrefix, zero_sub]

theorem parseFloat_digits : parseFloat (whole ++ '.' :: fraction) =
    ofDecimal false (digitsValue 10 (whole ++ fraction)) (-fraction.length) := by
  have hprefix := decimalPrefix_digits hne hwhole hfraction
  obtain ⟨d, rest, rfl⟩ := List.exists_cons_of_ne_nil hne
  have hd : d.isDigit := hwhole d List.mem_cons_self
  have hwhite : isStrWhiteSpace d = false := not_isStrWhiteSpace_of_isDigit hd
  rw [List.cons_append] at hprefix ⊢
  unfold parseFloat
  rw [List.dropWhile_cons_of_neg (by simp [hwhite])]
  split
  · next heq =>
    obtain ⟨rfl, -⟩ := List.cons.inj heq
    exact absurd hd (by decide)
  · next heq =>
    obtain ⟨rfl, -⟩ := List.cons.inj heq
    exact absurd hd (by decide)
  · exact hprefix

end Digits

/-! ### Hundredths -/

theorem roundRat_error {q : ℚ} (hnormal : 2 ^ (-1022 : ℤ) ≤ q) (hlt : q < 2 ^ (1023 : ℤ)) :
    ∃ v : ℚ, roundRat q = finite v ∧ |v - q| ≤ q / 2 ^ (53 : ℤ) := by
  have hpos : 0 < q := lt_of_lt_of_le (by positivity) hnormal
  have hnum : q.num.natAbs ≠ 0 := Int.natAbs_ne_zero.mpr (Rat.num_pos.mpr hpos).ne'
  have hq : (q.num.natAbs : ℚ) / q.den = q := by
    have hcast : (q.num.natAbs : ℚ) = q.num := by
      rw [Nat.cast_natAbs, abs_of_nonneg (Rat.num_nonneg.mpr hpos.le)]
    rw [hcast, Rat.num_div_den]
  obtain ⟨v, hv, herror⟩ := roundMagnitude_error hnum q.den_pos (hq.symm ▸ hnormal) (hq.symm ▸ hlt)
  rw [hq] at herror
  refine ⟨v, ?_, herror⟩
  rw [roundRat, roundRatio, hv, decide_eq_false (not_lt.mpr hpos.le)]
  rfl

/-- The double that a number of hundredths is read as. -/
theorem ofDecimal_hundredths {n : ℕ} (hpos : 0 < n) (hlt : n < 2 ^ 50) :
    ∃ v : ℚ, ofDecimal false n (-2) = finite v ∧ |v - n / 100| ≤ n / 100 / 2 ^ (53 : ℤ) := by
  have hlow : (1 : ℚ) ≤ n := by exact_mod_cast hpos
  have hhigh : (n : ℚ) < 2 ^ 50 := by exact_mod_cast hlt
  have hnormal : (2 : ℚ) ^ (-1022 : ℤ) ≤ n / (100 : ℕ) := by
    have hstep : (2 : ℚ) ^ (-1022 : ℤ) ≤ 2 ^ (-7 : ℤ) := zpow_le_zpow_right₀ one_le_two (by norm_num)
    refine hstep.trans ?_
    push_cast
    linarith
  have hfinite : (n : ℚ) / (100 : ℕ) < 2 ^ (1023 : ℤ) := by
    have hstep : (2 : ℚ) ^ (50 : ℤ) ≤ 2 ^ (1023 : ℤ) := zpow_le_zpow_right₀ one_le_two (by norm_num)
    refine lt_of_lt_of_le ?_ hstep
    push_cast
    linarith
  obtain ⟨v, hv, herror⟩ := roundMagnitude_error hpos.ne' (by norm_num : 0 < 100) hnormal hfinite
  exact ⟨v, by simp [ofDecimal, roundRatio, hv], by exact_mod_cast herror⟩

/-- **Hundredths survive.**  The error of the product is less than a half, so that rounding
    finds the integer again. -/
theorem round_mul_hundred {n : ℕ} (hlt : n < 2 ^ 50) :
    round (mul (ofDecimal false n (-2)) (finite 100)) = finite n := by
  rcases Nat.eq_zero_or_pos n with rfl | hpos
  · decide +kernel
  obtain ⟨v, hv, hread⟩ := ofDecimal_hundredths hpos hlt
  have hlow : (1 : ℚ) ≤ n := by exact_mod_cast hpos
  have hhigh : (n : ℚ) < 2 ^ 50 := by exact_mod_cast hlt
  have hpower : (2 : ℚ) ^ (53 : ℤ) = 9007199254740992 := by norm_num
  rw [hpower, abs_le] at hread
  obtain ⟨hbelow, habove⟩ := hread
  have hnormal : (2 : ℚ) ^ (-1022 : ℤ) ≤ v * 100 := by
    have hstep : (2 : ℚ) ^ (-1022 : ℤ) ≤ 2 ^ (-1 : ℤ) := zpow_le_zpow_right₀ one_le_two (by norm_num)
    refine hstep.trans ?_
    rw [zpow_neg_one]
    linarith only [hbelow, hlow]
  have hfinite : v * 100 < 2 ^ (1023 : ℤ) := by
    have hstep : (2 : ℚ) ^ (60 : ℤ) ≤ 2 ^ (1023 : ℤ) := zpow_le_zpow_right₀ one_le_two (by norm_num)
    refine lt_of_lt_of_le ?_ hstep
    linarith
  obtain ⟨w, hw, hproduct⟩ := roundRat_error hnormal hfinite
  rw [hpower, abs_le] at hproduct
  obtain ⟨hbelow', habove'⟩ := hproduct
  have hround : ⌊w + 1 / 2⌋ = (n : ℤ) := by
    rw [Int.floor_eq_iff, Int.cast_natCast]
    constructor <;> linarith
  rw [hv, mul, hw, round, hround, Int.cast_natCast]

end JsNumber

end DVoD.Text
