import Mathlib.Data.Rat.Defs
import Mathlib.Tactic.Ring
import Mathlib.Tactic.NormNum
import Mathlib.Tactic.FieldSimp
import Mathlib.Tactic.Positivity

/-!
# Numbers of JavaScript

A number is `NaN`, an infinity, or a rational that a double represents; `0` and `-0`
are not told apart, which no comparison or printed form below does either.

* `roundRatio` - the double nearest to a quotient, ties to even;
* `nearest` - the double nearest to an integer, which `roundMagnitude_nearest` shows to
  be one;
* `ofString` - `Number(s)`.
-/

namespace DVoD.Text

inductive JsNumber where
  | nan
  | infinity (negative : Bool)
  | finite (value : ℚ)
deriving DecidableEq, Repr

namespace JsNumber

/-! ### Rounding -/

/-- The integer nearest to `a / b`, ties to even. -/
def roundHalfEven (a b : ℕ) : ℕ :=
  let q := a / b
  let r := a % b
  if 2 * r < b then q else if b < 2 * r then q + 1 else q + q % 2

/-- The exponent of the binade that contains `a / b`. -/
def binade (a b : ℕ) : ℤ :=
  let k : ℤ := (Nat.log2 a : ℤ) - Nat.log2 b
  if (if 0 ≤ k then b * 2 ^ k.toNat ≤ a else b ≤ a * 2 ^ (-k).toNat) then k else k - 1

def overflowExponent : ℕ := 1024

/-- The double nearest to `a / b`, or `none` where that is infinite. -/
def roundMagnitude (a b : ℕ) : Option ℚ :=
  if a = 0 then some 0
  else
    let e := max (binade a b - 52) (-1074)
    let value : ℚ :=
      if 0 ≤ e then ((roundHalfEven a (b * 2 ^ e.toNat) * 2 ^ e.toNat : ℕ) : ℚ)
      else (roundHalfEven (a * 2 ^ (-e).toNat) b : ℕ) / (2 ^ (-e).toNat : ℕ)
    if 2 ^ overflowExponent ≤ value then none else some value

def roundRatio (negative : Bool) (a b : ℕ) : JsNumber :=
  match roundMagnitude a b with
  | none => infinity negative
  | some value => finite (if negative then -value else value)

def ofDecimal (negative : Bool) (digits : ℕ) (exponent : ℤ) : JsNumber :=
  if 0 ≤ exponent then roundRatio negative (digits * 10 ^ exponent.toNat) 1
  else roundRatio negative digits (10 ^ (-exponent).toNat)

/-- `Number.isInteger`, with the integer. -/
def toInteger? : JsNumber → Option ℤ
  | finite value => if value.den = 1 then some value.num else none
  | _ => none

/-- `x < n`. -/
def ltInt (x : JsNumber) (n : ℤ) : Bool :=
  match x with
  | nan => false
  | infinity negative => negative
  | finite value => value < n

@[simp] theorem toInteger?_intCast (n : ℤ) : (finite n).toInteger? = some n := by
  simp [toInteger?]

@[simp] theorem ltInt_intCast (m n : ℤ) : (finite m).ltInt n = decide (m < n) := by
  simp [ltInt]

theorem roundHalfEven_mul (a b : ℕ) (hb : 0 < b) : roundHalfEven (a * b) b = a := by
  simp [roundHalfEven, Nat.mul_div_cancel _ hb, hb]

/-- An integer whose quotient by the unit of its binade is one, too, is a double. -/
theorem roundMagnitude_natCast {n e : ℕ} (he : max (binade n 1 - 52) (-1074) ≤ e)
    (hn : 2 ^ e ∣ n) (hlt : n < 2 ^ overflowExponent) : roundMagnitude n 1 = some (n : ℚ) := by
  by_cases h0 : n = 0
  · simp [roundMagnitude, h0]
  have hvalue : (if 0 ≤ max (binade n 1 - 52) (-1074) then
      ((roundHalfEven n (1 * 2 ^ (max (binade n 1 - 52) (-1074)).toNat) *
        2 ^ (max (binade n 1 - 52) (-1074)).toNat : ℕ) : ℚ)
      else (roundHalfEven (n * 2 ^ (-max (binade n 1 - 52) (-1074)).toNat) 1 : ℕ) /
        (2 ^ (-max (binade n 1 - 52) (-1074)).toNat : ℕ)) = n := by
    generalize max (binade n 1 - 52) (-1074) = e' at he
    split
    · obtain ⟨m, hm⟩ : 2 ^ e'.toNat ∣ n := (Nat.pow_dvd_pow 2 (by omega)).trans hn
      rw [Nat.one_mul, hm, Nat.mul_comm _ m, roundHalfEven_mul m _ (by positivity)]
    · have hone := roundHalfEven_mul (n * 2 ^ (-e').toNat) 1 Nat.one_pos
      rw [Nat.mul_one] at hone
      rw [hone]
      push_cast
      field_simp
  have hlt' : ¬ (2 : ℚ) ^ overflowExponent ≤ n := not_le.mpr (by exact_mod_cast hlt)
  simp only [roundMagnitude, h0, if_false]
  rw [hvalue, if_neg hlt']

theorem binade_one {n : ℕ} (hn : n ≠ 0) : binade n 1 = Nat.log2 n := by
  have h1 : Nat.log2 1 = 0 := by decide
  simp only [binade, h1, Nat.cast_zero, sub_zero, Nat.one_mul, Int.natCast_nonneg, if_true,
    Int.toNat_natCast, Nat.log2_self_le hn]

theorem roundMagnitude_of_lt {n : ℕ} (h : n < 2 ^ 53) : roundMagnitude n 1 = some (n : ℚ) := by
  by_cases h0 : n = 0
  · simp [roundMagnitude, h0]
  have hlog : Nat.log2 n < 53 := (Nat.log2_lt h0).mpr h
  refine roundMagnitude_natCast (e := 0) ?_ (by simp)
    (Nat.lt_trans h (Nat.pow_lt_pow_right (by norm_num) (by norm_num [overflowExponent])))
  rw [binade_one h0]
  omega

theorem ofDecimal_zero (negative : Bool) (digits : ℕ) :
    ofDecimal negative digits 0 = roundRatio negative digits 1 := by
  simp [ofDecimal]

def nearest (n : ℕ) : ℕ :=
  if n < 2 ^ 53 then n
  else roundHalfEven n (2 ^ (Nat.log2 n - 52)) * 2 ^ (Nat.log2 n - 52)

theorem roundHalfEven_bounds (a b : ℕ) :
    a / b ≤ roundHalfEven a b ∧ roundHalfEven a b ≤ a / b + 1 := by
  simp only [roundHalfEven]
  split
  · omega
  split <;> omega

theorem roundMagnitude_nearest {n : ℕ} (h : n < 2 ^ 256) :
    roundMagnitude (nearest n) 1 = some (nearest n : ℚ) := by
  by_cases hsmall : n < 2 ^ 53
  · rw [nearest, if_pos hsmall]; exact roundMagnitude_of_lt hsmall
  have hn : n ≠ 0 := by rintro rfl; norm_num at hsmall
  have hlog : 53 ≤ Nat.log2 n := (Nat.le_log2 hn).mpr (Nat.le_of_not_lt hsmall)
  have hlog' : Nat.log2 n < 256 := (Nat.log2_lt hn).mpr h
  set e := Nat.log2 n - 52 with he
  obtain ⟨hlow, hhigh⟩ := roundHalfEven_bounds n (2 ^ e)
  have hdiv : 2 ^ 52 ≤ n / 2 ^ e := by
    rw [Nat.le_div_iff_mul_le (by positivity), ← Nat.pow_add, show 52 + e = Nat.log2 n by omega]
    exact Nat.log2_self_le hn
  have hdiv' : n / 2 ^ e < 2 ^ 53 := by
    rw [Nat.div_lt_iff_lt_mul (by positivity), ← Nat.pow_add,
      show 53 + e = Nat.log2 n + 1 by omega]
    exact Nat.lt_log2_self
  generalize hm : roundHalfEven n (2 ^ e) = m at hlow hhigh
  have hnearest : nearest n = m * 2 ^ e := by rw [nearest, if_neg hsmall, ← he, hm]
  have hpos : m * 2 ^ e ≠ 0 := Nat.mul_ne_zero (by omega) (by positivity)
  have hlt : m * 2 ^ e < 2 ^ overflowExponent := by
    calc m * 2 ^ e ≤ 2 ^ 53 * 2 ^ e := Nat.mul_le_mul_right _ (by omega)
      _ = 2 ^ (53 + e) := by rw [Nat.pow_add]
      _ < 2 ^ overflowExponent := Nat.pow_lt_pow_right (by norm_num) (by rw [overflowExponent]; omega)
  rw [hnearest]
  by_cases hcarry : m = 2 ^ 53
  · -- the rounding carried into the next binade
    refine roundMagnitude_natCast (e := e + 53) ?_ ?_ hlt
    · have : Nat.log2 (m * 2 ^ e) < e + 54 := (Nat.log2_lt hpos).mpr (by
        rw [hcarry, ← Nat.pow_add]; exact Nat.pow_lt_pow_right (by norm_num) (by omega))
      rw [binade_one hpos]
      omega
    · rw [hcarry, ← Nat.pow_add, Nat.add_comm]
  · refine roundMagnitude_natCast (e := e) ?_ (Nat.dvd_mul_left _ _) hlt
    have : Nat.log2 (m * 2 ^ e) < e + 53 := (Nat.log2_lt hpos).mpr (by
      rw [Nat.add_comm, Nat.pow_add]
      exact Nat.mul_lt_mul_of_pos_right (by omega) (by positivity))
    rw [binade_one hpos]
    omega

/-! ### `Number(s)` -/

/-- White space and line terminators. -/
def isStrWhiteSpace (c : Char) : Bool :=
  c.toNat ∈ [0x9, 0xA, 0xB, 0xC, 0xD, 0x20, 0xA0, 0x1680, 0x2028, 0x2029, 0x202F, 0x205F, 0x3000,
    0xFEFF] || (0x2000 ≤ c.toNat && c.toNat ≤ 0x200A)

def digitValue (c : Char) : Option ℕ :=
  if c.isDigit then some (c.toNat - 0x30)
  else if 0x61 ≤ c.toNat ∧ c.toNat ≤ 0x7A then some (c.toNat - 0x61 + 10)
  else if 0x41 ≤ c.toNat ∧ c.toNat ≤ 0x5A then some (c.toNat - 0x41 + 10)
  else none

def digitsValue (base : ℕ) (digits : List Char) : ℕ :=
  digits.foldl (fun n c => n * base + (digitValue c).getD 0) 0

/-- An exponent part, which may be missing. -/
def readExponent : List Char → Option ℤ
  | [] => some 0
  | e :: s =>
      let (minus, digits) : Bool × List Char :=
        match s with
        | '-' :: s => (true, s)
        | '+' :: s => (false, s)
        | s => (false, s)
      if (e ≠ 'e' ∧ e ≠ 'E') ∨ digits = [] ∨ !digits.all Char.isDigit then none
      else some (if minus then -digitsValue 10 digits else digitsValue 10 digits)

@[simp] theorem readExponent_nil : readExponent [] = some 0 := rfl

/-- `StrDecimalLiteral` after its sign. -/
def unsignedDecimal (negative : Bool) (s : List Char) : JsNumber :=
  if s = "Infinity".toList then infinity negative
  else
    let (whole, s) := s.span Char.isDigit
    let (fraction, s) :=
      match s with
      | '.' :: s => s.span Char.isDigit
      | s => ([], s)
    if whole = [] ∧ fraction = [] then nan
    else
      match readExponent s with
      | none => nan
      | some exponent =>
          ofDecimal negative (digitsValue 10 (whole ++ fraction)) (exponent - fraction.length)

def radixInteger (base : ℕ) (digits : List Char) : JsNumber :=
  if digits ≠ [] ∧ digits.all (fun c => (digitValue c).any (· < base)) then
    roundRatio false (digitsValue base digits) 1
  else nan

def ofChars (s : List Char) : JsNumber :=
  match ((s.dropWhile isStrWhiteSpace).reverse.dropWhile isStrWhiteSpace).reverse with
  | [] => finite 0
  | '0' :: 'x' :: s | '0' :: 'X' :: s => radixInteger 16 s
  | '0' :: 'o' :: s | '0' :: 'O' :: s => radixInteger 8 s
  | '0' :: 'b' :: s | '0' :: 'B' :: s => radixInteger 2 s
  | '-' :: s => unsignedDecimal true s
  | '+' :: s => unsignedDecimal false s
  | s => unsignedDecimal false s

def ofString (s : String) : JsNumber := ofChars s.toList

example : (ofString " 12 ").toInteger? = some 12 := by decide +kernel
example : (ofString "2.4e1").toInteger? = some 24 := by decide +kernel
example : (ofString "1.5").toInteger? = none := by decide +kernel

end JsNumber

end DVoD.Text
