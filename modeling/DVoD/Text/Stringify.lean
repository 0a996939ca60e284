import DVoD.Text.Json
import Mathlib.Tactic.IntervalCases

/-!
# What `JSON.stringify` prints

Strings are printed by `quote`, integers by `JsInt.print`.  `feed_quote` and
`feed_print` say that the machine of `DVoD.Text.Json` reads them back, whatever it
is in the middle of.
-/

namespace DVoD.Text

open Json

/-! ### Strings -/

def hexDigit (n : ℕ) : Char := if n < 10 then Char.ofNat (0x30 + n) else Char.ofNat (0x61 + n - 10)

/-- `QuoteJSONString` of one character. -/
def quoteChar (c : Char) : List Char :=
  if c = '"' then ['\\', '"']
  else if c = '\\' then ['\\', '\\']
  else if c.toNat = 0x08 then ['\\', 'b']
  else if c.toNat = 0x09 then ['\\', 't']
  else if c.toNat = 0x0A then ['\\', 'n']
  else if c.toNat = 0x0C then ['\\', 'f']
  else if c.toNat = 0x0D then ['\\', 'r']
  else if c.toNat < 0x20 then ['\\', 'u', '0', '0', hexDigit (c.toNat / 16), hexDigit (c.toNat % 16)]
  else [c]

def quote (s : String) : List Char := '"' :: s.toList.flatMap quoteChar ++ ['"']

section Strings

variable {asKey : Option (List (JsString × Json))} {units : JsString} {stack : List Frame}

private theorem feed_control (n : ℕ) (hn : n < 0x20) :
    feed ⟨.string asKey units, stack⟩ (quoteChar (Char.ofNat n)) =
      some ⟨.string asKey ((utf16Units (Char.ofNat n)).reverse ++ units), stack⟩ := by
  interval_cases n <;> rfl

theorem feed_quoteChar (c : Char) :
    feed ⟨.string asKey units, stack⟩ (quoteChar c) =
      some ⟨.string asKey ((utf16Units c).reverse ++ units), stack⟩ := by
  by_cases hcontrol : c.toNat < 0x20
  · rw [← Char.ofNat_toNat c]
    exact feed_control c.toNat hcontrol
  by_cases hquote : c = '"'
  · subst hquote; rfl
  by_cases hslash : c = '\\'
  · subst hslash; rfl
  have hself : quoteChar c = [c] := by
    simp only [quoteChar, hquote, hslash, if_false]
    rw [if_neg (by omega), if_neg (by omega), if_neg (by omega), if_neg (by omega),
      if_neg (by omega), if_neg (by omega)]
  simp [hself, feed_cons, step, hquote, hslash, hcontrol]

theorem feed_quoteChars (s : List Char) :
    feed ⟨.string asKey units, stack⟩ (s.flatMap quoteChar) =
      some ⟨.string asKey ((utf16 s).reverse ++ units), stack⟩ := by
  induction s generalizing units with
  | nil => rfl
  | cons c s ih =>
    rw [List.flatMap_cons, feed_append, feed_quoteChar, Option.bind_some, ih, utf16, utf16,
      List.flatMap_cons, List.reverse_append, List.append_assoc]

theorem feed_quote (mayClose : Bool) (s : String) :
    feed ⟨.value mayClose, stack⟩ (quote s) =
      some ⟨.after (.string (utf16 s.toList)), stack⟩ := by
  have hopen : step ⟨.value mayClose, stack⟩ '"' = some ⟨.string none [], stack⟩ := rfl
  rw [quote, List.cons_append, feed_cons, hopen, Option.bind_some, feed_append, feed_quoteChars,
    Option.bind_some]
  simp [feed_cons, step]

theorem feed_quote_key (members : List (JsString × Json)) (mayClose : Bool) (s : String) :
    feed ⟨.key members mayClose, stack⟩ (quote s) =
      some ⟨.colon members (utf16 s.toList), stack⟩ := by
  have hopen : step ⟨.key members mayClose, stack⟩ '"' = some ⟨.string (some members) [], stack⟩ := rfl
  rw [quote, List.cons_append, feed_cons, hopen, Option.bind_some, feed_append, feed_quoteChars,
    Option.bind_some]
  simp [feed_cons, step]

end Strings

/-! ### Integers -/

/-- An integer that is a double. -/
structure JsInt where
  val : ℤ
  isDouble : JsNumber.roundMagnitude val.natAbs 1 = some (val.natAbs : ℚ)

namespace JsInt

def ofWord (w : BitVec 256) : JsInt where
  val := JsNumber.nearest w.toNat
  isDouble := JsNumber.roundMagnitude_nearest w.isLt

def ofNat (n : ℕ) (h : n < 2 ^ 53) : JsInt where
  val := n
  isDouble := JsNumber.roundMagnitude_of_lt h

def toNumber (n : JsInt) : JsNumber := .finite n.val

theorem roundRatio_val (n : JsInt) :
    JsNumber.roundRatio (decide (n.val < 0)) n.val.natAbs 1 = n.toNumber := by
  rw [JsNumber.roundRatio, n.isDouble, toNumber]
  by_cases h : n.val < 0
  · have habs : ((n.val.natAbs : ℤ) : ℚ) = -n.val := by
      rw [Int.ofNat_natAbs_of_nonpos (le_of_lt h), Int.cast_neg]
    simp only [h, decide_true, if_true]
    rw [← Int.cast_natCast, habs, neg_neg]
  · have habs : ((n.val.natAbs : ℤ) : ℚ) = n.val := by
      rw [Int.natAbs_of_nonneg (not_lt.mp h)]
    simp only [h, decide_false]
    rw [← Int.cast_natCast, habs]
    rfl

/-- The fewest digits `s` such that `s * 10 ^ z` rounds to `v`, tried from `z` zeros down. -/
def shortest (v : ℕ) : ℕ → ℕ × ℕ
  | 0 => (v, 0)
  | z + 1 =>
      let s := JsNumber.roundHalfEven v (10 ^ (z + 1))
      if JsNumber.roundMagnitude (s * 10 ^ (z + 1)) 1 = some (v : ℚ) then (s, z + 1)
      else shortest v z

/-- `Number::toString` of a number from zero up. -/
def printNat (v : ℕ) : List Char :=
  let (s, z) := shortest v (Nat.toDigits 10 v).length
  let digits := Nat.toDigits 10 s
  let n := digits.length + z
  if n ≤ 21 then Nat.toDigits 10 (s * 10 ^ z)
  else
    match digits with
    | [] => []
    | d :: rest =>
        (if rest = [] then [d] else d :: '.' :: rest) ++ 'e' :: '+' :: Nat.toDigits 10 (n - 1)

def print (n : JsInt) : List Char :=
  if n.val < 0 then '-' :: printNat n.val.natAbs else printNat n.val.natAbs

theorem shortest_spec {v : ℕ} (hv : JsNumber.roundMagnitude v 1 = some (v : ℚ)) (z : ℕ) :
    JsNumber.roundMagnitude ((shortest v z).1 * 10 ^ (shortest v z).2) 1 = some (v : ℚ) := by
  induction z with
  | zero => simpa [shortest] using hv
  | succ z ih =>
    simp only [shortest]
    split
    · next h => exact h
    · exact ih

end JsInt

/-! ### Digits -/

theorem digitsValue_eq {digits : List Char} (h : ∀ c ∈ digits, c.isDigit) (n : ℕ) :
    digits.foldl (fun n c => n * 10 + (JsNumber.digitValue c).getD 0) n =
      Nat.ofDigitChars 10 digits n := by
  induction digits generalizing n with
  | nil => rfl
  | cons c digits ih =>
    have hc : JsNumber.digitValue c = some (c.toNat - '0'.toNat) := by
      simp [JsNumber.digitValue, h c List.mem_cons_self]
    rw [List.foldl_cons, ih fun c hc => h c (List.mem_cons_of_mem _ hc), Nat.ofDigitChars_cons, hc,
      Option.getD_some, Nat.mul_comm]

theorem isDigit_toDigits {n : ℕ} : ∀ c ∈ Nat.toDigits 10 n, c.isDigit := by
  intro _ hc
  exact Nat.isDigit_of_mem_toDigits (by decide) (by decide) hc

theorem toString_injective {m n : ℕ} (h : toString m = toString n) : m = n := by
  have hdigits : Nat.toDigits 10 m = Nat.toDigits 10 n := by simpa using congrArg String.toList h
  rw [← Nat.ofDigitChars_ten_toDigits (n := m), hdigits, Nat.ofDigitChars_ten_toDigits]

@[simp] theorem digitsValue_toDigits (n : ℕ) :
    JsNumber.digitsValue 10 (Nat.toDigits 10 n) = n := by
  rw [JsNumber.digitsValue, digitsValue_eq isDigit_toDigits, Nat.ofDigitChars_ten_toDigits]

theorem head_toDigits {n : ℕ} (h : (Nat.toDigits 10 n).head? = some '0') : n = 0 := by
  induction n using Nat.strongRecOn with
  | ind n ih =>
    by_cases hn : n < 10
    · rw [Nat.toDigits_of_lt_base hn] at h
      interval_cases n <;> simp_all [Nat.digitChar]
    · rw [Nat.toDigits_of_base_le (by decide) (Nat.le_of_not_lt hn),
        List.head?_append_of_ne_nil _ Nat.toDigits_ne_nil] at h
      have := ih (n / 10) (by omega) h
      omega

/-! ### Reading numbers back -/

theorem span_digits {digits rest : List Char} (h : ∀ c ∈ digits, c.isDigit)
    (hrest : ∀ c ∈ rest.head?, c.isDigit = false) :
    (digits ++ rest).span Char.isDigit = (digits, rest) := by
  rw [List.span_eq_takeWhile_dropWhile, List.takeWhile_append_of_pos h,
    List.dropWhile_append_of_pos h]
  cases rest with
  | nil => simp
  | cons c rest =>
    have hc : c.isDigit = false := hrest c (by simp)
    simp [hc]

theorem readExponent_toDigits (k : ℕ) :
    JsNumber.readExponent ('e' :: '+' :: Nat.toDigits 10 k) = some k := by
  have hall : (Nat.toDigits 10 k).all Char.isDigit = true :=
    List.all_eq_true.mpr isDigit_toDigits
  simp [JsNumber.readExponent, Nat.toDigits_ne_nil, hall]

theorem numberOfUnsigned_toDigits (negative : Bool) (m : ℕ) :
    numberOfUnsigned negative (Nat.toDigits 10 m) = some (.roundRatio negative m 1) := by
  have hspan : (Nat.toDigits 10 m).span Char.isDigit = (Nat.toDigits 10 m, []) := by
    have hnil : ∀ c ∈ ([] : List Char).head?, c.isDigit = false := by simp
    simpa using span_digits isDigit_toDigits hnil
  have hzero : ¬ (1 < (Nat.toDigits 10 m).length ∧ (Nat.toDigits 10 m).head? = some '0') := by
    rintro ⟨hlen, hhead⟩
    rw [head_toDigits hhead, Nat.toDigits_zero] at hlen
    simp at hlen
  simp only [numberOfUnsigned, hspan, Nat.toDigits_ne_nil, hzero, or_self, if_false,
    readFraction_nil, JsNumber.readExponent_nil, Option.bind_some, Option.map_some, List.append_nil,
    digitsValue_toDigits, List.length_nil, Nat.cast_zero, sub_zero, JsNumber.ofDecimal_zero]

theorem numberOfUnsigned_exponent (negative : Bool) {d : Char} {rest : List Char}
    (hd : d.isDigit) (hrest : ∀ c ∈ rest, c.isDigit) (k : ℕ) :
    numberOfUnsigned negative
      ((if rest = [] then [d] else d :: '.' :: rest) ++ 'e' :: '+' :: Nat.toDigits 10 k) =
      some (.ofDecimal negative (JsNumber.digitsValue 10 (d :: rest)) (k - rest.length)) := by
  have he : ∀ c ∈ ('e' :: '+' :: Nat.toDigits 10 k).head?, c.isDigit = false := by simp
  have hdot (s : List Char) : ∀ c ∈ ('.' :: s).head?, c.isDigit = false := by simp
  have hone : ∀ c ∈ [d], c.isDigit := by simpa using hd
  by_cases hnil : rest = []
  · subst hnil
    have hspan := span_digits hone he
    have hfraction : readFraction ('e' :: '+' :: Nat.toDigits 10 k) =
        some ([], 'e' :: '+' :: Nat.toDigits 10 k) := rfl
    simp only [if_true, numberOfUnsigned, hspan, hfraction, Option.bind_some,
      readExponent_toDigits]
    simp
  · have hspan := span_digits hone (hdot (rest ++ 'e' :: '+' :: Nat.toDigits 10 k))
    have hspan' := span_digits hrest he
    simp only [List.cons_append, List.nil_append] at hspan
    simp only [if_neg hnil, numberOfUnsigned, List.cons_append, hspan, readFraction, hspan',
      Option.bind_some, readExponent_toDigits]
    simp

namespace JsInt

theorem numberOfUnsigned_printNat (negative : Bool) {v : ℕ}
    (hv : JsNumber.roundMagnitude v 1 = some (v : ℚ)) :
    numberOfUnsigned negative (printNat v) = some (.roundRatio negative v 1) := by
  have hspec := shortest_spec hv (Nat.toDigits 10 v).length
  unfold printNat
  generalize shortest v (Nat.toDigits 10 v).length = sz at hspec
  obtain ⟨s, z⟩ := sz
  have hround : JsNumber.roundRatio negative (s * 10 ^ z) 1 = .roundRatio negative v 1 := by
    rw [JsNumber.roundRatio, JsNumber.roundRatio, hspec, hv]
  simp only
  split
  · rw [numberOfUnsigned_toDigits, hround]
  have hdigits : ∀ c ∈ Nat.toDigits 10 s, c.isDigit := isDigit_toDigits
  have hvalue := digitsValue_toDigits s
  rcases hcases : Nat.toDigits 10 s with _ | ⟨d, rest⟩
  · exact absurd hcases Nat.toDigits_ne_nil
  rw [hcases] at hdigits hvalue
  simp only
  rw [numberOfUnsigned_exponent negative (hdigits d List.mem_cons_self)
    (fun c hc => hdigits c (List.mem_cons_of_mem _ hc)), hvalue]
  have hexponent : (((d :: rest).length + z - 1 : ℕ) : ℤ) - rest.length = z := by
    rw [List.length_cons]; omega
  rw [hexponent, JsNumber.ofDecimal, if_pos (Int.natCast_nonneg z), Int.toNat_natCast, hround]

theorem printNat_cons (v : ℕ) :
    ∃ d rest, printNat v = d :: rest ∧ d.isDigit ∧ ∀ c ∈ rest, isNumberChar c := by
  have hdigits {n : ℕ} : ∀ c ∈ Nat.toDigits 10 n, isNumberChar c := fun c hc => by
    simp [isNumberChar, isDigit_toDigits c hc]
  have hcons (n : ℕ) : ∃ d rest, Nat.toDigits 10 n = d :: rest ∧ d.isDigit ∧
      ∀ c ∈ rest, isNumberChar c := by
    rcases h : Nat.toDigits 10 n with _ | ⟨d, rest⟩
    · exact absurd h Nat.toDigits_ne_nil
    · exact ⟨d, rest, rfl, isDigit_toDigits d (h ▸ List.mem_cons_self),
        fun c hc => hdigits c (h ▸ List.mem_cons_of_mem _ hc)⟩
  simp only [printNat]
  split
  · exact hcons _
  obtain ⟨d, rest, h, hd, hrest⟩ := hcons (shortest v (Nat.toDigits 10 v).length).1
  rw [h]
  simp only
  have htail (k : ℕ) : ∀ c ∈ 'e' :: '+' :: Nat.toDigits 10 k, isNumberChar c := by
    intro c hc
    rcases List.mem_cons.mp hc with rfl | hc
    · rfl
    rcases List.mem_cons.mp hc with rfl | hc
    · rfl
    · exact hdigits c hc
  by_cases hnil : rest = []
  · exact ⟨d, _, by rw [if_pos hnil]; rfl, hd, htail _⟩
  · refine ⟨d, _, by rw [if_neg hnil]; rfl, hd, fun c hc => ?_⟩
    rcases List.mem_cons.mp hc with rfl | hc
    · rfl
    · exact (List.mem_append.mp hc).elim (hrest c) (htail _ c)

theorem numberOfToken_print (n : JsInt) : numberOfToken n.print = some n.toNumber := by
  have hread (negative : Bool) := numberOfUnsigned_printNat negative n.isDouble
  have hval := n.roundRatio_val
  by_cases h : n.val < 0
  · simp only [h, decide_true] at hval
    rw [print, if_pos h, numberOfToken, hread, hval]
  · simp only [h, decide_false] at hval
    obtain ⟨d, rest, hcons, hd, -⟩ := printNat_cons n.val.natAbs
    have hminus : ∀ s, printNat n.val.natAbs ≠ '-' :: s := by
      intro s hs
      rw [hcons] at hs
      obtain ⟨rfl, -⟩ := List.cons.inj hs
      simp at hd
    rw [print, if_neg h, numberOfToken.eq_2 _ hminus, hread, hval]

theorem feed_numberChars (stack : List Frame) {token s : List Char}
    (hs : ∀ c ∈ s, isNumberChar c) :
    feed ⟨.number token, stack⟩ s = some ⟨.number (token ++ s), stack⟩ := by
  induction s generalizing token with
  | nil => simp
  | cons c s ih =>
    have hc : step ⟨.number token, stack⟩ c = some ⟨.number (token ++ [c]), stack⟩ := by
      simp [step, hs c List.mem_cons_self]
    rw [feed_cons, hc, Option.bind_some, ih fun c hc => hs c (List.mem_cons_of_mem _ hc),
      List.append_assoc, List.singleton_append]

theorem feed_print (mayClose : Bool) (stack : List Frame) (n : JsInt) :
    feed ⟨.value mayClose, stack⟩ n.print = some ⟨.number n.print, stack⟩ := by
  obtain ⟨d, rest, hcons, hd, hrest⟩ := printNat_cons n.val.natAbs
  have hstart (c : Char) (hc : c.isDigit ∨ c = '-') :
      step ⟨.value mayClose, stack⟩ c = some ⟨.number [c], stack⟩ := by
    rcases hc with hc | rfl
    · have hne (x : Char) (hx : x.isDigit = false) : c ≠ x := by
        rintro rfl
        rw [hc] at hx
        cases hx
      simp [step, stepValue, isWhiteSpace, hc, hne ' ' rfl, hne '\t' rfl, hne '\n' rfl, hne '\r' rfl,
        hne '"' rfl, hne '{' rfl, hne '[' rfl, hne ']' rfl, hne 't' rfl, hne 'f' rfl, hne 'n' rfl]
    · rfl
  have hdigit : isNumberChar d := by simp [isNumberChar, hd]
  by_cases h : n.val < 0
  · rw [print, if_pos h, hcons, feed_cons, hstart _ (Or.inr rfl), Option.bind_some,
      feed_numberChars stack fun c hc => (List.mem_cons.mp hc).elim (fun h => h ▸ hdigit) (hrest c)]
    rfl
  · rw [print, if_neg h, hcons, feed_cons, hstart _ (Or.inl hd), Option.bind_some,
      feed_numberChars stack hrest]
    rfl

theorem step_print (stack : List Frame) (n : JsInt) {c : Char} (hc : isNumberChar c = false) :
    step ⟨.number n.print, stack⟩ c = stepAfter (.number n.toNumber) stack c := by
  simp [step, hc, numberOfToken_print]

end JsInt

end DVoD.Text
