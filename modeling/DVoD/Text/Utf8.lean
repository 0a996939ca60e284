import Mathlib.Data.Nat.Notation

/-!
# UTF-8

`encode` is `Buffer.from(s)`, `decode` is `buffer.toString()`: the decoder of the
WHATWG, which replaces what is not UTF-8 by U+FFFD.  `decode_encode` is the round
trip.
-/

namespace DVoD.Text.Utf8

/-! ### Encoding -/

def units (c : Char) : List ℕ :=
  let n := c.toNat
  if n < 0x80 then [n]
  else if n < 0x800 then [0xC0 + n / 64, 0x80 + n % 64]
  else if n < 0x10000 then [0xE0 + n / 4096, 0x80 + n / 64 % 64, 0x80 + n % 64]
  else [0xF0 + n / 262144, 0x80 + n / 4096 % 64, 0x80 + n / 64 % 64, 0x80 + n % 64]

def encode (s : List Char) : List UInt8 := (s.flatMap units).map UInt8.ofNat

/-! ### Decoding -/

/-- What the decoder has read of a character: its bits so far, how many more bytes
    it needs, and the bounds of the next one. -/
structure State where
  codePoint : ℕ
  needed : ℕ
  lower : ℕ
  upper : ℕ

def State.start : State := ⟨0, 0, 0x80, 0xBF⟩

def replacement : Char := '\uFFFD'

def first (b : ℕ) : List Char × State :=
  if b < 0x80 then ([Char.ofNat b], .start)
  else if 0xC2 ≤ b ∧ b ≤ 0xDF then ([], ⟨b - 0xC0, 1, 0x80, 0xBF⟩)
  else if 0xE0 ≤ b ∧ b ≤ 0xEF then
    ([], ⟨b - 0xE0, 2, if b = 0xE0 then 0xA0 else 0x80, if b = 0xED then 0x9F else 0xBF⟩)
  else if 0xF0 ≤ b ∧ b ≤ 0xF4 then
    ([], ⟨b - 0xF0, 3, if b = 0xF0 then 0x90 else 0x80, if b = 0xF4 then 0x8F else 0xBF⟩)
  else ([replacement], .start)

def next (st : State) (b : ℕ) : List Char × State :=
  if st.needed = 0 then first b
  else if st.lower ≤ b ∧ b ≤ st.upper then
    let codePoint := st.codePoint * 64 + (b - 0x80)
    if st.needed = 1 then ([Char.ofNat codePoint], .start)
    else ([], ⟨codePoint, st.needed - 1, 0x80, 0xBF⟩)
  else (replacement :: (first b).1, (first b).2)

def decodeUnits (st : State) : List ℕ → List Char
  | [] => if st.needed = 0 then [] else [replacement]
  | b :: bs => (next st b).1 ++ decodeUnits (next st b).2 bs

def decode (bytes : List UInt8) : List Char := decodeUnits .start (bytes.map UInt8.toNat)

/-! ### The round trip -/

theorem toNat_range (c : Char) :
    c.toNat < 0xD800 ∨ (0xDFFF < c.toNat ∧ c.toNat < 0x110000) := c.valid

theorem lt_of_mem_units {c : Char} {b : ℕ} (h : b ∈ units c) : b < 256 := by
  have hc := toNat_range c
  simp only [units] at h
  split at h
  · simp only [List.mem_singleton] at h; omega
  split at h
  · simp only [List.mem_cons, List.not_mem_nil, or_false] at h; omega
  split at h <;> simp only [List.mem_cons, List.not_mem_nil, or_false] at h <;> omega

theorem decodeUnits_start {b : ℕ} {bs : List ℕ} {st : State} (h : first b = ([], st)) :
    decodeUnits .start (b :: bs) = decodeUnits st bs := by
  simp [decodeUnits, next, State.start, h]

theorem decodeUnits_tail {cp k lower upper b : ℕ} {bs : List ℕ} (hlower : lower ≤ b)
    (hupper : b ≤ upper) :
    decodeUnits ⟨cp, k + 2, lower, upper⟩ (b :: bs) =
      decodeUnits ⟨cp * 64 + (b - 0x80), k + 1, 0x80, 0xBF⟩ bs := by
  simp [decodeUnits, next, hlower, hupper]

theorem decodeUnits_last {cp lower upper b : ℕ} {bs : List ℕ} (hlower : lower ≤ b)
    (hupper : b ≤ upper) :
    decodeUnits ⟨cp, 1, lower, upper⟩ (b :: bs) =
      Char.ofNat (cp * 64 + (b - 0x80)) :: decodeUnits .start bs := by
  simp [decodeUnits, next, hlower, hupper]

theorem decodeUnits_units (c : Char) (bs : List ℕ) :
    decodeUnits .start (units c ++ bs) = c :: decodeUnits .start bs := by
  have hc := toNat_range c
  have hchar {n : ℕ} (h : n = c.toNat) : Char.ofNat n = c := by rw [h, Char.ofNat_toNat]
  simp only [units]
  split
  · next h1 => simp [decodeUnits, next, first, h1, State.start]
  split
  · -- two bytes
    have hfirst : first (0xC0 + c.toNat / 64) = ([], ⟨c.toNat / 64, 1, 0x80, 0xBF⟩) := by
      rw [first, if_neg (by omega), if_pos (by omega), Nat.add_sub_cancel_left]
    simp only [List.cons_append, List.nil_append]
    rw [decodeUnits_start hfirst,
      decodeUnits_last (by omega) (by omega), hchar (by omega)]
  split
  · -- three bytes
    have hfirst : first (0xE0 + c.toNat / 4096) = ([], ⟨c.toNat / 4096, 2,
        if 0xE0 + c.toNat / 4096 = 0xE0 then 0xA0 else 0x80,
        if 0xE0 + c.toNat / 4096 = 0xED then 0x9F else 0xBF⟩) := by
      rw [first, if_neg (by omega), if_neg (by omega), if_pos (by omega), Nat.add_sub_cancel_left]
    simp only [List.cons_append, List.nil_append]
    rw [decodeUnits_start hfirst,
      decodeUnits_tail (k := 0) (by split <;> omega) (by split <;> omega),
      decodeUnits_last (by omega) (by omega), hchar (by omega)]
  · -- four bytes
    have hfirst : first (0xF0 + c.toNat / 262144) = ([], ⟨c.toNat / 262144, 3,
        if 0xF0 + c.toNat / 262144 = 0xF0 then 0x90 else 0x80,
        if 0xF0 + c.toNat / 262144 = 0xF4 then 0x8F else 0xBF⟩) := by
      rw [first, if_neg (by omega), if_neg (by omega), if_neg (by omega), if_pos (by omega),
        Nat.add_sub_cancel_left]
    simp only [List.cons_append, List.nil_append]
    rw [decodeUnits_start hfirst,
      decodeUnits_tail (k := 1) (by split <;> omega) (by split <;> omega),
      decodeUnits_tail (k := 0) (by omega) (by omega),
      decodeUnits_last (by omega) (by omega), hchar (by omega)]

theorem decode_encode (s : List Char) : decode (encode s) = s := by
  have hunits : (encode s).map UInt8.toNat = s.flatMap units := by
    rw [encode, List.map_map]
    refine (List.map_congr_left ?_).trans (List.map_id _)
    intro b hb
    obtain ⟨c, -, hb⟩ := List.mem_flatMap.mp hb
    simpa using Nat.mod_eq_of_lt (lt_of_mem_units hb)
  rw [decode, hunits]
  clear hunits
  induction s with
  | nil => rfl
  | cons c s ih => rw [List.flatMap_cons, decodeUnits_units, ih]

theorem encode_injective {s s' : List Char} (h : encode s = encode s') : s = s' := by
  rw [← decode_encode s, h, decode_encode]

theorem not_mem_units_of_ascii {c : Char} {n : ℕ} (hn : n < 0x80) (hc : c.toNat ≠ n) : n ∉ units c := by
  intro h
  simp only [units] at h
  split at h
  · simp only [List.mem_singleton] at h
    exact hc h.symm
  split at h
  · simp only [List.mem_cons, List.not_mem_nil, or_false] at h
    omega
  split at h <;> simp only [List.mem_cons, List.not_mem_nil, or_false] at h <;> omega

/-- The byte of an ASCII character stands for that character only. -/
theorem mem_encode_iff {c : Char} (hc : c.toNat < 0x80) {s : List Char} :
    UInt8.ofNat c.toNat ∈ encode s ↔ c ∈ s := by
  constructor
  · intro h
    obtain ⟨n, hn, heq⟩ := List.mem_map.mp h
    obtain ⟨c', hc', hn⟩ := List.mem_flatMap.mp hn
    have hvalue := congrArg UInt8.toNat heq
    simp only [UInt8.toNat_ofNat'] at hvalue
    have hlt := lt_of_mem_units hn
    have hsame : n = c.toNat := by omega
    have heq : c'.toNat = c.toNat := by
      apply Decidable.of_not_not
      intro hne
      rw [hsame] at hn
      exact not_mem_units_of_ascii hc hne hn
    rw [← Char.toNat_inj.mp heq]
    exact hc'
  · intro h
    apply List.mem_map_of_mem
    apply List.mem_flatMap.mpr
    refine ⟨c, h, ?_⟩
    simp only [units]
    rw [if_pos hc]
    exact List.mem_singleton_self _

/-! ### Without replacement -/

/-- The text of the bytes; `none` where they are not UTF-8. -/
def decodeStrict (bytes : List UInt8) : Option (List Char) :=
  if encode (decode bytes) = bytes then some (decode bytes) else none

theorem decodeStrict_eq_some_iff {bytes : List UInt8} {s : List Char} :
    decodeStrict bytes = some s ↔ encode s = bytes := by
  rw [decodeStrict, Option.ite_none_right_eq_some]
  constructor
  · rintro ⟨hbytes, hs⟩
    rw [← Option.some.inj hs]
    exact hbytes
  · intro hs
    rw [← hs, decode_encode]
    exact ⟨rfl, rfl⟩

end DVoD.Text.Utf8
