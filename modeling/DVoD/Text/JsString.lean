import DVoD.Text.Utf8
import Mathlib.Data.List.TakeWhile

/-!
# Strings of JavaScript

Strings are sequences of UTF-16 code units, since an escape may spell a lone surrogate;
`utf16` is injective on strings of characters.  `split` is the beginning of
`s.split(separator)`, which is all that the code looks at.
-/

namespace DVoD.Text

/-! ### UTF-16 -/

abbrev JsString := List UInt16

def utf16Units (c : Char) : JsString :=
  let n := c.toNat
  if n < 0x10000 then [UInt16.ofNat n]
  else [UInt16.ofNat (0xD800 + (n - 0x10000) / 1024), UInt16.ofNat (0xDC00 + (n - 0x10000) % 1024)]

def utf16 (s : List Char) : JsString := s.flatMap utf16Units

/-- The character that starts a sequence of code units, and what follows. -/
def utf16Head : JsString → Option (ℕ × JsString)
  | [] => none
  | a :: rest =>
      if 0xD800 ≤ a.toNat ∧ a.toNat ≤ 0xDBFF then
        match rest with
        | [] => none
        | b :: rest => some (0x10000 + (a.toNat - 0xD800) * 1024 + (b.toNat - 0xDC00), rest)
      else some (a.toNat, rest)

/-- A character is a unit that is no surrogate, or a pair of surrogates. -/
theorem utf16Units_cases (c : Char) :
    (∃ a, utf16Units c = [a] ∧ a.toNat = c.toNat ∧ (a.toNat < 0xD800 ∨ 0xE000 ≤ a.toNat)) ∨
    ∃ a b, utf16Units c = [a, b] ∧ (0xD800 ≤ a.toNat ∧ a.toNat < 0xDC00) ∧
      (0xDC00 ≤ b.toNat ∧ b.toNat < 0xE000) ∧
      0x10000 + (a.toNat - 0xD800) * 1024 + (b.toNat - 0xDC00) = c.toNat := by
  have hc := Utf8.toNat_range c
  simp only [utf16Units]
  split
  · next h =>
    have ha : (UInt16.ofNat c.toNat).toNat = c.toNat := by simpa using Nat.mod_eq_of_lt h
    exact Or.inl ⟨_, rfl, ha, by omega⟩
  · have hhigh : 0xD800 + (c.toNat - 0x10000) / 1024 < 65536 := by omega
    have hlow : 0xDC00 + (c.toNat - 0x10000) % 1024 < 65536 := by omega
    have ha : (UInt16.ofNat (0xD800 + (c.toNat - 0x10000) / 1024)).toNat =
        0xD800 + (c.toNat - 0x10000) / 1024 := by simpa using Nat.mod_eq_of_lt hhigh
    have hb : (UInt16.ofNat (0xDC00 + (c.toNat - 0x10000) % 1024)).toNat =
        0xDC00 + (c.toNat - 0x10000) % 1024 := by simpa using Nat.mod_eq_of_lt hlow
    exact Or.inr ⟨_, _, rfl, by omega, by omega, by omega⟩

theorem utf16Head_units (c : Char) (rest : JsString) :
    utf16Head (utf16Units c ++ rest) = some (c.toNat, rest) := by
  rcases utf16Units_cases c with ⟨a, hunits, ha, hrange⟩ | ⟨a, b, hunits, hhigh, hlow, hvalue⟩
  · rw [hunits, List.singleton_append, utf16Head.eq_def]
    simp only
    rw [if_neg (by omega), ha]
  · simp only [hunits, List.cons_append, List.nil_append, utf16Head]
    rw [if_pos (by omega), hvalue]

theorem utf16_injective {s s' : List Char} (h : utf16 s = utf16 s') : s = s' := by
  induction s generalizing s' with
  | nil =>
    cases s' with
    | nil => rfl
    | cons c' s' =>
      have hhead := utf16Head_units c' (utf16 s')
      rw [show utf16Units c' ++ utf16 s' = [] from h.symm] at hhead
      cases hhead
  | cons c s ih =>
    have hhead := utf16Head_units c (utf16 s)
    cases s' with
    | nil =>
      rw [show utf16Units c ++ utf16 s = [] from h] at hhead
      cases hhead
    | cons c' s' =>
      rw [show utf16Units c ++ utf16 s = utf16Units c' ++ utf16 s' from h, utf16Head_units] at hhead
      obtain ⟨hc, hs⟩ := Prod.mk.inj (Option.some.inj hhead)
      rw [ih hs.symm, ← Char.ofNat_toNat c, ← hc, Char.ofNat_toNat]

/-- The characters of code units that are well-formed. -/
def ofUtf16 : JsString → Option (List Char)
  | [] => some []
  | a :: rest =>
      if a.toNat < 0xD800 ∨ 0xE000 ≤ a.toNat then (ofUtf16 rest).map (Char.ofNat a.toNat :: ·)
      else if 0xDC00 ≤ a.toNat then none
      else
        match rest with
        | [] => none
        | b :: rest =>
            if 0xDC00 ≤ b.toNat ∧ b.toNat < 0xE000 then
              (ofUtf16 rest).map
                (Char.ofNat (0x10000 + (a.toNat - 0xD800) * 1024 + (b.toNat - 0xDC00)) :: ·)
            else none

theorem ofUtf16_unit {a : UInt16} (h : a.toNat < 0xD800 ∨ 0xE000 ≤ a.toNat) (rest : JsString) :
    ofUtf16 (a :: rest) = (ofUtf16 rest).map (Char.ofNat a.toNat :: ·) := by
  rw [ofUtf16.eq_def]
  exact if_pos h

theorem ofUtf16_units (c : Char) (rest : JsString) :
    ofUtf16 (utf16Units c ++ rest) = (ofUtf16 rest).map (c :: ·) := by
  rcases utf16Units_cases c with ⟨a, hunits, ha, hrange⟩ | ⟨a, b, hunits, hhigh, hlow, hvalue⟩
  · rw [hunits, List.singleton_append, ofUtf16_unit hrange, ha, Char.ofNat_toNat]
  · simp only [hunits, List.cons_append, List.nil_append, ofUtf16]
    rw [if_neg (by omega), if_neg (by omega), if_pos hlow, hvalue, Char.ofNat_toNat]

theorem ofUtf16_utf16 (s : List Char) : ofUtf16 (utf16 s) = some s := by
  induction s with
  | nil => rfl
  | cons c s ih =>
    have hcons : utf16 (c :: s) = utf16Units c ++ utf16 s := rfl
    rw [hcons, ofUtf16_units, ih, Option.map_some]

/-! ### Splitting -/

/-- The first two pieces of `s.split(separator)`. -/
def split (separator : Char) (s : List Char) : List Char × Option (List Char) :=
  let piece := s.takeWhile (· ≠ separator)
  match s.dropWhile (· ≠ separator) with
  | [] => (piece, none)
  | _ :: rest => (piece, some (rest.takeWhile (· ≠ separator)))

variable {separator : Char}

theorem takeWhile_append_separator {s rest : List Char} (h : separator ∉ s)
    (hrest : rest = [] ∨ ∃ rest', rest = separator :: rest') :
    (s ++ rest).takeWhile (· ≠ separator) = s ∧ (s ++ rest).dropWhile (· ≠ separator) = rest := by
  have hpos : ∀ c ∈ s, decide (c ≠ separator) = true := by
    intro c hc
    simpa using fun heq : c = separator => h (heq ▸ hc)
  rw [List.takeWhile_append_of_pos hpos, List.dropWhile_append_of_pos hpos]
  rcases hrest with rfl | ⟨rest', rfl⟩ <;> simp

theorem split_pieces {s s' rest : List Char} (h : separator ∉ s) (h' : separator ∉ s')
    (hrest : rest = [] ∨ ∃ rest', rest = separator :: rest') :
    split separator (s ++ separator :: (s' ++ rest)) = (s, some s') := by
  unfold split
  rw [(takeWhile_append_separator h (Or.inr ⟨_, rfl⟩)).1,
    (takeWhile_append_separator h (Or.inr ⟨_, rfl⟩)).2]
  simp only [(takeWhile_append_separator h' hrest).1]

theorem split_append {s s' : List Char} (h : separator ∉ s) (h' : separator ∉ s') :
    split separator (s ++ separator :: s') = (s, some s') := by
  have hsplit := split_pieces h h' (Or.inl rfl)
  rwa [List.append_nil] at hsplit

/-- The first piece, the second one and what is not looked at, which a separator starts. -/
theorem split_cases (separator : Char) (s : List Char) :
    (separator ∉ s ∧ split separator s = (s, none)) ∨
    ∃ piece piece' rest, separator ∉ piece ∧ separator ∉ piece' ∧
      (rest = [] ∨ ∃ rest', rest = separator :: rest') ∧
      s = piece ++ separator :: (piece' ++ rest) ∧ split separator s = (piece, some piece') := by
  have htake (s : List Char) : separator ∉ s.takeWhile (· ≠ separator) := by
    intro hmem
    simpa using List.mem_takeWhile_imp hmem
  have hstart (s : List Char) : s.dropWhile (· ≠ separator) = [] ∨
      ∃ rest, s.dropWhile (· ≠ separator) = separator :: rest := by
    have hhead := List.head?_dropWhile_not (fun c : Char => decide (c ≠ separator)) s
    cases hdrop : s.dropWhile (· ≠ separator) with
    | nil => exact Or.inl rfl
    | cons c rest =>
      rw [hdrop] at hhead
      have hc : c = separator := by simpa using hhead
      exact Or.inr ⟨rest, by rw [hc]⟩
  unfold split
  rcases hstart s with hdrop | ⟨rest, hdrop⟩
  · left
    have hs : s.takeWhile (· ≠ separator) = s := by
      have happend := List.takeWhile_append_dropWhile (p := (· ≠ separator)) (l := s)
      rwa [hdrop, List.append_nil] at happend
    refine ⟨hs ▸ htake s, ?_⟩
    simp only [hdrop, hs]
  · right
    refine ⟨s.takeWhile (· ≠ separator), rest.takeWhile (· ≠ separator),
      rest.dropWhile (· ≠ separator), htake s, htake rest, hstart rest, ?_, ?_⟩
    · rw [List.takeWhile_append_dropWhile, ← hdrop, List.takeWhile_append_dropWhile]
    · simp only [hdrop]

theorem split_eq_some {s piece piece' : List Char} (h : split separator s = (piece, some piece')) :
    ∃ rest, s = piece ++ separator :: (piece' ++ rest) := by
  rcases split_cases separator s with ⟨-, hsplit⟩ | ⟨_, _, rest, -, -, -, hs, hsplit⟩
  · cases h.symm.trans hsplit
  · cases h.symm.trans hsplit
    exact ⟨rest, hs⟩

end DVoD.Text
