import DVoD.Text.Stringify

/-!
# Hexadecimal text

Bytes written with `b.toString(16).padStart(2, "0")`, and read back two digits at a time,
as `Buffer.from(text, "hex")` does.  `ofHex_toHex` is the round trip.
-/

namespace DVoD.Text

open JsNumber

def padStart (length : ℕ) (fill : Char) (s : List Char) : List Char :=
  List.replicate (length - s.length) fill ++ s

/-- `n.toString(16)`. -/
def toString16 (n : ℕ) : List Char := Nat.toDigits 16 n

def hexByte (b : UInt8) : List Char := padStart 2 '0' (toString16 b.toNat)

def toHex (bytes : List UInt8) : List Char := bytes.flatMap hexByte

def hexValue (c : Char) : Option ℕ := (digitValue c).filter (· < 16)

/-- It stops before what is not two digits. -/
def ofHex : List Char → List UInt8
  | c :: c' :: rest =>
      match hexValue c, hexValue c' with
      | some high, some low => UInt8.ofNat (16 * high + low) :: ofHex rest
      | _, _ => []
  | _ => []

theorem hexByte_eq (b : UInt8) : hexByte b = [hexDigit (b.toNat / 16), hexDigit (b.toNat % 16)] := by
  have hall : ∀ n < 256, padStart 2 '0' (toString16 n) = [hexDigit (n / 16), hexDigit (n % 16)] := by
    decide +kernel
  exact hall b.toNat b.toNat_lt

theorem hexValue_hexDigit {n : ℕ} (h : n < 16) : hexValue (hexDigit n) = some n := by
  revert n
  decide

theorem ofHex_toHex (bytes : List UInt8) : ofHex (toHex bytes) = bytes := by
  induction bytes with
  | nil => rfl
  | cons b bytes ih =>
    have hb : b.toNat < 256 := b.toNat_lt
    have hhigh := hexValue_hexDigit (show b.toNat / 16 < 16 by omega)
    have hlow := hexValue_hexDigit (show b.toNat % 16 < 16 by omega)
    have hvalue : 16 * (b.toNat / 16) + b.toNat % 16 = b.toNat := Nat.div_add_mod _ _
    have hcons : toHex (b :: bytes) =
        hexDigit (b.toNat / 16) :: hexDigit (b.toNat % 16) :: toHex bytes := by
      rw [toHex, List.flatMap_cons, hexByte_eq]
      rfl
    rw [hcons, ofHex, hhigh, hlow]
    simp only [hvalue, ih, UInt8.ofNat_toNat]

end DVoD.Text
