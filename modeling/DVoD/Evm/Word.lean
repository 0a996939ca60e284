import Mathlib.Data.List.Induction
import Mathlib.Tactic.Ring
import Mathlib.Tactic.NormNum

/-!
# Words, addresses and bytes of the EVM

256-bit words, 160-bit addresses, and the big-endian byte strings that `abi.encode`
makes of words.  `Word.ofBytes_toBytes` is the round trip the ABI rests on.
-/

namespace DVoD.Evm

abbrev Word := BitVec 256
abbrev Address := BitVec 160
abbrev Bytes := List UInt8

/-- The last `k` base-256 digits of `n`, most significant first. -/
def bigEndian : Nat → Nat → Bytes
  | 0, _ => []
  | k + 1, n => bigEndian k (n / 256) ++ [UInt8.ofNat (n % 256)]

def natOfBytes (bytes : Bytes) : Nat := bytes.foldl (fun n b => n * 256 + b.toNat) 0

@[simp] theorem length_bigEndian (k n : Nat) : (bigEndian k n).length = k := by
  induction k generalizing n with
  | zero => rfl
  | succ k ih => simp [bigEndian, ih]

theorem natOfBytes_concat (bytes : Bytes) (b : UInt8) :
    natOfBytes (bytes ++ [b]) = natOfBytes bytes * 256 + b.toNat := by
  simp [natOfBytes, List.foldl_append]

theorem natOfBytes_bigEndian (k n : Nat) (h : n < 256 ^ k) : natOfBytes (bigEndian k n) = n := by
  induction k generalizing n with
  | zero => simp only [Nat.pow_zero, Nat.lt_one_iff] at h; rw [h]; rfl
  | succ k ih =>
    have hdiv : n / 256 < 256 ^ k := Nat.div_lt_of_lt_mul (by rwa [Nat.pow_succ'] at h)
    have hmod : (UInt8.ofNat (n % 256)).toNat = n % 256 := by
      simp [UInt8.toNat_ofNat']
    rw [bigEndian, natOfBytes_concat, ih _ hdiv, hmod]
    omega

theorem natOfBytes_lt (bytes : Bytes) : natOfBytes bytes < 256 ^ bytes.length := by
  induction bytes using List.reverseRecOn with
  | nil => decide
  | append_singleton bytes b ih =>
    have hb : b.toNat < 256 := b.toNat_lt
    rw [natOfBytes_concat, List.length_append, List.length_singleton, Nat.pow_succ]
    omega

theorem bigEndian_natOfBytes (bytes : Bytes) :
    bigEndian bytes.length (natOfBytes bytes) = bytes := by
  induction bytes using List.reverseRecOn with
  | nil => rfl
  | append_singleton bytes b ih =>
    have hb : b.toNat < 256 := b.toNat_lt
    have hdiv : (natOfBytes bytes * 256 + b.toNat) / 256 = natOfBytes bytes := by omega
    have hmod : (natOfBytes bytes * 256 + b.toNat) % 256 = b.toNat := by omega
    rw [List.length_append, List.length_singleton, bigEndian, natOfBytes_concat, hdiv, hmod, ih,
      UInt8.ofNat_toNat]

namespace Word

def toBytes (w : Word) : Bytes := bigEndian 32 w.toNat

/-- The word that the first 32 bytes spell. -/
def ofBytes (bytes : Bytes) : Word := BitVec.ofNat 256 (natOfBytes (bytes.take 32))

@[simp] theorem length_toBytes (w : Word) : w.toBytes.length = 32 := length_bigEndian 32 _

theorem ofBytes_toBytes_append (w : Word) (rest : Bytes) : ofBytes (w.toBytes ++ rest) = w := by
  have hlt : w.toNat < 256 ^ 32 := by have := w.isLt; norm_num at this ⊢; exact this
  rw [ofBytes, List.take_left' (length_toBytes w), toBytes, natOfBytes_bigEndian 32 _ hlt,
    BitVec.ofNat_toNat, BitVec.setWidth_eq]

@[simp] theorem ofBytes_toBytes (w : Word) : ofBytes w.toBytes = w := by
  simpa using ofBytes_toBytes_append w []

theorem toBytes_injective {w w' : Word} (h : w.toBytes = w'.toBytes) : w = w' := by
  rw [← ofBytes_toBytes w, h, ofBytes_toBytes]

theorem toBytes_ofBytes {bytes : Bytes} (h : bytes.length = 32) : (ofBytes bytes).toBytes = bytes := by
  have hlt : natOfBytes bytes < 2 ^ 256 := by
    have := natOfBytes_lt bytes
    rw [h] at this
    norm_num at this ⊢
    exact this
  rw [toBytes, ofBytes, List.take_of_length_le h.le, BitVec.toNat_ofNat, Nat.mod_eq_of_lt hlt, ← h,
    bigEndian_natOfBytes]

end Word

def abiEncode (words : List Word) : Bytes := words.flatMap Word.toBytes

def abiWord (data : Bytes) (i : Nat) : Word := Word.ofBytes (data.drop (32 * i))

@[simp] theorem abiEncode_nil : abiEncode [] = [] := rfl
@[simp] theorem abiEncode_cons (w : Word) (ws : List Word) :
    abiEncode (w :: ws) = w.toBytes ++ abiEncode ws := rfl

@[simp] theorem length_abiEncode (ws : List Word) : (abiEncode ws).length = 32 * ws.length := by
  induction ws with
  | nil => rfl
  | cons w ws ih => simp only [abiEncode_cons, List.length_append, Word.length_toBytes, ih,
      List.length_cons]; omega

@[simp] theorem abiWord_zero (w : Word) (ws : List Word) : abiWord (abiEncode (w :: ws)) 0 = w := by
  simp [abiWord, Word.ofBytes_toBytes_append]

@[simp] theorem abiWord_succ (w : Word) (ws : List Word) (i : Nat) :
    abiWord (abiEncode (w :: ws)) (i + 1) = abiWord (abiEncode ws) i := by
  have hdrop : (abiEncode (w :: ws)).drop (32 * (i + 1)) = (abiEncode ws).drop (32 * i) := by
    rw [abiEncode_cons, Nat.mul_succ, Nat.add_comm, ← List.drop_drop,
      List.drop_left' (Word.length_toBytes w)]
  rw [abiWord, hdrop, abiWord]

def word (n : Nat) : Word := BitVec.ofNat 256 n

theorem toNat_word {n : Nat} (h : n < 2 ^ 256) : (word n).toNat = n := by
  simpa [word] using Nat.mod_eq_of_lt h

/-- A word of an address: twelve zero bytes, then the address. -/
def addressWord (a : Address) : Word := a.setWidth 256

def wordAddress (w : Word) : Address := w.setWidth 160

@[simp] theorem wordAddress_addressWord (a : Address) : wordAddress (addressWord a) = a := by
  simp [wordAddress, addressWord]

end DVoD.Evm
