import Mathlib.Data.Nat.Notation

/-!
# Tiers and their prices

`tier.ts` and `pricing.ts`.  Prices are exact integers: `priceWei` is computed in
`BigInt`, and `priceDisplay` prints whole cents, which `toFixed(2)` does exactly.
-/

namespace DVoD.Session

inductive Tier where
  | lite
  | standard
  | turbo
deriving DecidableEq, Repr

namespace Tier

def name : Tier → String
  | lite => "lite"
  | standard => "standard"
  | turbo => "turbo"

def all : List Tier := [lite, standard, turbo]

def safeParse (s : String) : Option Tier := all.find? fun tier => tier.name == s

@[simp] theorem safeParse_name (tier : Tier) : safeParse tier.name = some tier := by
  cases tier <;> decide

end Tier

def tierRateCentsPerHour : Tier → ℕ
  | .lite => 10
  | .standard => 35
  | .turbo => 100

/-- Exact wei amount for (tier, hours); a cent is `10 ^ 16` wei. -/
def priceWei (tier : Tier) (hours : ℕ) : ℕ :=
  tierRateCentsPerHour tier * hours * 10000000000000000

/-- Amount for display, such as "0.35". -/
def priceDisplay (tier : Tier) (hours : ℕ) : String :=
  let cents := tierRateCentsPerHour tier * hours
  toString (cents / 100) ++ "." ++ toString (cents / 10 % 10) ++ toString (cents % 10)

end DVoD.Session
