import Mathlib.Tactic

/-! The 32-bit conversions and wrapping operations of the C++ code, on natural numbers. -/

namespace MavlinkLogService

def add32 (a b : ℕ) : ℕ := (a + b) % 2 ^ 32

def sub32 (a b : ℕ) : ℕ := (a + 2 ^ 32 - b) % 2 ^ 32

/-- `static_cast<int>` of a `uint32_t`. -/
def toInt32 (n : ℕ) : ℤ := if n < 2 ^ 31 then n else n - 2 ^ 32

/-- `static_cast<uint32_t>` of an `int`. -/
def ofInt32 (i : ℤ) : ℕ := (i % 2 ^ 32).toNat

lemma add32_eq {a b : ℕ} (h : a + b < 2 ^ 32) : add32 a b = a + b := Nat.mod_eq_of_lt h

lemma add32_lt (a b : ℕ) : add32 a b < 2 ^ 32 := Nat.mod_lt _ (by norm_num)

lemma sub32_eq {a b : ℕ} (h : b ≤ a) (ha : a < 2 ^ 32) : sub32 a b = a - b := by
  rw [sub32]
  omega

lemma ofInt32_lt (i : ℤ) : ofInt32 i < 2 ^ 32 := by
  rw [ofInt32]
  omega

lemma ofInt32_toInt32 {n : ℕ} (h : n < 2 ^ 32) : ofInt32 (toInt32 n) = n := by
  rw [ofInt32, toInt32]
  split_ifs <;> omega

lemma toInt32_ofInt32 (i : ℤ) : toInt32 (ofInt32 i) = i ↔ -2 ^ 31 ≤ i ∧ i < 2 ^ 31 := by
  rw [ofInt32, toInt32]
  split_ifs <;> omega

end MavlinkLogService
