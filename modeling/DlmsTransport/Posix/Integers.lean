import Mathlib.Algebra.Order.Ring.Int

/-! The integer conversions of a 64-bit POSIX target: `int` has 32 bits,
`size_t` has 64. A conversion keeps the value modulo the width of its target. -/

set_option autoImplicit false

namespace DlmsTransport.Posix

def intMax : Nat := 2 ^ 31 - 1

def toInt (value : Int) : Int := value.bmod (2 ^ 32)

def toSize (value : Int) : Nat := (value % 2 ^ 64).toNat

/-- The `size_t` length an OS call receives for a length passed through `int`. -/
def throughInt (length : Nat) : Nat := toSize (toInt length)

theorem toInt_of_le {value : Nat} (fits : value ≤ intMax) : toInt value = value := by
  simp only [intMax] at fits
  simp only [toInt, Int.bmod]
  omega

theorem toInt_le (value : Int) : toInt value ≤ intMax := by
  simp only [toInt, Int.bmod, intMax]
  omega

/-- What an `int` keeps of a count is never more than the count. -/
theorem toInt_natCast_le (value : Nat) : toInt value ≤ value := by
  simp only [toInt, Int.bmod]
  omega

theorem throughInt_of_le {length : Nat} (fits : length ≤ intMax) : throughInt length = length := by
  rw [throughInt, toInt_of_le fits]
  simp only [intMax] at fits
  simp only [toSize]
  omega

/-- A length whose low 32 bits read as a non-negative `int` is cut to them. -/
theorem throughInt_of_mod_lt {length : Nat} (low : length % 2 ^ 32 < 2 ^ 31) :
    throughInt length = length % 2 ^ 32 := by
  simp only [throughInt, toSize, toInt, Int.bmod]
  omega

/-- Otherwise it comes out as one of the `2 ^ 31` largest `size_t` values. -/
theorem throughInt_of_le_mod {length : Nat} (high : 2 ^ 31 ≤ length % 2 ^ 32) :
    throughInt length = 2 ^ 64 - 2 ^ 32 + length % 2 ^ 32 := by
  simp only [throughInt, toSize, toInt, Int.bmod]
  omega

theorem throughInt_within_iff {length : Nat} (positive : 0 < length) (sized : length < 2 ^ 64) :
    throughInt length ≤ length ∧ 0 < throughInt length ↔
      (0 < length % 2 ^ 32 ∧ length % 2 ^ 32 < 2 ^ 31) ∨ 2 ^ 64 - 2 ^ 31 ≤ length := by
  rcases Nat.lt_or_ge (length % 2 ^ 32) (2 ^ 31) with low | high
  · rw [throughInt_of_mod_lt low]
    omega
  · rw [throughInt_of_le_mod high]
    omega

theorem throughInt_covers_iff {length pending : Nat} (covered : pending ≤ length)
    (sized : length < 2 ^ 64) :
    throughInt length ≤ length ∧ (0 < length → 0 < throughInt length) ∧
        pending ≤ throughInt length ↔
      length = 0 ∨ (max 1 pending ≤ length % 2 ^ 32 ∧ length % 2 ^ 32 < 2 ^ 31) ∨
        2 ^ 64 - 2 ^ 31 ≤ length := by
  rcases Nat.lt_or_ge (length % 2 ^ 32) (2 ^ 31) with low | high
  · rw [throughInt_of_mod_lt low]
    omega
  · rw [throughInt_of_le_mod high]
    omega

theorem throughInt_eq_self_iff {length : Nat} (sized : length < 2 ^ 64) :
    throughInt length = length ↔ length < 2 ^ 31 ∨ 2 ^ 64 - 2 ^ 31 ≤ length := by
  rcases Nat.lt_or_ge (length % 2 ^ 32) (2 ^ 31) with low | high
  · rw [throughInt_of_mod_lt low]
    omega
  · rw [throughInt_of_le_mod high]
    omega

end DlmsTransport.Posix
