import Mathlib.Data.Int.Log
import Mathlib.Data.Rat.Floor
import Mathlib.Tactic

/-!
# Rounding to binary digits

A number is rounded to the nearest one with a given count of binary digits; of
two that are equally near the one with an even last digit is taken.  Exponents
are not bounded here: the results stand for those of a binary format as long as
they stay in its range.
-/

namespace BinaryRounding

/-- The nearest integer, the even one in the middle of two. -/
def halfEven (q : ℚ) : ℤ :=
  if 2 * (q - ⌊q⌋) < 1 ∨ 2 * (q - ⌊q⌋) = 1 ∧ ⌊q⌋ % 2 = 0 then ⌊q⌋
  else ⌊q⌋ + 1

/-- How far the numbers with `digits` digits are apart around `q`. -/
def spacing (digits : ℕ) (q : ℚ) : ℚ :=
  2 ^ (Int.log 2 |q| + 1 - digits)

def rounded (digits : ℕ) (q : ℚ) : ℚ :=
  halfEven (q / spacing digits q) * spacing digits q

variable {digits : ℕ} {q : ℚ}

@[simp] theorem halfEven_intCast (n : ℤ) : halfEven n = n := by
  simp [halfEven]

theorem spacing_pos (digits : ℕ) (q : ℚ) : 0 < spacing digits q := by
  unfold spacing
  positivity

/-- A multiple of the spacing is not changed. -/
theorem rounded_of_multiple {n : ℤ} (hq : q / spacing digits q = n) :
    rounded digits q = q := by
  unfold rounded
  rw [hq, halfEven_intCast, ← hq]
  exact div_mul_cancel₀ q (spacing_pos digits q).ne'

/-- Rounding an integer changes it only if it needs more digits. -/
theorem rounded_intCast {n : ℤ} (hn : |n| < 2 ^ digits) :
    rounded digits n = n := by
  by_cases hzero : n = 0
  · subst hzero
    exact rounded_of_multiple (n := 0) (by simp)
  · have hpos : (0 : ℚ) < |(n : ℚ)| := by
      rw [abs_pos]
      exact_mod_cast hzero
    have hlog : Int.log 2 |(n : ℚ)| < digits := by
      rw [← Int.lt_zpow_iff_log_lt Nat.one_lt_two hpos]
      exact_mod_cast hn
    obtain ⟨k, hk⟩ : ∃ k : ℕ, Int.log 2 |(n : ℚ)| + 1 - digits = -k :=
      ⟨(digits - (Int.log 2 |(n : ℚ)| + 1)).toNat, by omega⟩
    apply rounded_of_multiple (n := n * 2 ^ k)
    unfold spacing
    rw [hk, zpow_neg, zpow_natCast, div_inv_eq_mul]
    push_cast
    rfl

end BinaryRounding
