import Mathlib.Algebra.Order.Ring.Nat
import Mathlib.Tactic.Linarith
import Mathlib.Tactic.Ring

/-!
# Rounding to the nearest integer

`nearest num den` is the integer nearest to `num / den`; a tie is rounded down.
It is the only integer with `num / den - 1 / 2 ≤ n < num / den + 1 / 2`, and
everything else follows from these two bounds: rounding is monotone, and
rounding a sum differs from the sum of the rounded parts by one at most.
-/

namespace Rounding

/-- The integer nearest to `num / den`, the smaller one of two. -/
def nearest (num den : ℕ) : ℕ :=
  if 2 * (num % den) ≤ den then num / den else num / den + 1

/-- What lies strictly less than one above another integer is not above it. -/
private theorem le_of_scaled_lt (den : ℕ) {left right : ℕ}
    (scaled : den * left < den * right + den) :
    left ≤ right := by
  have next : den * left < den * (right + 1) := by
    rw [mul_add, mul_one]
    exact scaled
  exact Nat.lt_succ_iff.mp (Nat.lt_of_mul_lt_mul_left next)

variable {den : ℕ} (positive : 0 < den)
include positive

theorem le_nearest (num : ℕ) :
    2 * num ≤ 2 * (den * nearest num den) + den := by
  have division := Nat.div_add_mod num den
  have small := Nat.mod_lt num positive
  unfold nearest
  by_cases low : 2 * (num % den) ≤ den
  · rw [if_pos low]
    omega
  · rw [if_neg low, mul_add, mul_one]
    omega

theorem nearest_lt (num : ℕ) :
    2 * (den * nearest num den) < 2 * num + den := by
  have division := Nat.div_add_mod num den
  unfold nearest
  by_cases low : 2 * (num % den) ≤ den
  · rw [if_pos low]
    omega
  · rw [if_neg low, mul_add, mul_one]
    omega

theorem nearest_zero : nearest 0 den = 0 := by
  have upper := nearest_lt positive 0
  by_contra nonzero
  have grows : den * 1 ≤ den * nearest 0 den :=
    Nat.mul_le_mul_left den (Nat.one_le_iff_ne_zero.mpr nonzero)
  omega

theorem nearest_mono {left right : ℕ} (ordered : left ≤ right) :
    nearest left den ≤ nearest right den := by
  have below := nearest_lt positive left
  have above := le_nearest positive right
  apply le_of_scaled_lt den
  omega

/-- A sum is rounded to at most one more than its parts. -/
theorem nearest_add_le (left right : ℕ) :
    nearest (left + right) den ≤ nearest left den + nearest right den + 1 := by
  have whole := nearest_lt positive (left + right)
  have first := le_nearest positive left
  have second := le_nearest positive right
  apply le_of_scaled_lt den
  rw [mul_add, mul_add, mul_one]
  omega

/-- A sum is rounded to at least one less than its parts. -/
theorem le_nearest_add (left right : ℕ) :
    nearest left den + nearest right den ≤ nearest (left + right) den + 1 := by
  have whole := le_nearest positive (left + right)
  have first := nearest_lt positive left
  have second := nearest_lt positive right
  apply le_of_scaled_lt den
  rw [mul_add, mul_add, mul_one]
  omega

/-- A part of at most the whole is not rounded above it. -/
theorem nearest_mul_le {part : ℕ} (atMost : part ≤ den) (num : ℕ) :
    nearest (part * num) den ≤ num := by
  have upper := nearest_lt positive (part * num)
  have scaled : part * num ≤ den * num := Nat.mul_le_mul_right num atMost
  apply le_of_scaled_lt den
  omega

end Rounding
