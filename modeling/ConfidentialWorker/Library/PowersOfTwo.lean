import ConfidentialWorker.Library.Unsigned
import Mathlib.Order.Bounds.Basic

/-!
# Powers of two and periods

The next power of two after a number, the greatest one that does not exceed it,
and rounding up into an interval of powers of two.  With `Nat.log` and
`Nat.clog`, each of these is a statement about exponents.
-/

namespace PowersOfTwo

/-- The powers of two between `2 ^ least` and `2 ^ most` that do not exceed a
number. -/
def upTo (least most number : ℕ) : Set ℕ :=
  { period |
    period.isPowerOfTwo ∧ 2 ^ least ≤ period ∧ period ≤ 2 ^ most ∧
      period ≤ number }

/-- Round up to a power of two between `2 ^ least` and `2 ^ most`. -/
def clampedUp (least most number : ℕ) : ℕ :=
  min (max (Unsigned.nextPowerOfTwo number) (2 ^ least)) (2 ^ most)

theorem isPowerOfTwo_pow (exponent : ℕ) : (2 ^ exponent).isPowerOfTwo :=
  ⟨exponent, rfl⟩

theorem pow_le_pow_iff {left right : ℕ} : 2 ^ left ≤ 2 ^ right ↔ left ≤ right :=
  Nat.pow_le_pow_iff_right (by omega)

theorem pow_max (left right : ℕ) :
    max (2 ^ left) (2 ^ right) = 2 ^ max left right := by
  rcases le_total left right with ordered | ordered
  · rw [max_eq_right ordered, max_eq_right (pow_le_pow_iff.mpr ordered)]
  · rw [max_eq_left ordered, max_eq_left (pow_le_pow_iff.mpr ordered)]

theorem pow_min (left right : ℕ) :
    min (2 ^ left) (2 ^ right) = 2 ^ min left right := by
  rcases le_total left right with ordered | ordered
  · rw [min_eq_left ordered, min_eq_left (pow_le_pow_iff.mpr ordered)]
  · rw [min_eq_right ordered, min_eq_right (pow_le_pow_iff.mpr ordered)]

theorem clampedUp_eq (least most number : ℕ) :
    clampedUp least most number =
      2 ^ min (max (Nat.clog 2 number) least) most := by
  rw [clampedUp, Unsigned.nextPowerOfTwo, pow_max, pow_min]

theorem clampedUp_pow (least most exponent : ℕ) :
    clampedUp least most (2 ^ exponent) = 2 ^ min (max exponent least) most := by
  rw [clampedUp_eq, Nat.clog_pow 2 exponent (by omega)]

/-- The next power of two is the number itself, or twice the greatest power of
two below it. -/
theorem clog_cases {number : ℕ} (positive : 0 < number) :
    (number = 2 ^ Nat.log 2 number ∧ Nat.clog 2 number = Nat.log 2 number) ∨
      (¬ number.isPowerOfTwo ∧ Nat.clog 2 number = Nat.log 2 number + 1) := by
  have below : 2 ^ Nat.log 2 number ≤ number :=
    Nat.pow_log_le_self 2 (by omega)
  have above : number < 2 ^ (Nat.log 2 number + 1) :=
    Nat.lt_pow_succ_log_self (by omega) number
  by_cases exact : number = 2 ^ Nat.log 2 number
  · left
    refine ⟨exact, ?_⟩
    rw [exact, Nat.clog_pow 2 _ (by omega), Nat.log_pow (by omega)]
  · right
    constructor
    · rintro ⟨exponent, power⟩
      apply exact
      rw [power, Nat.log_pow (by omega)]
    · have atMost : Nat.clog 2 number ≤ Nat.log 2 number + 1 :=
        (Nat.clog_le_iff_le_pow (by omega)).mpr above.le
      have atLeast : Nat.log 2 number < Nat.clog 2 number :=
        (Nat.lt_clog_iff_pow_lt (by omega)).mpr (by omega)
      omega

/-- The greatest power of two that does not exceed a number, in an interval. -/
theorem isGreatest_upTo
    {least most number : ℕ} (ordered : least ≤ most)
    (large : 2 ^ least ≤ number) :
    IsGreatest (upTo least most number) (2 ^ min (Nat.log 2 number) most) := by
  have positive : number ≠ 0 := by
    have power := Nat.two_pow_pos least
    omega
  have leastLog : least ≤ Nat.log 2 number :=
    Nat.le_log_of_pow_le (by omega) large
  constructor
  · refine ⟨isPowerOfTwo_pow _, pow_le_pow_iff.mpr (by omega),
      pow_le_pow_iff.mpr (by omega), ?_⟩
    calc
      2 ^ min (Nat.log 2 number) most ≤ 2 ^ Nat.log 2 number :=
        pow_le_pow_iff.mpr (min_le_left _ _)
      _ ≤ number := Nat.pow_log_le_self 2 positive
  · intro period possible
    obtain ⟨⟨exponent, power⟩, _, atMost, below⟩ := possible
    subst power
    have exponentLog : exponent ≤ Nat.log 2 number :=
      Nat.le_log_of_pow_le (by omega) below
    have exponentMost : exponent ≤ most := pow_le_pow_iff.mp atMost
    exact pow_le_pow_iff.mpr (by omega)

end PowersOfTwo
