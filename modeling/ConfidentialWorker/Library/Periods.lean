import Mathlib.Data.Nat.Basic
import Mathlib.Tactic.Common

/-!
# Periods

The numbers `phase + k * period` start the periods of a clock.  `start` gives
the start of the period that a number lies in.  From the phase on, the periods
are the intervals between consecutive starts: a start is the start of exactly
the numbers of its own period.
-/

namespace Periods

/-- The start of the period a number lies in; the phase for earlier numbers. -/
def start (period phase number : ℕ) : ℕ :=
  (max number phase - phase) / period * period + phase

/-- Round a phase down to a multiple of a quantum. -/
def quantised (quantum phase : ℕ) : ℕ :=
  phase / quantum * quantum

variable {period phase : ℕ}

theorem start_le {number : ℕ} (reached : phase ≤ number) :
    start period phase number ≤ number := by
  have division := Nat.div_mul_le_self (number - phase) period
  rw [start, max_eq_left reached]
  omega

theorem quantised_le (quantum phase : ℕ) : quantised quantum phase ≤ phase :=
  Nat.div_mul_le_self phase quantum

/-- Everything in the period after a start has that start. -/
theorem start_of_mem
    (positive : 0 < period) {number count : ℕ}
    (after : count * period + phase ≤ number)
    (before : number < count * period + phase + period) :
    start period phase number = count * period + phase := by
  have reached : phase ≤ number := by
    omega
  have quotient : (number - phase) / period = count := by
    rw [Nat.div_eq_iff positive]
    omega
  rw [start, max_eq_left reached, quotient]

/-- Two numbers have the same start until the period of the first one ends. -/
theorem start_eq_of_lt
    (positive : 0 < period) {first later : ℕ} (ordered : first ≤ later)
    (reached : phase ≤ first)
    (before : later < start period phase first + period) :
    start period phase later = start period phase first := by
  have started : start period phase first ≤ first := start_le reached
  apply start_of_mem positive
  · exact le_trans started ordered
  · exact before

/-- From the end of a period on, the start is another one. -/
theorem le_start_of_le
    (positive : 0 < period) {first later : ℕ}
    (ended : start period phase first + period ≤ later) :
    start period phase first + period ≤ start period phase later := by
  have next :
      start period phase first + period =
        ((max first phase - phase) / period + 1) * period + phase := by
    rw [start, Nat.add_mul, Nat.one_mul]
    omega
  have reached : phase ≤ later := by
    rw [next] at ended
    omega
  have quotient :
      (max first phase - phase) / period + 1 ≤ (later - phase) / period := by
    rw [Nat.le_div_iff_mul_le positive]
    omega
  rw [next, start, max_eq_left reached]
  exact Nat.add_le_add_right (Nat.mul_le_mul_right period quotient) phase

/-- With a phase that is rounded down by less than a period, the number after
the current one has a start shortly before it. -/
theorem start_quantised
    {quantum current : ℕ} (positive : 0 < quantum) (fine : quantum < period) :
    start period (quantised quantum (current % period)) (current + 1) =
      current - current % period % quantum := by
  have periodPositive : 0 < period := by
    omega
  have division := Nat.div_add_mod current period
  have phaseDivision := Nat.div_add_mod (current % period) quantum
  have rest := Nat.mod_lt (current % period) positive
  have phaseEq :
      quantised quantum (current % period) + current % period % quantum =
        current % period := by
    rw [quantised, Nat.mul_comm]
    exact phaseDivision
  have sameStart :
      start period (quantised quantum (current % period)) (current + 1) =
        current / period * period + quantised quantum (current % period) := by
    rw [Nat.mul_comm] at division
    apply start_of_mem periodPositive
    · omega
    · omega
  rw [sameStart]
  rw [Nat.mul_comm] at division
  omega

end Periods
