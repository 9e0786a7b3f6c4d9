import Mathlib.Algebra.Order.Ring.Nat
import Mathlib.Data.Nat.Log
import Mathlib.Tactic.Common

/-!
# Unsigned machine arithmetic

Unsigned integers of a given width stand as natural numbers.  A checked
operation has no value when its exact result does not fit, or when it divides
by zero; a saturating one gives the nearest integer of the width.  Where the
checked operation has a value, the saturating one has the same.
-/

namespace Unsigned

variable (width : ℕ)

def checked (exact : ℕ) : Option ℕ :=
  if exact < 2 ^ width then some exact else none

def saturated (exact : ℕ) : ℕ :=
  min exact (2 ^ width - 1)

def checkedAdd (left right : ℕ) : Option ℕ :=
  checked width (left + right)

def saturatingAdd (left right : ℕ) : ℕ :=
  saturated width (left + right)

def checkedMul (left right : ℕ) : Option ℕ :=
  checked width (left * right)

def saturatingMul (left right : ℕ) : ℕ :=
  saturated width (left * right)

def checkedPow (base exponent : ℕ) : Option ℕ :=
  checked width (base ^ exponent)

def saturatingPow (base exponent : ℕ) : ℕ :=
  saturated width (base ^ exponent)

/-- Subtraction below zero is what saturates. -/
def checkedSub (left right : ℕ) : Option ℕ :=
  if right ≤ left then some (left - right) else none

def saturatingSub (left right : ℕ) : ℕ :=
  left - right

def checkedDiv (left right : ℕ) : Option ℕ :=
  if right = 0 then none else some (left / right)

def checkedRem (left right : ℕ) : Option ℕ :=
  if right = 0 then none else some (left % right)

/-- The least power of two that is not below the number. -/
def nextPowerOfTwo (number : ℕ) : ℕ :=
  2 ^ Nat.clog 2 number

def checkedNextPowerOfTwo (number : ℕ) : Option ℕ :=
  checked width (nextPowerOfTwo number)

variable {width}

theorem checked_eq_some {exact : ℕ} (fits : exact < 2 ^ width) :
    checked width exact = some exact :=
  if_pos fits

theorem saturated_eq {exact : ℕ} (fits : exact < 2 ^ width) :
    saturated width exact = exact :=
  Nat.min_eq_left (by omega)

private theorem saturated_of_checked {exact value : ℕ}
    (fits : checked width exact = some value) :
    saturated width exact = value := by
  unfold checked at fits
  split_ifs at fits with bound
  cases fits
  exact saturated_eq bound

theorem saturatingAdd_of_checked {left right value : ℕ}
    (fits : checkedAdd width left right = some value) :
    saturatingAdd width left right = value :=
  saturated_of_checked fits

theorem saturatingMul_of_checked {left right value : ℕ}
    (fits : checkedMul width left right = some value) :
    saturatingMul width left right = value :=
  saturated_of_checked fits

theorem saturatingPow_of_checked {base exponent value : ℕ}
    (fits : checkedPow width base exponent = some value) :
    saturatingPow width base exponent = value :=
  saturated_of_checked fits

theorem checkedDiv_eq_some {right : ℕ} (nonzero : right ≠ 0) (left : ℕ) :
    checkedDiv left right = some (left / right) :=
  if_neg nonzero

theorem checkedRem_eq_some {right : ℕ} (nonzero : right ≠ 0) (left : ℕ) :
    checkedRem left right = some (left % right) :=
  if_neg nonzero

theorem saturatingSub_of_checked {left right value : ℕ}
    (fits : checkedSub left right = some value) :
    saturatingSub left right = value := by
  unfold checkedSub at fits
  split_ifs at fits
  cases fits
  rfl

end Unsigned
