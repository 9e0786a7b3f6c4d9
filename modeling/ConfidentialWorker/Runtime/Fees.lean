import ConfidentialWorker.Library.Rounding
import ConfidentialWorker.Library.Unsigned

/-!
# Weight fees

`WeightToFee::polynomial` builds the polynomial by which weight is charged.
Its arithmetic is on `u128`; a computation without a value has overflowed or
divided by zero.

`Perbill` and the evaluation of the polynomial belong to `sp_arithmetic` and
`frame_support` and are not part of the repository.  They are the parameter
`FeeLibrary`, and `FeeLibrary.Documented` states what is documented about them:
the sum over the coefficients saturates, and a product with a `Perbill` is
rounded to the nearest integer, ties down.
-/

namespace ConfidentialWorker

/-- A `u128`. -/
abbrev Balance := ℕ

structure Weight where
  refTime : UInt64
  proofSize : UInt64
  deriving DecidableEq, Repr

def milliUnit : Balance := 1000000000

structure WeightToFeeCoefficient (Perbill : Type) where
  degree : ℕ
  negative : Bool
  coeffFrac : Perbill
  coeffInteger : Balance

/-- The parts of `frame_support` and `sp_arithmetic` that fees rest on. -/
structure FeeLibrary where
  Perbill : Type
  weightRefTimePerNanos : UInt64
  parts : Perbill → ℕ
  fromRational : Balance → Balance → Perbill
  mul : Perbill → Balance → Balance
  weightToFee : List (WeightToFeeCoefficient Perbill) → Weight → Balance

namespace FeeLibrary

def billion : ℕ := 1000000000

/-- One coefficient of the sum that `weight_to_fee` computes. -/
def addTerm {Perbill : Type} (mul : Perbill → Balance → Balance)
    (weight : Weight) (acc : Balance)
    (args : WeightToFeeCoefficient Perbill) : Balance :=
  let w := Unsigned.saturatingPow 128 weight.refTime.toNat args.degree
  let frac := mul args.coeffFrac w
  let integer := Unsigned.saturatingMul 128 args.coeffInteger w
  if args.negative then
    Unsigned.saturatingSub (Unsigned.saturatingSub acc frac) integer
  else
    Unsigned.saturatingAdd 128 (Unsigned.saturatingAdd 128 acc frac) integer

/-- The same, without a value where a step saturates. -/
def addTermChecked {Perbill : Type} (mul : Perbill → Balance → Balance)
    (weight : Weight) (acc : Balance)
    (args : WeightToFeeCoefficient Perbill) : Option Balance := do
  let w ← Unsigned.checkedPow 128 weight.refTime.toNat args.degree
  let frac := mul args.coeffFrac w
  let integer ← Unsigned.checkedMul 128 args.coeffInteger w
  if args.negative then
    let left ← Unsigned.checkedSub acc frac
    Unsigned.checkedSub left integer
  else
    let sum ← Unsigned.checkedAdd 128 acc frac
    Unsigned.checkedAdd 128 sum integer

/-! ## Sums that do not saturate -/

section Checked

variable {Perbill : Type} {mul : Perbill → Balance → Balance} {weight : Weight}

theorem addTerm_of_checked
    {acc value : Balance} {args : WeightToFeeCoefficient Perbill}
    (fits : addTermChecked mul weight acc args = some value) :
    addTerm mul weight acc args = value := by
  unfold addTermChecked at fits
  simp only [Option.bind_eq_bind, Option.bind_eq_some_iff] at fits
  obtain ⟨w, powFits, integer, mulFits, fits⟩ := fits
  simp only [addTerm, Unsigned.saturatingPow_of_checked powFits,
    Unsigned.saturatingMul_of_checked mulFits]
  by_cases negative : args.negative = true
  · rw [if_pos negative, Option.bind_eq_some_iff] at fits
    obtain ⟨left, subFits, fits⟩ := fits
    rw [if_pos negative, Unsigned.saturatingSub_of_checked subFits,
      Unsigned.saturatingSub_of_checked fits]
  · rw [if_neg negative, Option.bind_eq_some_iff] at fits
    obtain ⟨sum, addFits, fits⟩ := fits
    rw [if_neg negative, Unsigned.saturatingAdd_of_checked addFits,
      Unsigned.saturatingAdd_of_checked fits]

theorem sum_of_checked
    {coefficients : List (WeightToFeeCoefficient Perbill)} :
    ∀ {acc value : Balance},
      coefficients.foldlM (addTermChecked mul weight) acc = some value →
        coefficients.foldl (addTerm mul weight) acc = value := by
  induction coefficients with
  | nil =>
      intro acc value fits
      exact Option.some.inj fits
  | cons args rest inductionHypothesis =>
      intro acc value fits
      rw [List.foldlM_cons, Option.bind_eq_bind,
        Option.bind_eq_some_iff] at fits
      obtain ⟨next, first, fits⟩ := fits
      rw [List.foldl_cons, addTerm_of_checked first]
      exact inductionHypothesis fits

end Checked

/-- The documented behaviour of the library. -/
structure Documented (lib : FeeLibrary) : Prop where
  refTimePerNanos_eq : lib.weightRefTimePerNanos = 1000
  parts_le : ∀ fraction, lib.parts fraction ≤ billion
  mul_eq : ∀ fraction amount,
    lib.mul fraction amount =
      Rounding.nearest (lib.parts fraction * amount) billion
  weightToFee_eq : ∀ coefficients weight,
    lib.weightToFee coefficients weight =
      coefficients.foldl (addTerm lib.mul weight) 0

/-- `from_rational` is within three parts of the fraction it is given. -/
structure Approximates (lib : FeeLibrary) : Prop where
  upper : ∀ {p q : ℕ}, 0 < q → p ≤ q →
    lib.parts (lib.fromRational p q) * q ≤ p * billion + 3 * q
  lower : ∀ {p q : ℕ}, 0 < q → p ≤ q →
    p * billion ≤ lib.parts (lib.fromRational p q) * q + 3 * q

private theorem partsOf_le {p q : ℕ} (atMost : p ≤ q) :
    p * billion / q ≤ billion := by
  apply Nat.div_le_of_le_mul
  exact Nat.mul_le_mul_right billion atMost

/-- An implementation of the library. -/
def reference : FeeLibrary where
  Perbill := { parts : ℕ // parts ≤ billion }
  weightRefTimePerNanos := 1000
  parts fraction := fraction.val
  fromRational p q :=
    if terms : 0 < q ∧ p ≤ q then
      ⟨p * billion / q, partsOf_le terms.2⟩
    else
      ⟨billion, le_rfl⟩
  mul fraction amount := Rounding.nearest (fraction.val * amount) billion
  weightToFee coefficients weight :=
    coefficients.foldl
      (addTerm
        (fun fraction amount =>
          Rounding.nearest (fraction.val * amount) billion)
        weight)
      0

theorem reference_documented : reference.Documented where
  refTimePerNanos_eq := rfl
  parts_le fraction := fraction.property
  mul_eq _ _ := rfl
  weightToFee_eq _ _ := rfl

private theorem parts_reference
    {p q : Balance} (positive : 0 < q) (atMost : p ≤ q) :
    reference.parts (reference.fromRational p q) = p * billion / q := by
  have parts : reference.fromRational p q = ⟨p * billion / q, _⟩ :=
    dif_pos ⟨positive, atMost⟩
  rw [parts]
  rfl

/-- The quotient is rounded down, by less than one part. -/
theorem reference_approximates : reference.Approximates where
  upper {p q} positive atMost := by
    have below : p * billion / q * q ≤ p * billion := Nat.div_mul_le_self _ _
    rw [parts_reference positive atMost]
    omega
  lower {p q} positive atMost := by
    have above : p * billion < p * billion / q * q + q :=
      Nat.lt_div_mul_add positive
    rw [parts_reference positive atMost]
    omega

end FeeLibrary

/-- The weight of a no-op extrinsic, 125 000 ns. -/
def extrinsicBaseWeight (lib : FeeLibrary) : Weight where
  refTime :=
    UInt64.ofNat
      (Unsigned.saturatingMul 64 lib.weightRefTimePerNanos.toNat 125000)
  proofSize := 0

namespace WeightToFee

/-- The polynomial for a given weight of a no-op extrinsic. -/
def polynomial (lib : FeeLibrary) (baseWeight : Weight) :
    Option (List (WeightToFeeCoefficient lib.Perbill)) := do
  let p ← Unsigned.checkedDiv milliUnit 10
  let q ← Unsigned.checkedMul 128 100 baseWeight.refTime.toNat
  let remainder ← Unsigned.checkedRem p q
  let quotient ← Unsigned.checkedDiv p q
  return [⟨1, false, lib.fromRational remainder q, quotient⟩]

/-- The fee that is charged for a weight. -/
def weightToFee (lib : FeeLibrary) (baseWeight weight : Weight) :
    Option Balance := do
  let coefficients ← polynomial lib baseWeight
  return lib.weightToFee coefficients weight

/-- The fee, if no step of computing it saturates. -/
def weightToFeeChecked (lib : FeeLibrary) (baseWeight weight : Weight) :
    Option Balance := do
  let coefficients ← polynomial lib baseWeight
  coefficients.foldlM (FeeLibrary.addTermChecked lib.mul weight) 0

theorem weightToFee_of_checked
    {lib : FeeLibrary} (documented : lib.Documented)
    {baseWeight weight : Weight} {value : Balance}
    (fits : weightToFeeChecked lib baseWeight weight = some value) :
    weightToFee lib baseWeight weight = some value := by
  unfold weightToFeeChecked at fits
  rw [Option.bind_eq_bind, Option.bind_eq_some_iff] at fits
  obtain ⟨coefficients, computed, fits⟩ := fits
  have summed : lib.weightToFee coefficients weight = value := by
    rw [documented.weightToFee_eq]
    exact FeeLibrary.sum_of_checked fits
  simp [weightToFee, computed, summed]

/-! ## The fee in closed form -/

/-- The share of a weight that is charged on top of its whole multiples. -/
def fraction (lib : FeeLibrary) (baseWeight : Weight) : lib.Perbill :=
  lib.fromRational (milliUnit / 10 % (100 * baseWeight.refTime.toNat))
    (100 * baseWeight.refTime.toNat)

/-- What is charged for a time, computed without bounds. -/
def charge (lib : FeeLibrary) (baseWeight : Weight) (time : ℕ) : Balance :=
  Rounding.nearest (lib.parts (fraction lib baseWeight) * time)
      FeeLibrary.billion +
    milliUnit / 10 / (100 * baseWeight.refTime.toNat) * time

theorem polynomial_eq
    (lib : FeeLibrary) {baseWeight : Weight} (nonzero : baseWeight.refTime ≠ 0) :
    polynomial lib baseWeight =
      some
        [⟨1, false, fraction lib baseWeight,
          milliUnit / 10 / (100 * baseWeight.refTime.toNat)⟩] := by
  have small : baseWeight.refTime.toNat < 2 ^ 64 := baseWeight.refTime.toNat_lt
  have positive : 100 * baseWeight.refTime.toNat ≠ 0 := by
    have timeNonzero : baseWeight.refTime.toNat ≠ 0 :=
      fun zero => nonzero (UInt64.toNat_inj.mp zero)
    omega
  have scaled :
      Unsigned.checkedMul 128 100 baseWeight.refTime.toNat =
        some (100 * baseWeight.refTime.toNat) :=
    Unsigned.checked_eq_some (by omega)
  have tenth : Unsigned.checkedDiv milliUnit 10 = some (milliUnit / 10) :=
    Unsigned.checkedDiv_eq_some (by decide) _
  simp only [polynomial, tenth, scaled, Unsigned.checkedRem_eq_some positive,
    Unsigned.checkedDiv_eq_some positive, Option.bind_eq_bind,
    Option.bind_some]
  rfl

/-- No step of computing a fee overflows, saturates or divides by zero. -/
theorem weightToFeeChecked_eq
    {lib : FeeLibrary} (documented : lib.Documented)
    {baseWeight : Weight} (nonzero : baseWeight.refTime ≠ 0)
    (weight : Weight) :
    weightToFeeChecked lib baseWeight weight =
      some (charge lib baseWeight weight.refTime.toNat) := by
  have timeSmall : weight.refTime.toNat < 2 ^ 64 := weight.refTime.toNat_lt
  have fracSmall :
      lib.mul (fraction lib baseWeight) weight.refTime.toNat ≤
        weight.refTime.toNat := by
    rw [documented.mul_eq]
    exact Rounding.nearest_mul_le (by decide) (documented.parts_le _) _
  have quotientSmall :
      milliUnit / 10 / (100 * baseWeight.refTime.toNat) ≤ 100000000 :=
    Nat.div_le_self _ _
  have integerSmall :
      milliUnit / 10 / (100 * baseWeight.refTime.toNat) *
          weight.refTime.toNat ≤
        100000000 * weight.refTime.toNat :=
    Nat.mul_le_mul_right _ quotientSmall
  have powered :
      Unsigned.checkedPow 128 weight.refTime.toNat 1 =
        some weight.refTime.toNat := by
    rw [Unsigned.checkedPow, pow_one]
    exact Unsigned.checked_eq_some (by omega)
  have integer :
      Unsigned.checkedMul 128
          (milliUnit / 10 / (100 * baseWeight.refTime.toNat))
          weight.refTime.toNat =
        some
          (milliUnit / 10 / (100 * baseWeight.refTime.toNat) *
            weight.refTime.toNat) :=
    Unsigned.checked_eq_some (Nat.lt_of_le_of_lt integerSmall (by omega))
  have first :
      Unsigned.checkedAdd 128 0
          (lib.mul (fraction lib baseWeight) weight.refTime.toNat) =
        some (lib.mul (fraction lib baseWeight) weight.refTime.toNat) := by
    rw [Unsigned.checkedAdd, Nat.zero_add]
    exact
      Unsigned.checked_eq_some (Nat.lt_of_le_of_lt fracSmall (by omega))
  have second :
      Unsigned.checkedAdd 128
          (lib.mul (fraction lib baseWeight) weight.refTime.toNat)
          (milliUnit / 10 / (100 * baseWeight.refTime.toNat) *
            weight.refTime.toNat) =
        some (charge lib baseWeight weight.refTime.toNat) := by
    rw [charge, ← documented.mul_eq]
    exact
      Unsigned.checked_eq_some
        (Nat.lt_of_le_of_lt (Nat.add_le_add fracSmall integerSmall)
          (by omega))
  simp only [weightToFeeChecked, polynomial_eq lib nonzero,
    FeeLibrary.addTermChecked, powered, integer, first, second,
    Option.bind_eq_bind, Option.bind_some, List.foldlM_cons, List.foldlM_nil,
    Bool.false_eq_true, if_false]
  rfl

end WeightToFee

end ConfidentialWorker
