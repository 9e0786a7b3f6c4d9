import ConfidentialWorker.Runtime.Fees
import Mathlib.Algebra.Order.Field.Rat
import Mathlib.Tactic.NormNum

/-!
# What weight fees promise

For every weight of a no-op extrinsic, fees are computed without overflow, are
monotone in the weight, and are the same up to one unit when a weight is split.

They are not charged at the rate that the comments in the code name.  The
denominator is a hundred times the weight of a no-op extrinsic, so that such an
extrinsic is charged a thousandth of a `MILLI_UNIT`, not a tenth.
-/

namespace ConfidentialWorker.WeightToFee

/-! ## Any base weight -/

/-- Fees are computed in range and behave like a price by weight. -/
structure WellBehaved (lib : FeeLibrary) (baseWeight : Weight)
    (charged : UInt64 → Balance) : Prop where
  computed :
    ∀ weight,
      weightToFee lib baseWeight weight = some (charged weight.refTime)
  inRange :
    ∀ weight,
      weightToFeeChecked lib baseWeight weight = some (charged weight.refTime)
  free : charged 0 = 0
  monotone :
    ∀ {shorter longer}, shorter ≤ longer → charged shorter ≤ charged longer
  splitting :
    ∀ first second : UInt64,
      first.toNat + second.toNat < 2 ^ 64 →
        |(charged (first + second) : ℤ) - charged first - charged second| ≤ 1

theorem charge_zero (lib : FeeLibrary) (baseWeight : Weight) :
    charge lib baseWeight 0 = 0 := by
  have positive : 0 < FeeLibrary.billion := by decide
  simp [charge, Rounding.nearest_zero positive]

theorem charge_mono
    (lib : FeeLibrary) (baseWeight : Weight) {shorter longer : ℕ}
    (ordered : shorter ≤ longer) :
    charge lib baseWeight shorter ≤ charge lib baseWeight longer := by
  apply Nat.add_le_add
  · apply Rounding.nearest_mono (by decide)
    exact Nat.mul_le_mul_left _ ordered
  · exact Nat.mul_le_mul_left _ ordered

/-- Only the rounded part of a fee is not additive. -/
theorem charge_add_close
    (lib : FeeLibrary) (baseWeight : Weight) (first second : ℕ) :
    |(charge lib baseWeight (first + second) : ℤ) -
        charge lib baseWeight first - charge lib baseWeight second| ≤ 1 := by
  have positive : 0 < FeeLibrary.billion := by decide
  have above :=
    Rounding.nearest_add_le positive
      (lib.parts (fraction lib baseWeight) * first)
      (lib.parts (fraction lib baseWeight) * second)
  have below :=
    Rounding.le_nearest_add positive
      (lib.parts (fraction lib baseWeight) * first)
      (lib.parts (fraction lib baseWeight) * second)
  rw [abs_le]
  simp only [charge, mul_add]
  push_cast
  constructor
  · omega
  · omega

/-- Weight fees are computed in range, monotone, free for no weight, and
cannot be dodged by splitting. -/
theorem fees_wellBehaved
    {lib : FeeLibrary} (documented : lib.Documented)
    {baseWeight : Weight} (nonzero : baseWeight.refTime ≠ 0) :
    ∃ charged, WellBehaved lib baseWeight charged := by
  refine ⟨fun time => charge lib baseWeight time.toNat, ?_⟩
  have inRange := weightToFeeChecked_eq documented nonzero
  constructor
  · intro weight
    exact weightToFee_of_checked documented (inRange weight)
  · exact inRange
  · exact charge_zero lib baseWeight
  · intro shorter longer ordered
    exact charge_mono lib baseWeight (UInt64.le_iff_toNat_le.mp ordered)
  · intro first second fits
    have sum : (first + second).toNat = first.toNat + second.toNat := by
      rw [UInt64.toNat_add]
      exact Nat.mod_eq_of_lt fits
    simp only [sum]
    exact charge_add_close lib baseWeight first.toNat second.toNat

theorem fees_wellBehaved_for_125000_nanoseconds :
    ∃ charged, WellBehaved FeeLibrary.reference ⟨125000000, 0⟩ charged :=
  fees_wellBehaved FeeLibrary.reference_documented (by decide)

/-! ## The configured base weight -/

/-- The fee at the rate that maps the weight of a no-op extrinsic to a tenth
of a `MILLI_UNIT`. -/
def anchorFee (lib : FeeLibrary) (weight : Weight) : ℚ :=
  weight.refTime.toNat * (milliUnit / 10 : ℚ) /
    (extrinsicBaseWeight lib).refTime.toNat

/-- The fee is the one at that rate, up to one unit and one part in a million. -/
def Anchored (lib : FeeLibrary) (weight : Weight) : Prop :=
  ∃ charged,
    weightToFee lib (extrinsicBaseWeight lib) weight = some charged ∧
      |(charged : ℚ) - anchorFee lib weight| ≤
        1 + anchorFee lib weight / 1000000

theorem extrinsicBaseWeight_eq
    {lib : FeeLibrary} (documented : lib.Documented) :
    extrinsicBaseWeight lib = ⟨125000000, 0⟩ := by
  rw [extrinsicBaseWeight, documented.refTimePerNanos_eq]
  have time : Unsigned.saturatingMul 64 (1000 : UInt64).toNat 125000 = 125000000 := by
    decide
  rw [time]
  rfl

/-- The configured weight is charged at about eight thousandths of a unit. -/
private theorem fraction_parts_le
    {lib : FeeLibrary} (approximates : lib.Approximates) :
    lib.parts (fraction lib ⟨125000000, 0⟩) ≤ 8000003 := by
  have terms :
      fraction lib ⟨125000000, 0⟩ = lib.fromRational 100000000 12500000000 :=
    rfl
  have upper :
      lib.parts (lib.fromRational 100000000 12500000000) * 12500000000 ≤
        100000000 * FeeLibrary.billion + 3 * 12500000000 :=
    approximates.upper (by decide) (by decide)
  rw [terms]
  unfold FeeLibrary.billion at upper
  omega

private theorem weightToFee_configured
    {lib : FeeLibrary} (documented : lib.Documented) (weight : Weight) :
    weightToFee lib (extrinsicBaseWeight lib) weight =
      some
        (Rounding.nearest
          (lib.parts (fraction lib ⟨125000000, 0⟩) * weight.refTime.toNat)
          FeeLibrary.billion) := by
  have noWholeMultiple :
      milliUnit / 10 / (100 * (125000000 : UInt64).toNat) = 0 := by
    decide
  have nonzero : (⟨125000000, 0⟩ : Weight).refTime ≠ 0 := by
    decide
  have inRange := weightToFeeChecked_eq documented nonzero weight
  rw [charge, noWholeMultiple, Nat.zero_mul, Nat.add_zero] at inRange
  rw [extrinsicBaseWeight_eq documented]
  exact weightToFee_of_checked documented inRange

private theorem anchorFee_eq
    {lib : FeeLibrary} (documented : lib.Documented) (weight : Weight) :
    anchorFee lib weight = weight.refTime.toNat * 4 / 5 := by
  rw [anchorFee, extrinsicBaseWeight_eq documented]
  have divisor : (125000000 : UInt64).toNat = 125000000 := by
    decide
  rw [divisor]
  norm_num [milliUnit]
  ring

/-- A fee of about eight thousandths for each unit of time is close to four
fifths for each unit only when there is at most one unit. -/
private theorem close_iff
    {parts time fee : ℕ} (partsBelow : parts ≤ 8000003)
    (rounded : 2 * (1000000000 * fee) < 2 * (parts * time) + 1000000000) :
    |(fee : ℚ) - time * 4 / 5| ≤ 1 + time * 4 / 5 / 1000000 ↔ time ≤ 1 := by
  have scaled : parts * time ≤ 8000003 * time :=
    Nat.mul_le_mul_right _ partsBelow
  constructor
  · intro close
    by_contra many
    have feeSmall : 1000000000 * fee ≤ 8000003 * time + 500000000 := by
      omega
    have feeBound : (1000000000 : ℚ) * fee ≤ 8000003 * time + 500000000 := by
      exact_mod_cast feeSmall
    have twice : 2 ≤ time := by
      omega
    have timeBound : (2 : ℚ) ≤ time := by
      exact_mod_cast twice
    have tooLow := (abs_le.mp close).1
    linarith
  · intro few
    have feeZero : fee = 0 := by
      omega
    subst feeZero
    rw [abs_le]
    rcases Nat.le_one_iff_eq_zero_or_eq_one.mp few with zero | one
    · subst zero
      norm_num
    · subst one
      norm_num

/-- A fee is the one at the stated rate for the two least weights only. -/
theorem anchored_iff
    {lib : FeeLibrary} (documented : lib.Documented)
    (approximates : lib.Approximates) (weight : Weight) :
    Anchored lib weight ↔ weight.refTime ≤ 1 := by
  have partsBelow := fraction_parts_le approximates
  have rounded :=
    Rounding.nearest_lt (by decide : 0 < FeeLibrary.billion)
      (lib.parts (fraction lib ⟨125000000, 0⟩) * weight.refTime.toNat)
  unfold Anchored
  simp only [weightToFee_configured documented weight, anchorFee_eq documented,
    Option.some.injEq, exists_eq_left']
  rw [UInt64.le_iff_toNat_le]
  exact close_iff partsBelow rounded

/-- The weight of a no-op extrinsic itself is charged a hundredth of the fee
that the rate is anchored at. -/
theorem not_anchored_at_extrinsicBaseWeight :
    ¬ Anchored FeeLibrary.reference (extrinsicBaseWeight FeeLibrary.reference) ∧
      weightToFee FeeLibrary.reference
          (extrinsicBaseWeight FeeLibrary.reference)
          (extrinsicBaseWeight FeeLibrary.reference) =
        some 1000000 := by
  have charged :
      weightToFee FeeLibrary.reference
          (extrinsicBaseWeight FeeLibrary.reference)
          (extrinsicBaseWeight FeeLibrary.reference) =
        some 1000000 := by
    rw [weightToFee_configured FeeLibrary.reference_documented,
      extrinsicBaseWeight_eq FeeLibrary.reference_documented]
    decide
  refine ⟨?_, charged⟩
  rintro ⟨fee, found, close⟩
  rw [charged, Option.some.injEq] at found
  rw [← found, anchorFee_eq FeeLibrary.reference_documented,
    extrinsicBaseWeight_eq FeeLibrary.reference_documented] at close
  have time : (125000000 : UInt64).toNat = 125000000 := by
    decide
  rw [time] at close
  norm_num [abs_le] at close

theorem anchored_iff_at_extrinsicBaseWeight :
    Anchored FeeLibrary.reference (extrinsicBaseWeight FeeLibrary.reference) ↔
      (extrinsicBaseWeight FeeLibrary.reference).refTime ≤ 1 :=
  anchored_iff FeeLibrary.reference_documented FeeLibrary.reference_approximates
    _

end ConfidentialWorker.WeightToFee
