import ConfidentialWorker.Library.Periods
import ConfidentialWorker.Library.PowersOfTwo

/-!
# The era of a signed transaction

`create_transaction` gives its extrinsics a mortal era whose period it derives
from `BlockHashCount`.  `Era` belongs to `sp_runtime` and is the parameter
`EraLibrary`; `EraLibrary.Documented` states how a mortal era rounds its period
and its phase, and at which block it begins.

The code asks for the biggest period possible, and gets it except for two kinds
of counts: powers of two up to the biggest period, where it gets half of it,
and counts whose next power of two overflows, where it gets the smallest.
-/

namespace ConfidentialWorker

/-- The parts of `sp_runtime::generic::Era` that the code uses. -/
structure EraLibrary where
  Era : Type
  mortal : ℕ → ℕ → Era
  period : Era → ℕ
  birth : Era → ℕ → ℕ

namespace EraLibrary

/-- The period of a mortal era: a power of two between 4 and 65536. -/
def mortalPeriod (period : ℕ) : ℕ :=
  PowersOfTwo.clampedUp 2 16 period

/-- The quantum of the phase of an era with this period. -/
def quantum (period : ℕ) : ℕ :=
  max (period / 4096) 1

/-- The documented behaviour of the library. -/
structure Documented (lib : EraLibrary) : Prop where
  period_mortal : ∀ period current,
    lib.period (lib.mortal period current) = mortalPeriod period
  birth_mortal : ∀ period current number,
    lib.birth (lib.mortal period current) number =
      Periods.start (mortalPeriod period)
        (Periods.quantised (quantum (mortalPeriod period))
          (current % mortalPeriod period))
        number

/-- Eras as pairs of a period and a phase. -/
def reference : EraLibrary where
  Era := ℕ × ℕ
  mortal period current :=
    (mortalPeriod period,
      Periods.quantised (quantum (mortalPeriod period))
        (current % mortalPeriod period))
  period era := era.1
  birth era number := Periods.start era.1 era.2 number

instance : DecidableEq reference.Era :=
  inferInstanceAs (DecidableEq (ℕ × ℕ))

theorem reference_documented : reference.Documented where
  period_mortal _ _ := rfl
  birth_mortal _ _ _ := rfl

end EraLibrary

/-- The period that `create_transaction` asks for. -/
def eraPeriod (blockHashCount : UInt32) : ℕ :=
  ((Unsigned.checkedNextPowerOfTwo 32 blockHashCount.toNat).map
    fun count => count / 2).getD 2

/-- The era that `create_transaction` builds.  `System::block_number` is the
next block, so the current one is the one before it. -/
def transactionEra (lib : EraLibrary) (blockHashCount : UInt32)
    (blockNumber : ℕ) : lib.Era :=
  lib.mortal (eraPeriod blockHashCount)
    (Unsigned.saturatingSub (Unsigned.saturated 64 blockNumber) 1)

/-! ## The period -/

section Period

variable {blockHashCount : UInt32} (large : 4 ≤ blockHashCount.toNat)
include large

theorem eraPeriod_of_small (small : blockHashCount.toNat ≤ 2 ^ 31) :
    eraPeriod blockHashCount = 2 ^ (Nat.clog 2 blockHashCount.toNat - 1) := by
  have exponentSmall : Nat.clog 2 blockHashCount.toNat ≤ 31 :=
    (Nat.clog_le_iff_le_pow (by omega)).mpr small
  have exponentLarge : 1 < Nat.clog 2 blockHashCount.toNat :=
    (Nat.lt_clog_iff_pow_lt (by omega)).mpr (by omega)
  have exponentFits : Nat.clog 2 blockHashCount.toNat < 32 := by
    omega
  have fits : Unsigned.nextPowerOfTwo blockHashCount.toNat < 2 ^ 32 :=
    Nat.pow_lt_pow_right (by omega) exponentFits
  have halved :
      2 ^ Nat.clog 2 blockHashCount.toNat / 2 =
        2 ^ (Nat.clog 2 blockHashCount.toNat - 1) := by
    have positive : 0 < Nat.clog 2 blockHashCount.toNat := by
      omega
    rw [← Nat.pow_pred_mul positive]
    exact Nat.mul_div_cancel _ (by omega)
  rw [eraPeriod, Unsigned.checkedNextPowerOfTwo,
    Unsigned.checked_eq_some fits, Option.map_some, Option.getD_some,
    Unsigned.nextPowerOfTwo, halved]

omit large in
/-- The next power of two overflows, and the code falls back to two. -/
theorem eraPeriod_of_large (overflows : 2 ^ 31 < blockHashCount.toNat) :
    eraPeriod blockHashCount = 2 := by
  have exponentLarge : 31 < Nat.clog 2 blockHashCount.toNat :=
    (Nat.lt_clog_iff_pow_lt (by omega)).mpr overflows
  have tooLarge : ¬ Unsigned.nextPowerOfTwo blockHashCount.toNat < 2 ^ 32 := by
    rw [not_lt]
    exact Nat.pow_le_pow_right (by omega) exponentLarge
  rw [eraPeriod, Unsigned.checkedNextPowerOfTwo, Unsigned.checked,
    if_neg tooLarge]
  rfl

/-- The exponent of the period, before it is clamped. -/
theorem mortalPeriod_eraPeriod :
    EraLibrary.mortalPeriod (eraPeriod blockHashCount) =
      2 ^
        min
          (max
            (if blockHashCount.toNat ≤ 2 ^ 31 then
              Nat.clog 2 blockHashCount.toNat - 1
            else 1)
            2)
          16 := by
  by_cases small : blockHashCount.toNat ≤ 2 ^ 31
  · rw [if_pos small, eraPeriod_of_small large small]
    exact PowersOfTwo.clampedUp_pow _ _ _
  · rw [if_neg small, eraPeriod_of_large (by omega)]
    exact PowersOfTwo.clampedUp_pow 2 16 1

/-- The period is possible, whether it is the biggest one or not. -/
theorem mortalPeriod_mem_upTo :
    EraLibrary.mortalPeriod (eraPeriod blockHashCount) ∈
      PowersOfTwo.upTo 2 16 blockHashCount.toNat := by
  have positive : 0 < blockHashCount.toNat := by
    omega
  have logLarge : 2 ≤ Nat.log 2 blockHashCount.toNat :=
    Nat.le_log_of_pow_le (by omega) large
  have below : 2 ^ Nat.log 2 blockHashCount.toNat ≤ blockHashCount.toNat :=
    Nat.pow_log_le_self 2 (by omega)
  rw [mortalPeriod_eraPeriod large]
  refine ⟨PowersOfTwo.isPowerOfTwo_pow _, ?_, ?_, ?_⟩
  · exact PowersOfTwo.pow_le_pow_iff.mpr (by omega)
  · exact PowersOfTwo.pow_le_pow_iff.mpr (by omega)
  · refine le_trans (PowersOfTwo.pow_le_pow_iff.mpr ?_) below
    rcases PowersOfTwo.clog_cases positive with ⟨_, same⟩ | ⟨_, next⟩
    · rw [same]
      split_ifs <;> omega
    · rw [next]
      split_ifs <;> omega

end Period

/-- The promise of the code: the period is the biggest one possible. -/
def PeriodBiggest (lib : EraLibrary) (blockHashCount : UInt32)
    (blockNumber : ℕ) : Prop :=
  IsGreatest (PowersOfTwo.upTo 2 16 blockHashCount.toNat)
    (lib.period (transactionEra lib blockHashCount blockNumber))

/-- The period is the biggest one if and only if its exponent is. -/
private theorem periodBiggest_iff_exponent
    {lib : EraLibrary} (documented : lib.Documented)
    {blockHashCount : UInt32} (large : 4 ≤ blockHashCount.toNat)
    (blockNumber : ℕ) :
    PeriodBiggest lib blockHashCount blockNumber ↔
      min
          (max
            (if blockHashCount.toNat ≤ 2 ^ 31 then
              Nat.clog 2 blockHashCount.toNat - 1
            else 1)
            2)
          16 =
        min (Nat.log 2 blockHashCount.toNat) 16 := by
  have greatest :
      IsGreatest (PowersOfTwo.upTo 2 16 blockHashCount.toNat)
        (2 ^ min (Nat.log 2 blockHashCount.toNat) 16) :=
    PowersOfTwo.isGreatest_upTo (by omega) large
  rw [PeriodBiggest, transactionEra, documented.period_mortal,
    mortalPeriod_eraPeriod large]
  constructor
  · intro biggest
    exact Nat.pow_right_injective le_rfl (biggest.unique greatest)
  · intro same
    rw [same]
    exact greatest

/-- The period is the biggest one possible, except for counts above `2 ^ 31`
and for the powers of two from 8 to 65536. -/
theorem periodBiggest_iff
    {lib : EraLibrary} (documented : lib.Documented)
    {blockHashCount : UInt32} (large : 4 ≤ blockHashCount.toNat)
    (blockNumber : ℕ) :
    PeriodBiggest lib blockHashCount blockNumber ↔
      blockHashCount.toNat ≤ 2 ^ 31 ∧
        ¬ (blockHashCount.toNat.isPowerOfTwo ∧ 8 ≤ blockHashCount.toNat ∧
          blockHashCount.toNat ≤ 65536) := by
  rw [periodBiggest_iff_exponent documented large]
  generalize blockHashCount.toNat = count at large
  have positive : 0 < count := by
    omega
  have logLarge : 2 ≤ Nat.log 2 count :=
    Nat.le_log_of_pow_le (by omega) large
  by_cases small : count ≤ 2 ^ 31
  · rw [if_pos small]
    rcases PowersOfTwo.clog_cases positive with ⟨power, same⟩ | ⟨notPower, next⟩
    · have isPower : count.isPowerOfTwo := ⟨_, power⟩
      have atLeastEight : 3 ≤ Nat.log 2 count ↔ 8 ≤ count :=
        Nat.le_log_iff_pow_le (by omega) (by omega)
      have atMostBiggest :
          2 ^ Nat.log 2 count ≤ 2 ^ 16 ↔ Nat.log 2 count ≤ 16 :=
        PowersOfTwo.pow_le_pow_iff
      rw [← power] at atMostBiggest
      rw [same, ← atLeastEight]
      simp only [isPower, small, true_and]
      omega
    · rw [next]
      simp only [notPower, small, false_and, not_false_eq_true, and_true, iff_true]
      omega
  · have logHuge : 31 ≤ Nat.log 2 count :=
      Nat.le_log_of_pow_le (by omega) (by omega)
    rw [if_neg small]
    simp only [small, false_and, iff_false]
    omega

/-- With the count of 4096 that the relay chains use, the period is 2048. -/
theorem periodBiggest_fails_at_4096 :
    ¬ PeriodBiggest EraLibrary.reference 4096 1 ∧
      EraLibrary.reference.period (transactionEra EraLibrary.reference 4096 1) =
        2048 := by
  have power : (4096 : UInt32).toNat = 2 ^ 12 := by
    decide
  have asked : eraPeriod 4096 = 2 ^ 11 := by
    rw [eraPeriod_of_small (by decide) (by decide), power,
      Nat.clog_pow 2 12 (by omega)]
  have halved :
      EraLibrary.reference.period (transactionEra EraLibrary.reference 4096 1) =
        2048 := by
    rw [transactionEra, EraLibrary.reference_documented.period_mortal, asked,
      EraLibrary.mortalPeriod, PowersOfTwo.clampedUp_pow]
    rfl
  have possible : 4096 ∈ PowersOfTwo.upTo 2 16 (4096 : UInt32).toNat := by
    rw [power]
    exact ⟨⟨12, rfl⟩, by decide, by decide, by decide⟩
  refine ⟨?_, halved⟩
  intro biggest
  have atMost := biggest.2 possible
  rw [halved] at atMost
  omega

theorem periodBiggest_iff_at_4096 :
    PeriodBiggest EraLibrary.reference 4096 1 ↔
      (4096 : UInt32).toNat ≤ 2 ^ 31 ∧
        ¬ ((4096 : UInt32).toNat.isPowerOfTwo ∧ 8 ≤ (4096 : UInt32).toNat ∧
          (4096 : UInt32).toNat ≤ 65536) :=
  periodBiggest_iff EraLibrary.reference_documented (by decide) 1

end ConfidentialWorker
