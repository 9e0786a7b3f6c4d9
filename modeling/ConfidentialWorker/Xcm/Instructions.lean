import ConfidentialWorker.Runtime.Fees
import ConfidentialWorker.Xcm.Locations

/-!
# Messages

A message is a list of instructions.  `SetErrorHandler` and `SetAppendix`
carry programs that this chain executes later, and these may do the same, to
any depth: `InProgram` are the instructions of a program and of all programs
nested in it in this way.  The messages inside the reserve transfers are not
among them; they are sent to another chain and executed there.

Instructions that nothing here depends on are left to the vocabulary.
-/

namespace ConfidentialWorker

abbrev XcmHash := Vector UInt8 32

/-- The parts of messages that are not looked into. -/
structure Vocabulary where
  Asset : Type
  AssetFilter : Type
  Other : Type

namespace Weight

def zero : Weight :=
  ⟨0, 0⟩

/-- At least as much in both components. -/
def allGte (weight other : Weight) : Bool :=
  decide (other.refTime ≤ weight.refTime) &&
    decide (other.proofSize ≤ weight.proofSize)

def checkedSub (weight other : Weight) : Option Weight :=
  if weight.allGte other then
    some
      ⟨weight.refTime - other.refTime, weight.proofSize - other.proofSize⟩
  else
    none

/-- Zero is at least nothing but zero. -/
theorem zero_allGte {weight : Weight} (nonzero : weight ≠ zero) :
    zero.allGte weight = false := by
  rw [← Bool.not_eq_true]
  intro enough
  obtain ⟨refTime, proofSize⟩ := weight
  simp only [allGte, zero, Bool.and_eq_true] at enough
  have noTime : refTime ≤ 0 := of_decide_eq_true enough.1
  have noProof : proofSize ≤ 0 := of_decide_eq_true enough.2
  apply nonzero
  rw [UInt64.le_zero_iff.mp noTime, UInt64.le_zero_iff.mp noProof]
  rfl

end Weight

/-- A vocabulary of numbers. -/
def Vocabulary.plain : Vocabulary :=
  ⟨ℕ, ℕ, ℕ⟩

inductive WeightLimit where
  | unlimited
  | limited (weight : Weight)
  deriving DecidableEq

namespace WeightLimit

/-- The limit allows for this weight. -/
def covers (limit : WeightLimit) (weight : Weight) : Bool :=
  match limit with
  | .unlimited => true
  | .limited most => most.allGte weight

end WeightLimit

inductive Instruction (V : Vocabulary) where
  | withdrawAsset (assets : List V.Asset)
  | reserveAssetDeposited (assets : List V.Asset)
  | receiveTeleportedAsset (assets : List V.Asset)
  | claimAsset (assets : List V.Asset) (ticket : Location)
  | transferReserveAsset (assets : List V.Asset) (dest : Location)
      (xcm : List (Instruction V))
  | depositReserveAsset (assets : V.AssetFilter) (dest : Location)
      (xcm : List (Instruction V))
  | initiateReserveWithdraw (assets : V.AssetFilter) (reserve : Location)
      (xcm : List (Instruction V))
  | clearOrigin
  | descendOrigin (interior : Junctions)
  | universalOrigin (junction : Junction)
  | buyExecution (fees : V.Asset) (weightLimit : WeightLimit)
  | unpaidExecution (weightLimit : WeightLimit) (checkOrigin : Option Location)
  | setErrorHandler (xcm : List (Instruction V))
  | setAppendix (xcm : List (Instruction V))
  | setTopic (topic : XcmHash)
  | other (instruction : V.Other)

variable {V : Vocabulary}

namespace Instruction

/-- The three shapes of a reserve transfer to the relay chain. -/
def reserveTransferToRelayChain : Instruction V → Bool
  | .initiateReserveWithdraw _ reserve _ => decide (reserve = Location.parent)
  | .depositReserveAsset _ dest _ => decide (dest = Location.parent)
  | .transferReserveAsset _ dest _ => decide (dest = Location.parent)
  | _ => false

def changesOrigin : Instruction V → Bool
  | .universalOrigin _ => true
  | .descendOrigin _ => true
  | _ => false

end Instruction

/-! ## Nested programs -/

/-- The instructions of a program and of the programs nested in it. -/
inductive InProgram (instruction : Instruction V) :
    List (Instruction V) → Prop
  | listed {program : List (Instruction V)} :
      instruction ∈ program → InProgram instruction program
  | errorHandler {program xcm : List (Instruction V)} :
      .setErrorHandler xcm ∈ program →
      InProgram instruction xcm →
      InProgram instruction program
  | appendix {program xcm : List (Instruction V)} :
      .setAppendix xcm ∈ program →
      InProgram instruction xcm →
      InProgram instruction program

/-- The instructions below the top level of a message. -/
def Nested (instruction : Instruction V) (message : List (Instruction V)) :
    Prop :=
  ∃ xcm,
    (.setErrorHandler xcm ∈ message ∨ .setAppendix xcm ∈ message) ∧
      InProgram instruction xcm

theorem inProgram_iff
    {instruction : Instruction V} {message : List (Instruction V)} :
    InProgram instruction message ↔
      instruction ∈ message ∨ Nested instruction message := by
  constructor
  · intro within
    cases within with
    | listed member =>
        exact Or.inl member
    | errorHandler member within =>
        exact Or.inr ⟨_, Or.inl member, within⟩
    | appendix member within =>
        exact Or.inr ⟨_, Or.inr member, within⟩
  · intro somewhere
    rcases somewhere with member | ⟨xcm, errorHandler | appendix, within⟩
    · exact InProgram.listed member
    · exact InProgram.errorHandler errorHandler within
    · exact InProgram.appendix appendix within

end ConfidentialWorker
