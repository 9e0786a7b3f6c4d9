import ConfidentialWorker.Library.Program
import Mathlib.Algebra.Group.Nat.Defs
import Mathlib.Logic.Function.Basic

/-!
# On-chain state and dispatch

The pallets run inside FRAME.  Two of its functions are used by the code and
are not part of the repository: `ensure_signed` and `deposit_event`, together
with the origins and the system storage they work on.  They are the parameter
`FrameSystem`, and `FrameSystem.Documented` states what `ensure_signed`
promises.

Block numbers are unsigned integers of any width; the runtime uses 32 bits.
Each pallet keeps its storage under its own name, so that two pallets may give
their items the same name.
-/

namespace ConfidentialWorker

abbrev BlockNumber (width : ℕ) := BitVec width

abbrev H256 := BitVec 256

/-- `From<u32>` for block numbers. -/
def BlockNumber.ofU32 (width : ℕ) (bn : UInt32) : BlockNumber width :=
  bn.toBitVec.setWidth width

/-- `CheckedAdd::checked_add`. -/
def BlockNumber.checkedAdd {width : ℕ} (left right : BlockNumber width) :
    Option (BlockNumber width) :=
  if left.toNat + right.toNat < 2 ^ width then some (left + right) else none

/-- A struct to store a single block-number; both pallets declare it. -/
structure CompositeStruct (width : ℕ) where
  blockNumber : BlockNumber width
  deriving DecidableEq, Repr

/-- What the runtime knows a pallet by. -/
structure PalletInfo where
  index : UInt8
  name : String
  deriving DecidableEq, Repr

/-- The event both pallets declare. -/
inductive PalletEvent (width : ℕ) (AccountId : Type) where
  | somethingStored (blockNumber : BlockNumber width) (who : AccountId)

structure RuntimeEvent (width : ℕ) (AccountId : Type) where
  pallet : PalletInfo
  event : PalletEvent width AccountId

inductive DispatchError where
  | badOrigin
  | module (index : UInt8) (message : String)
  deriving DecidableEq, Repr

/-- The parts of `frame_system` that the pallets use. -/
structure FrameSystem (width : ℕ) where
  Origin : Type
  AccountId : Type
  System : Type
  signer : Origin → Option AccountId
  ensureSigned : Origin → Except DispatchError AccountId
  depositEvent : RuntimeEvent width AccountId → System → System
  blockHash : System → BlockNumber width → H256

namespace FrameSystem

variable {width : ℕ}

/-- `ensure_signed` gives the signer of a signed origin and refuses others. -/
structure Documented (frame : FrameSystem width) : Prop where
  ensureSigned_of_signed : ∀ origin who,
    frame.signer origin = some who → frame.ensureSigned origin = .ok who
  ensureSigned_of_unsigned : ∀ origin,
    frame.signer origin = none → frame.ensureSigned origin = .error .badOrigin

/-- An origin that no account signed. -/
def Unsigned (frame : FrameSystem width) (origin : frame.Origin) : Prop :=
  frame.signer origin = none

theorem not_unsigned_of_signer
    {frame : FrameSystem width} {origin : frame.Origin} {who : frame.AccountId}
    (signed : frame.signer origin = some who) :
    ¬ frame.Unsigned origin := by
  simp [Unsigned, signed]

end FrameSystem

/-- The origins of `frame_system` itself, signed by numbered accounts. -/
inductive RawOrigin where
  | root
  | signed (who : ℕ)
  | none
  deriving DecidableEq, Repr

def RawOrigin.signer : RawOrigin → Option ℕ
  | .signed who => some who
  | _ => Option.none

namespace FrameSystem

/-- A system that keeps its events in a list and knows no block hashes. -/
def recording (width : ℕ) {Origin AccountId : Type}
    (signer : Origin → Option AccountId) : FrameSystem width where
  Origin := Origin
  AccountId := AccountId
  System := List (RuntimeEvent width AccountId)
  signer := signer
  ensureSigned origin :=
    match signer origin with
    | some who => .ok who
    | none => .error .badOrigin
  depositEvent event events := events ++ [event]
  blockHash _ _ := 0

theorem recording_documented (width : ℕ) {Origin AccountId : Type}
    (signer : Origin → Option AccountId) :
    (recording width signer).Documented where
  ensureSigned_of_signed := by
    intro origin who signed
    change signer origin = some who at signed
    simp only [recording, signed]
  ensureSigned_of_unsigned := by
    intro origin unsigned
    change signer origin = none at unsigned
    simp only [recording, unsigned]

def listing (width : ℕ) : FrameSystem width :=
  recording width RawOrigin.signer

theorem listing_documented (width : ℕ) : (listing width).Documented :=
  recording_documented width RawOrigin.signer

end FrameSystem

/-- Where a storage item lives: the pallet's name and the item's. -/
structure StorageKey where
  pallet : String
  item : String
  deriving DecidableEq, Repr

/-- The storage item `Something`, which both pallets declare. -/
def PalletInfo.something (pallet : PalletInfo) : StorageKey :=
  ⟨pallet.name, "Something"⟩

/-- The on-chain state: the storage of `frame_system` and of the pallets. -/
structure Chain {width : ℕ} (frame : FrameSystem width) where
  system : frame.System
  storage : StorageKey → Option (CompositeStruct width)

/-- A dispatch runs on the chain and may fail.  What it wrote before it failed
is not rolled back here. -/
abbrev DispatchM {width : ℕ} (frame : FrameSystem width) (α : Type) :=
  Program (Chain frame) DispatchError α

namespace DispatchM

variable {width : ℕ} {frame : FrameSystem width}

def ensureSigned (origin : frame.Origin) : DispatchM frame frame.AccountId :=
  match frame.ensureSigned origin with
  | .ok who => pure who
  | .error error => Program.stop error

/-- `StorageValue::get`. -/
def get (key : StorageKey) :
    DispatchM frame (Option (CompositeStruct width)) :=
  Program.read fun chain => chain.storage key

/-- `StorageValue::put`. -/
def put (key : StorageKey) (value : CompositeStruct width) :
    DispatchM frame PUnit :=
  Program.modify fun chain =>
    { chain with storage := Function.update chain.storage key (some value) }

def depositEvent (event : RuntimeEvent width frame.AccountId) :
    DispatchM frame PUnit :=
  Program.modify fun chain =>
    { chain with system := frame.depositEvent event chain.system }

/-- The dispatchable `do_something` of both pallets: an origin that is signed
stores the argument as a block number and emits an event. -/
def storeSomething (pallet : PalletInfo) (origin : frame.Origin)
    (bn : UInt32) : DispatchM frame PUnit := do
  let who ← ensureSigned origin
  let blockNumber := BlockNumber.ofU32 width bn
  put pallet.something ⟨blockNumber⟩
  depositEvent ⟨pallet, .somethingStored blockNumber who⟩

variable (documented : frame.Documented)
include documented

theorem ensureSigned_apply_of_signed
    {origin : frame.Origin} {who : frame.AccountId} (chain : Chain frame)
    (signed : frame.signer origin = some who) :
    ensureSigned origin chain = (.ok who, chain) := by
  rw [ensureSigned, documented.ensureSigned_of_signed origin who signed]
  rfl

theorem ensureSigned_apply_of_unsigned
    {origin : frame.Origin} (chain : Chain frame)
    (unsigned : frame.Unsigned origin) :
    ensureSigned origin chain = (.error .badOrigin, chain) := by
  rw [ensureSigned, documented.ensureSigned_of_unsigned origin unsigned]
  rfl

theorem storeSomething_apply_of_signed
    {pallet : PalletInfo} {origin : frame.Origin} {who : frame.AccountId}
    (bn : UInt32) (chain : Chain frame)
    (signed : frame.signer origin = some who) :
    storeSomething pallet origin bn chain =
      (.ok ⟨⟩,
        { system :=
            frame.depositEvent
              ⟨pallet, .somethingStored (BlockNumber.ofU32 width bn) who⟩
              chain.system
          storage :=
            Function.update chain.storage pallet.something
              (some ⟨BlockNumber.ofU32 width bn⟩) }) :=
  Program.bind_of_ok
    (ensureSigned_apply_of_signed documented chain signed) _

theorem storeSomething_apply_of_unsigned
    {pallet : PalletInfo} {origin : frame.Origin}
    (bn : UInt32) (chain : Chain frame) (unsigned : frame.Unsigned origin) :
    storeSomething pallet origin bn chain = (.error .badOrigin, chain) :=
  Program.bind_of_error
    (ensureSigned_apply_of_unsigned documented chain unsigned) _

end DispatchM

namespace BlockNumber

variable {width : ℕ}

theorem toNat_ofU32 (wide : 32 ≤ width) (bn : UInt32) :
    (ofU32 width bn).toNat = bn.toNat := by
  have small : bn.toNat < 2 ^ 32 := bn.toNat_lt
  have large : (2 : ℕ) ^ 32 ≤ 2 ^ width :=
    Nat.pow_le_pow_right (by omega) wide
  simp only [ofU32, BitVec.toNat_setWidth, UInt32.toNat_toBitVec]
  exact Nat.mod_eq_of_lt (by omega)

/-- Adding one fails on the greatest block number only, and never wraps. -/
theorem checkedAdd_one_cases (wide : 32 ≤ width) (number : BlockNumber width) :
    (number.toNat = 2 ^ width - 1 ∧ number.checkedAdd 1 = none) ∨
      (number.toNat ≠ 2 ^ width - 1 ∧
        ∃ next, number.checkedAdd 1 = some next ∧
          next.toNat = number.toNat + 1) := by
  have bound : number.toNat < 2 ^ width := number.isLt
  have large : (2 : ℕ) ^ 32 ≤ 2 ^ width :=
    Nat.pow_le_pow_right (by omega) wide
  have one : (1 : BlockNumber width).toNat = 1 :=
    BitVec.toNat_one (by omega)
  unfold checkedAdd
  rw [one]
  by_cases fits : number.toNat + 1 < 2 ^ width
  · right
    rw [if_pos fits]
    refine ⟨by omega, number + 1, rfl, ?_⟩
    rw [BitVec.toNat_add, one, Nat.mod_eq_of_lt fits]
  · left
    rw [if_neg fits]
    exact ⟨by omega, rfl⟩

end BlockNumber

end ConfidentialWorker
