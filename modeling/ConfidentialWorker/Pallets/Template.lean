import ConfidentialWorker.Runtime.Frame

/-!
# The template pallet

`do_something` stores its argument; `cause_error` increments what is stored.
Both need a signed origin.  The spec lemmas of `cause_error` say what it does
to the whole chain, also when it fails.
-/

namespace ConfidentialWorker.Template

open Program

variable {width : ℕ} {frame : FrameSystem width}

inductive Error where
  | noneValue
  | storageOverflow
  deriving DecidableEq, Repr

/-- A pallet error as the runtime reports it, under the pallet's index. -/
def Error.dispatch (pallet : PalletInfo) : Error → DispatchError
  | .noneValue => .module pallet.index "NoneValue"
  | .storageOverflow => .module pallet.index "StorageOverflow"

def doSomething (pallet : PalletInfo) (origin : frame.Origin) (bn : UInt32) :
    DispatchM frame PUnit :=
  DispatchM.storeSomething pallet origin bn

/-- Increments the stored block number; errs when there is none and in the
event of overflow. -/
def causeError (pallet : PalletInfo) (origin : frame.Origin) :
    DispatchM frame PUnit := do
  let _who ← DispatchM.ensureSigned origin
  match ← DispatchM.get pallet.something with
  | none => Program.stop (Error.noneValue.dispatch pallet)
  | some old =>
      match old.blockNumber.checkedAdd 1 with
      | none => Program.stop (Error.storageOverflow.dispatch pallet)
      | some blockNumber =>
          DispatchM.put pallet.something { old with blockNumber }

/-! ## What a dispatch does -/

variable (documented : frame.Documented)
include documented

theorem causeError_apply_of_unsigned
    {pallet : PalletInfo} {origin : frame.Origin}
    (chain : Chain frame) (unsigned : frame.Unsigned origin) :
    causeError pallet origin chain = (.error .badOrigin, chain) :=
  bind_of_error
    (DispatchM.ensureSigned_apply_of_unsigned documented chain unsigned) _

theorem causeError_apply_of_none
    {pallet : PalletInfo} {origin : frame.Origin} {who : frame.AccountId}
    {chain : Chain frame} (signed : frame.signer origin = some who)
    (empty : chain.storage pallet.something = none) :
    causeError pallet origin chain =
      (.error (Error.noneValue.dispatch pallet), chain) := by
  rw [causeError,
    bind_of_ok
      (DispatchM.ensureSigned_apply_of_signed documented chain signed)]
  simp only [DispatchM.get, bind_apply, read_apply, empty, stop_apply]

theorem causeError_apply_of_some
    {pallet : PalletInfo} {origin : frame.Origin} {who : frame.AccountId}
    {chain : Chain frame} {old : CompositeStruct width}
    (signed : frame.signer origin = some who)
    (found : chain.storage pallet.something = some old) :
    causeError pallet origin chain =
      match old.blockNumber.checkedAdd 1 with
      | none => (.error (Error.storageOverflow.dispatch pallet), chain)
      | some next =>
          (.ok ⟨⟩,
            { chain with
              storage :=
                Function.update chain.storage pallet.something
                  (some ⟨next⟩) }) := by
  rw [causeError,
    bind_of_ok
      (DispatchM.ensureSigned_apply_of_signed documented chain signed)]
  simp only [DispatchM.get, bind_apply, read_apply, found]
  cases old.blockNumber.checkedAdd 1 <;> rfl

end ConfidentialWorker.Template
