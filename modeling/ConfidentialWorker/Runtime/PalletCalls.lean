import ConfidentialWorker.Runtime.Runtime
import ConfidentialWorker.Runtime.Transacts

/-!
# The calls of the pallets in messages

The two pallets weigh their calls by the database operations that these do.  A
message brings such a call encoded; how it is decoded is left to the codec.

A call is dispatched on the chain with an origin of the runtime, and the
pallets refuse every origin that nobody signed.
-/

namespace ConfidentialWorker

open Program ConfidentialWorker.Runtime

/-! ## Weights -/

structure RuntimeDbWeight where
  read : UInt64
  write : UInt64

def weightRefTimePerNanos : UInt64 := 1000

def rocksDbWeight : RuntimeDbWeight where
  read := 25000 * weightRefTimePerNanos
  write := 100000 * weightRefTimePerNanos

namespace RuntimeDbWeight

def readsWrites (dbWeight : RuntimeDbWeight) (reads writes : UInt64) :
    Weight :=
  ⟨dbWeight.read * reads + dbWeight.write * writes, 0⟩

def writes (dbWeight : RuntimeDbWeight) (count : UInt64) : Weight :=
  ⟨dbWeight.write * count, 0⟩

end RuntimeDbWeight

def Weight.add (left right : Weight) : Weight :=
  ⟨left.refTime + right.refTime, left.proofSize + right.proofSize⟩

/-- The `pallet::weight` of a call. -/
def Runtime.RuntimeCall.weight : RuntimeCall → Weight
  | .templateDoSomething _ => Weight.add ⟨10000, 0⟩ (rocksDbWeight.writes 1)
  | .templateCauseError =>
      Weight.add ⟨10000, 0⟩ (rocksDbWeight.readsWrites 1 1)
  | .ocwDoSomething _ => Weight.add ⟨10000, 0⟩ (rocksDbWeight.writes 1)

/-! ## Dispatch -/

variable {width : ℕ}

/-- The origins of the runtime as a system of pallets sees them. -/
structure OriginEmbedding (frame : FrameSystem width) where
  into : RuntimeOrigin → frame.Origin
  account : AccountId32 → frame.AccountId
  signer_signed : ∀ who, frame.signer (into (.signed who)) = some (account who)
  signer_other : ∀ origin,
    (∀ who, origin ≠ .signed who) → frame.signer (into origin) = none

variable {frame : FrameSystem width}

/-- The parts of `XcmConfig` that decide about calls, for the calls of the
pallets. -/
def palletCalls {Encoded : Type} (converters : OriginConverters)
    (decode : Encoded → Option RuntimeCall)
    (embedding : OriginEmbedding frame) :
    CallConfig Encoded RuntimeCall (Chain frame) :=
  xcmCalls converters decode RuntimeCall.weight fun origin call =>
    (call.dispatch (embedding.into origin)).final

/-- Every call of the pallets refuses an origin that nobody signed. -/
theorem dispatch_apply_of_unsigned
    (documented : frame.Documented) {origin : frame.Origin}
    (unsigned : frame.Unsigned origin) (call : RuntimeCall)
    (chain : Chain frame) :
    call.dispatch origin chain = (.error .badOrigin, chain) := by
  cases call with
  | templateDoSomething bn | ocwDoSomething bn =>
      exact
        DispatchM.storeSomething_apply_of_unsigned documented bn chain unsigned
  | templateCauseError =>
      exact Template.causeError_apply_of_unsigned documented chain unsigned

/-! ## The origins of the runtime as a system -/

def RuntimeOrigin.signer : RuntimeOrigin → Option AccountId32
  | .signed who => some who
  | _ => Option.none

/-- A system of pallets over the origins of the runtime. -/
def FrameSystem.overRuntimeOrigins (width : ℕ) : FrameSystem width :=
  recording width RuntimeOrigin.signer

theorem FrameSystem.overRuntimeOrigins_documented (width : ℕ) :
    (FrameSystem.overRuntimeOrigins width).Documented :=
  recording_documented width RuntimeOrigin.signer

def OriginEmbedding.identity (width : ℕ) :
    OriginEmbedding (FrameSystem.overRuntimeOrigins width) where
  into origin := origin
  account who := who
  signer_signed _ := rfl
  signer_other := by
    intro origin unsigned
    cases origin with
    | signed who =>
        exact absurd rfl (unsigned who)
    | _ =>
        rfl

end ConfidentialWorker
