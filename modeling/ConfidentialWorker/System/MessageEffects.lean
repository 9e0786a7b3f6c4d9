import ConfidentialWorker.Runtime.PalletCalls
import ConfidentialWorker.System.World

/-!
# What messages do to the chain

A message of another chain changes this chain as a history of the node does:
by one dispatch for every call that the executor dispatches, in the same order,
and by steps of the system in between.  All that is known about histories of
the node therefore also holds of nodes that receive messages.

Of the dispatches only those change the pallets that an account signed, which
is one of the sender's own.
-/

namespace ConfidentialWorker

open Program ConfidentialWorker.Runtime

variable {V : Vocabulary} {Encoded : Type} {width : ℕ}
  {frame : FrameSystem width}

/-- The dispatch of an operation. -/
def Operation.dispatched : Operation frame → Option (frame.Origin × RuntimeCall)
  | .dispatch origin call => some (origin, call)
  | _ => none

/-- The executor gets to a `Transact` of the message, at some depth, while it
acts for a location that converts to the origin; the call decodes, and weighs
at most what the instruction allows for. -/
structure DispatchedBy (converters : OriginConverters)
    (decode : Encoded → Option RuntimeCall)
    (message : List (Instruction (V.dispatching Encoded)))
    (instruction : Instruction (V.dispatching Encoded))
    (acting : Option Location) (dispatch : Dispatch RuntimeCall) : Prop where
  inMessage : InProgram instruction message
  transacts :
    ∃ kind requireWeightAtMost encoded location,
      instruction = .other (.transact kind requireWeightAtMost encoded) ∧
        decode encoded = some dispatch.call ∧
          requireWeightAtMost.allGte dispatch.call.weight = true ∧
            acting = some location ∧
              DispatchesAs location kind dispatch.origin

section Message

variable (converters : OriginConverters)
  (decode : Encoded → Option RuntimeCall) (embedding : OriginEmbedding frame)
  (executor : XcmMachine (V.dispatching Encoded))
  (view : executor.CallView (Chain frame)) (sender : AggregateMessageOrigin)
  (message : List (Instruction (V.dispatching Encoded)))
  (visits : List (Instruction (V.dispatching Encoded) × executor.Vm))
  (last : executor.Vm)

/-- The effect of a message on the chain. -/
structure MessageEffect : Prop where
  dispatched_iff :
    ∀ visit ∈ visits, ∀ dispatch,
      executor.dispatched (palletCalls converters decode embedding) visit =
          some dispatch ↔
        DispatchedBy converters decode message visit.1
          (executor.origin visit.2) dispatch
  /-- What nobody signed is refused, and what is signed is the sender's. -/
  signed :
    ∀ dispatch ∈
        executor.dispatches (palletCalls converters decode embedding) visits,
      (∃ who, dispatch.origin = .signed who ∧ sender.MayOwn who) ∨
        ∀ chain,
          dispatch.call.dispatch (embedding.into dispatch.origin) chain =
            (.error .badOrigin, chain)
  history :
    ∃ operations : List (Operation frame),
      operations.filterMap Operation.dispatched =
          (executor.dispatches (palletCalls converters decode embedding)
            visits).map
            (fun dispatch =>
              (embedding.into dispatch.origin, dispatch.call)) ∧
        ∀ client localStorage,
          History.reach (World.step client)
              ⟨view.state (executor.new sender.toLocation), localStorage⟩
              operations =
            ⟨view.state last, localStorage⟩

end Message

/-- Whatever the off-chain side of the node is, its operations run through the
states that dispatches pass through. -/
private theorem exists_operations
    {converters : OriginConverters} {decode : Encoded → Option RuntimeCall}
    {embedding : OriginEmbedding frame} {start last : Chain frame}
    {dispatches : List (Dispatch RuntimeCall)}
    (passes :
      History.Passes (palletCalls converters decode embedding).apply
        Chain.storage start dispatches last) :
    ∃ operations : List (Operation frame),
      operations.filterMap Operation.dispatched =
          dispatches.map
            (fun dispatch =>
              (embedding.into dispatch.origin, dispatch.call)) ∧
        ∀ node : HttpClient (Chain frame) × OffchainDb,
          History.reach (World.step node.1) ⟨start, node.2⟩ operations =
            ⟨last, node.2⟩ := by
  refine
    @History.Passes.exists_reach _ _ _ _ _ _
      (HttpClient (Chain frame) × OffchainDb) _ _ _
      (fun node => World.step node.1) (fun node chain => ⟨chain, node.2⟩)
      Operation.dispatched _ ?_ ?_ _ _ _ passes
  · intro dispatch
    exact
      ⟨.dispatch (embedding.into dispatch.origin) dispatch.call, rfl,
        fun _ _ => rfl⟩
  · intro chain next same
    refine ⟨.systemStep fun _ => next.system, rfl, ?_⟩
    intro node
    obtain ⟨system, storage⟩ := next
    cases same
    rfl

/-- The four bytes of a number, the lowest one first. -/
def fromLittleEndian (lowest low high highest : UInt8) : UInt32 :=
  lowest.toUInt32 ||| (low.toUInt32 <<< 8) ||| (high.toUInt32 <<< 16) |||
    (highest.toUInt32 <<< 24)

/-- The calls of the pallets with the indices 50 and 51. -/
def decodeCall : List UInt8 → Option RuntimeCall
  | 50 :: 0 :: lowest :: low :: high :: highest :: _ =>
      some (.templateDoSomething (fromLittleEndian lowest low high highest))
  | 50 :: 1 :: _ => some .templateCauseError
  | 51 :: 0 :: lowest :: low :: high :: highest :: _ =>
      some (.ocwDoSomething (fromLittleEndian lowest low high highest))
  | _ => none

def callsHere :
    CallConfig (List UInt8) RuntimeCall
      (Chain (FrameSystem.overRuntimeOrigins 32)) :=
  palletCalls OriginConverters.reference decodeCall (OriginEmbedding.identity 32)

def chainMachine :
    XcmMachine (Vocabulary.plain.dispatching (List UInt8)) :=
  (XcmMachine.reference _).onState callsHere ⟨[], fun _ => none⟩

/-- The call stores 7. -/
def storingTransact :
    Instruction (Vocabulary.plain.dispatching (List UInt8)) :=
  .other (.transact .sovereignAccount ⟨200000000, 0⟩ [51, 0, 7, 0, 0, 0])

def storingMessage :
    Inspection (Vocabulary.plain.dispatching (List UInt8)) where
  instructions :=
    [.withdrawAsset [(1 : ℕ)], .buyExecution (1 : ℕ) .unlimited,
      storingTransact]
  properties := ⟨Weight.zero, none⟩

def storingExecuted :
    List (Instruction (Vocabulary.plain.dispatching (List UInt8))) :=
  [.withdrawAsset [(1 : ℕ)],
    .buyExecution (1 : ℕ) (.limited ⟨3200000000, 196608⟩), storingTransact]

/-- The machine of the message before its call. -/
def storingVm : chainMachine.Vm :=
  (⟨some (Location.sibling 2001), [], []⟩, ⟨[], fun _ => none⟩)

/-- The chain after the message. -/
def storedChain : Chain (FrameSystem.overRuntimeOrigins 32) where
  system := [⟨ocwPallet, .somethingStored 7 (siblingAccount 2001)⟩]
  storage := Function.update (fun _ => none) ocwPallet.something (some ⟨7⟩)

end ConfidentialWorker
