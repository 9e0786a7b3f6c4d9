import ConfidentialWorker.Runtime.AdmittedMessages
import ConfidentialWorker.Xcm.ExecutionCost

/-!
# Executions are finite and paid for

`XcmConfig` weighs a message with a fixed weight for each instruction and
refuses messages of more than a hundred instructions.  Programs nested in a
message are executed later and may install others; still the weight of a
message covers everything that is executed of it, and the bound on its
instructions bounds what is executed.
-/

namespace ConfidentialWorker

variable {V : Vocabulary} {Call : Type}

/-- One XCM operation. -/
def unitWeightCost : Weight :=
  ⟨1000000000, 64 * 1024⟩

def maxInstructions : ℕ := 100

/-- The weight of a message under `XcmConfig`. -/
def weigher (lib : XcmWeigher V Call)
    (message : List (Instruction (V.dispatching Call))) : Option Weight :=
  lib.fixedWeightBounds unitWeightCost maxInstructions message

section Executed

variable {builder : XcmBuilder V} (builderDocumented : builder.Documented)
  {executor : XcmExecutor V} (executorDocumented : executor.Documented)
  {parachainId : UInt32} {origin : Location} {weight : Weight}
  {inspection : Inspection V}
include builderDocumented executorDocumented

/-- A measure that ignores limits is at most its total over the message. -/
private theorem executed_cost_le
    (measure : Instruction V → ℕ)
    (ignoresLimits :
      ∀ fees first second,
        measure (.buyExecution fees first) =
          measure (.buyExecution fees second))
    {executed : List (Instruction V)}
    (executes :
      executor.Executes (xcmConfig builder parachainId) origin weight
        inspection executed) :
    (executed.map measure).sum ≤
      programTotal measure inspection.instructions := by
  cases (executorDocumented.executes_iff _ _ _ _ _).mp executes with
  | refused _ =>
      exact Nat.zero_le _
  | @admitted reached _ ran runs =>
      have paid :=
        runs_cost_le executorDocumented.machine measure runs
      have nothingInstalled :
          executor.toXcmMachine.installedTotal measure (executor.new origin) =
            0 := by
        rw [XcmMachine.installedTotal,
          executorDocumented.machine.new_errorHandler,
          executorDocumented.machine.new_appendix, programTotal]
      have sameTotal :=
        programTotal_of_relimits ignoresLimits
          (barrier_relimits builderDocumented ran)
      omega

private theorem executed_length_le
    {executed : List (Instruction V)}
    (executes :
      executor.Executes (xcmConfig builder parachainId) origin weight
        inspection executed) :
    executed.length ≤ instructionCount inspection.instructions := by
  have counted :=
    executed_cost_le builderDocumented executorDocumented (fun _ => 1)
      (fun _ _ _ => rfl) executes
  simpa [instructionCount] using counted

end Executed

/-- The executor stops on every message, also on one that keeps installing
programs: it executes one list of instructions, no longer than the message with
all that is nested in it. -/
theorem executes_once
    {builder : XcmBuilder V} (builderDocumented : builder.Documented)
    {executor : XcmExecutor V} (executorDocumented : executor.Documented)
    (parachainId : UInt32) (origin : Location) (weight : Weight)
    (inspection : Inspection V) :
    ∃ executed,
      (∀ other,
          executor.Executes (xcmConfig builder parachainId) origin weight
              inspection other ↔
            other = executed) ∧
        executed.length ≤ instructionCount inspection.instructions := by
  have exists_executed :
      ∃ executed,
        executor.Executed (xcmConfig builder parachainId) origin weight
          inspection executed := by
    rcases ran :
        (xcmConfig builder parachainId).barrier origin weight inspection with
      ⟨result, reached⟩
    cases result with
    | ok _ =>
        obtain ⟨executed, runs⟩ :=
          exists_runs executorDocumented.machine reached.instructions
            (executor.new origin)
        exact ⟨executed, XcmMachine.Executed.admitted ran runs⟩
    | error _ =>
        exact ⟨[], XcmMachine.Executed.refused ran⟩
  obtain ⟨executed, execution⟩ := exists_executed
  have executes := (executorDocumented.executes_iff _ _ _ _ _).mpr execution
  refine ⟨executed, ?_, ?_⟩
  · intro other
    constructor
    · intro otherExecutes
      exact
        executed_unique
          ((executorDocumented.executes_iff _ _ _ _ _).mp otherExecutes)
          execution
    · intro same
      rw [same]
      exact executes
  · exact executed_length_le builderDocumented executorDocumented executes

/-- A message that installs one program inside another. -/
def nestingMessage : Inspection (Vocabulary.plain.dispatching ℕ) where
  instructions :=
    [.unpaidExecution .unlimited none,
      .setAppendix
        [.setAppendix [.clearOrigin],
          .other (.transact .sovereignAccount ⟨5, 5⟩ (7 : ℕ))]]
  properties := ⟨Weight.zero, none⟩

theorem executes_once_nestingMessage :
    ∃ executed,
      (∀ other,
          (XcmExecutor.reference _).Executes
              (xcmConfig (XcmBuilder.reference _) 2000) Location.parent
              ⟨5000000005, 327685⟩ nestingMessage other ↔
            other = executed) ∧
        executed.length ≤ instructionCount nestingMessage.instructions :=
  executes_once XcmBuilder.reference_documented
    XcmExecutor.reference_documented 2000 Location.parent
    ⟨5000000005, 327685⟩ nestingMessage

/-- Whatever is executed of a message is covered by the weight that it was
charged, and is at most as much as the limit on its instructions. -/
theorem executed_within_weight
    {builder : XcmBuilder (V.dispatching Call)}
    (builderDocumented : builder.Documented)
    {executor : XcmExecutor (V.dispatching Call)}
    (executorDocumented : executor.Documented)
    {lib : XcmWeigher V Call} (weigherDocumented : lib.Documented)
    {parachainId : UInt32} {origin : Location} {weight charged : Weight}
    {inspection : Inspection (V.dispatching Call)}
    (weighed : weigher lib inspection.instructions = some charged)
    {executed : List (Instruction (V.dispatching Call))}
    (executes :
      executor.Executes (xcmConfig builder parachainId) origin weight
        inspection executed) :
    executed.length ≤ maxInstructions ∧
      (executed.map (ownCost unitWeightCost Weight.refTime)).sum ≤
          charged.refTime.toNat ∧
        (executed.map (ownCost unitWeightCost Weight.proofSize)).sum ≤
          charged.proofSize.toNat := by
  obtain ⟨few, time_eq, proof_eq⟩ :=
    (weigherDocumented.weight_iff _ _ _ _).mp weighed
  rw [← time_eq, ← proof_eq]
  refine ⟨?_, ?_, ?_⟩
  · exact
      (executed_length_le builderDocumented executorDocumented executes).trans
        few
  · exact
      executed_cost_le builderDocumented executorDocumented _
        (fun _ _ _ => rfl) executes
  · exact
      executed_cost_le builderDocumented executorDocumented _
        (fun _ _ _ => rfl) executes

/-- What the relay chain gets executed of it. -/
def nestingExecuted : List (Instruction (Vocabulary.plain.dispatching ℕ)) :=
  nestingMessage.instructions ++
    [.setAppendix [.clearOrigin],
      .other (.transact .sovereignAccount ⟨5, 5⟩ (7 : ℕ)), .clearOrigin]

theorem executed_within_weight_nestingMessage :
    nestingExecuted.length ≤ maxInstructions ∧
      (nestingExecuted.map (ownCost unitWeightCost Weight.refTime)).sum ≤
          5000000005 ∧
        (nestingExecuted.map (ownCost unitWeightCost Weight.proofSize)).sum ≤
          327685 := by
  have weighed :
      weigher (XcmWeigher.reference Vocabulary.plain ℕ)
          nestingMessage.instructions =
        some ⟨5000000005, 327685⟩ := by
    decide
  have admitted :
      barrier (XcmBuilder.reference _) 2000 Location.parent
          ⟨5000000005, 327685⟩ nestingMessage =
        (.ok ⟨⟩, nestingMessage) :=
    rfl
  have executes :
      (XcmExecutor.reference _).Executes
        (xcmConfig (XcmBuilder.reference _) 2000) Location.parent
        ⟨5000000005, 327685⟩ nestingMessage nestingExecuted := by
    apply XcmMachine.Executed.admitted admitted
    apply XcmMachine.Runs.step (List.cons_ne_nil _ _)
    apply XcmMachine.Runs.step (List.cons_ne_nil _ _)
    exact
      XcmMachine.Runs.step (List.cons_ne_nil _ _) (XcmMachine.Runs.done _)
  exact
    executed_within_weight XcmBuilder.reference_documented
      XcmExecutor.reference_documented XcmWeigher.reference_documented weighed
      executes

end ConfidentialWorker
