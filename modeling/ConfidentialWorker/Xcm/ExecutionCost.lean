import ConfidentialWorker.Xcm.Executor
import ConfidentialWorker.Xcm.Weighing

/-!
# What an execution costs

A program that is executed may install an error handler and an appendix, which
are executed after it and may install programs again.  Every program that is
installed stands in an instruction of the program before it, so that a measure
of instructions that is added up over all nested programs pays for everything
that is executed.

In particular an execution ends, and is the only one of its message.
-/

namespace ConfidentialWorker

variable {V : Vocabulary}

namespace XcmMachine

/-- The total of the programs that are installed. -/
def installedTotal (lib : XcmMachine V) (measure : Instruction V → ℕ)
    (vm : lib.Vm) : ℕ :=
  programTotal measure (lib.errorHandler vm) +
    programTotal measure (lib.appendix vm)

end XcmMachine

section Cost

variable {lib : XcmMachine V} (documented : lib.Documented)
  {config : ExecutorConfig V} {measure : Instruction V → ℕ}
include documented

/-- An instruction pays for itself and for the program that it installs. -/
private theorem processInstruction_pays
    (instruction : Instruction V) (vm : lib.Vm) :
    measure instruction +
        lib.installedTotal measure
          ((lib.processInstruction config instruction).final vm) ≤
      instruction.total measure + lib.installedTotal measure vm := by
  unfold XcmMachine.installedTotal
  by_cases handler : ∃ xcm, instruction = .setErrorHandler xcm
  · obtain ⟨xcm, rfl⟩ := handler
    have keeps :=
      documented.keeps_appendix config (.setErrorHandler xcm) fun _ => nofun
    rw [keeps.final_eq vm, Instruction.total]
    rcases documented.setErrorHandler config xcm vm with installed | kept
    · rw [installed]
      omega
    · rw [kept]
      omega
  · have keepsHandler :=
      documented.keeps_errorHandler config instruction (not_exists.mp handler)
    rw [keepsHandler.final_eq vm]
    by_cases appendix : ∃ xcm, instruction = .setAppendix xcm
    · obtain ⟨xcm, rfl⟩ := appendix
      rw [Instruction.total]
      rcases documented.setAppendix config xcm vm with installed | kept
      · rw [installed]
        omega
      · rw [kept]
        omega
    · have keepsAppendix :=
        documented.keeps_appendix config instruction (not_exists.mp appendix)
      rw [keepsAppendix.final_eq vm,
        total_of_plain (not_exists.mp handler) (not_exists.mp appendix)]

variable (config measure)

/-- A program pays for what is tried of it and for what it leaves installed. -/
private theorem process_pays (program : List (Instruction V)) (vm : lib.Vm) :
    ((Sequence.tried (lib.processInstruction config) program vm).map
          measure).sum +
        lib.installedTotal measure ((lib.process config program).final vm) ≤
      programTotal measure program + lib.installedTotal measure vm := by
  rw [programTotal_eq_sum]
  exact
    Sequence.each_costs_le (processInstruction_pays documented) program vm

/-- The next program is one of those installed, which it takes away. -/
private theorem continuation_pays
    (program : List (Instruction V)) (vm : lib.Vm) :
    programTotal measure (lib.continuation config program vm).1 +
        lib.installedTotal measure (lib.continuation config program vm).2 ≤
      lib.installedTotal measure ((lib.process config program).final vm) := by
  have empty : programTotal measure [] = 0 := by
    rw [programTotal]
  unfold XcmMachine.installedTotal
  rw [XcmMachine.continuation, Program.final]
  rcases lib.process config program vm with ⟨result, reached⟩
  cases result with
  | ok _ =>
      simp only [documented.clearAppendix_errorHandler,
        documented.clearAppendix_appendix,
        documented.clearErrorHandler_errorHandler, empty]
      omega
  | error _ =>
      cases handler : lib.errorHandler reached with
      | nil =>
          simp only [handler, documented.clearAppendix_errorHandler,
            documented.clearAppendix_appendix,
            documented.clearErrorHandler_errorHandler, empty]
          omega
      | cons first rest =>
          simp only [handler, documented.clearErrorHandler_errorHandler,
            documented.clearErrorHandler_appendix, empty]
          omega

variable {config}

/-- What is executed costs at most the total of the programs to be executed. -/
theorem runs_cost_le
    {vm : lib.Vm} {program executed : List (Instruction V)}
    (runs : lib.Runs config vm program executed) :
    (executed.map measure).sum ≤
      programTotal measure program + lib.installedTotal measure vm := by
  induction runs with
  | done vm =>
      exact Nat.zero_le _
  | @step vm program executed nonempty _ inductionHypothesis =>
      have paid := process_pays documented config measure program vm
      have handed := continuation_pays documented config measure program vm
      rw [List.map_append, List.sum_append]
      omega

omit documented in
variable (config) in
/-- Something is tried of a program that is not empty. -/
private theorem tried_length_pos
    {program : List (Instruction V)} (nonempty : program ≠ []) (vm : lib.Vm) :
    0 < (Sequence.tried (lib.processInstruction config) program vm).length := by
  cases program with
  | nil =>
      exact absurd rfl nonempty
  | cons instruction rest =>
      rw [Sequence.tried]
      split <;> simp

/-- Executing ends: with every program fewer instructions remain. -/
theorem exists_runs (program : List (Instruction V)) (vm : lib.Vm) :
    ∃ executed, lib.Runs config vm program executed := by
  induction remaining :
      instructionCount program + lib.installedTotal (fun _ => 1) vm
      using Nat.strong_induction_on generalizing program vm with
  | h count inductionHypothesis =>
      by_cases empty : program = []
      · rw [empty]
        exact ⟨[], XcmMachine.Runs.done vm⟩
      · have paid := process_pays documented config (fun _ => 1) program vm
        have handed :=
          continuation_pays documented config (fun _ => 1) program vm
        have positive := tried_length_pos config empty vm
        have ones :
            ((Sequence.tried (lib.processInstruction config) program vm).map
                fun _ => 1).sum =
              (Sequence.tried (lib.processInstruction config) program
                vm).length := by
          simp
        rw [instructionCount] at remaining
        obtain ⟨executed, runs⟩ :=
          inductionHypothesis
            (instructionCount (lib.continuation config program vm).1 +
              lib.installedTotal (fun _ => 1)
                (lib.continuation config program vm).2)
            (by rw [instructionCount]; omega) _ _ rfl
        exact ⟨_, XcmMachine.Runs.step empty runs⟩

end Cost

/-- The state of the machine decides what is executed. -/
theorem runs_unique
    {lib : XcmMachine V} {config : ExecutorConfig V} {vm : lib.Vm}
    {program first second : List (Instruction V)}
    (firstRuns : lib.Runs config vm program first)
    (secondRuns : lib.Runs config vm program second) :
    first = second := by
  induction firstRuns generalizing second with
  | done vm =>
      rw [runs_nil_iff.mp secondRuns]
  | step nonempty _ inductionHypothesis =>
      cases secondRuns with
      | done _ =>
          exact absurd rfl nonempty
      | step _ later =>
          rw [inductionHypothesis later]

/-- The barrier and the machine decide what is executed of a message. -/
theorem executed_unique
    {lib : XcmMachine V} {config : ExecutorConfig V} {origin : Location}
    {weight : Weight} {inspection : Inspection V}
    {first second : List (Instruction V)}
    (firstExecuted : lib.Executed config origin weight inspection first)
    (secondExecuted : lib.Executed config origin weight inspection second) :
    first = second := by
  cases firstExecuted with
  | refused refusal =>
      cases secondExecuted with
      | refused _ =>
          rfl
      | admitted admission _ =>
          cases refusal.symm.trans admission
  | admitted admission runs =>
      cases secondExecuted with
      | refused refusal =>
          cases refusal.symm.trans admission
      | admitted otherAdmission otherRuns =>
          cases admission.symm.trans otherAdmission
          exact runs_unique runs otherRuns

end ConfidentialWorker
