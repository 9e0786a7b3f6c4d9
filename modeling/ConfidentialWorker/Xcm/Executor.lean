import ConfidentialWorker.Library.Sequence
import ConfidentialWorker.Xcm.Barriers

/-!
# The executor

The executor asks the barrier of its configuration, and executes what the
barrier leaves of an admitted message.  The first instruction that fails ends
the program it stands in.  What comes next is the error handler after a
failure and the appendix otherwise, each of them once, and without asking the
barrier again.

The executor belongs to `xcm-executor` and is not part of the repository.  It
is the parameter `XcmExecutor`, and its machine, which executes single
instructions, the parameter `XcmMachine`.  What is documented about them is the
order of programs, and the instructions that change the origin or install a
program.  Whatever is executed was somewhere in the message, or in a program
nested in it.
-/

namespace ConfidentialWorker

/-- The parts of a configuration that decide about messages. -/
structure ExecutorConfig (V : Vocabulary) where
  barrier : ShouldExecute V
  universalLocation : Junctions
  universalAliases : Contains (Location × Junction)
  aliasers : Contains (Location × Location)

/-- The part of the executor that executes single instructions. -/
structure XcmMachine (V : Vocabulary) where
  Vm : Type
  Error : Type
  new : Location → Vm
  origin : Vm → Option Location
  errorHandler : Vm → List (Instruction V)
  appendix : Vm → List (Instruction V)
  clearErrorHandler : Vm → Vm
  clearAppendix : Vm → Vm
  processInstruction :
    ExecutorConfig V → Instruction V → Program Vm Error PUnit

/-- The executor of `xcm-executor`, with the instructions that it executes of
a message. -/
structure XcmExecutor (V : Vocabulary) extends XcmMachine V where
  Executes :
    ExecutorConfig V → Location → Weight → Inspection V →
      List (Instruction V) → Prop

variable {V : Vocabulary}

namespace XcmMachine

variable (lib : XcmMachine V) (config : ExecutorConfig V)

/-- Execute one program. -/
def process (program : List (Instruction V)) :
    Program lib.Vm lib.Error PUnit :=
  Sequence.each (lib.processInstruction config) program

/-- The program after this one, and the state it starts from. -/
def continuation (program : List (Instruction V)) (vm : lib.Vm) :
    List (Instruction V) × lib.Vm :=
  match lib.process config program vm with
  | (.ok _, reached) =>
      (lib.appendix reached, lib.clearAppendix (lib.clearErrorHandler reached))
  | (.error _, reached) =>
      match lib.errorHandler reached with
      | [] =>
          (lib.appendix reached,
            lib.clearAppendix (lib.clearErrorHandler reached))
      | handler => (handler, lib.clearErrorHandler reached)

/-- A run of a program and of those that come after it, with all instructions
that are executed. -/
inductive Runs : lib.Vm → List (Instruction V) → List (Instruction V) → Prop
  | done (vm : lib.Vm) : Runs vm [] []
  | step {vm : lib.Vm} {program executed : List (Instruction V)} :
      program ≠ [] →
      Runs (lib.continuation config program vm).2
        (lib.continuation config program vm).1 executed →
      Runs vm program
        (Sequence.tried (lib.processInstruction config) program vm ++ executed)

/-- The instructions that are executed of a message. -/
inductive Executed (origin : Location) (weight : Weight)
    (inspection : Inspection V) : List (Instruction V) → Prop
  | refused {error : ProcessMessageError} {reached : Inspection V} :
      config.barrier origin weight inspection = (.error error, reached) →
      Executed origin weight inspection []
  | admitted {reached : Inspection V} {executed : List (Instruction V)} :
      config.barrier origin weight inspection = (.ok ⟨⟩, reached) →
      Runs lib config (lib.new origin) reached.instructions executed →
      Executed origin weight inspection executed

/-- The documented behaviour of the machine. -/
structure Documented (lib : XcmMachine V) : Prop where
  new_origin : ∀ origin, lib.origin (lib.new origin) = some origin
  new_errorHandler : ∀ origin, lib.errorHandler (lib.new origin) = []
  new_appendix : ∀ origin, lib.appendix (lib.new origin) = []
  clearErrorHandler_errorHandler : ∀ vm,
    lib.errorHandler (lib.clearErrorHandler vm) = []
  clearErrorHandler_appendix : ∀ vm,
    lib.appendix (lib.clearErrorHandler vm) = lib.appendix vm
  clearAppendix_errorHandler : ∀ vm,
    lib.errorHandler (lib.clearAppendix vm) = lib.errorHandler vm
  clearAppendix_appendix : ∀ vm, lib.appendix (lib.clearAppendix vm) = []
  descendOrigin_ok : ∀ config vm origin interior entered,
    lib.origin vm = some origin →
      origin.appendWith interior = some entered →
        ∃ next,
          lib.processInstruction config (.descendOrigin interior) vm =
              (.ok ⟨⟩, next) ∧
            lib.origin next = some entered
  universalOrigin_error : ∀ config vm junction,
    (∀ origin,
      lib.origin vm = some origin →
        config.universalAliases (origin, junction) = false) →
      ∃ error next,
        lib.processInstruction config (.universalOrigin junction) vm =
          (.error error, next)
  keeps_errorHandler : ∀ config instruction,
    (∀ xcm, instruction ≠ .setErrorHandler xcm) →
      (lib.processInstruction config instruction).Preserves lib.errorHandler
  keeps_appendix : ∀ config instruction,
    (∀ xcm, instruction ≠ .setAppendix xcm) →
      (lib.processInstruction config instruction).Preserves lib.appendix
  setErrorHandler : ∀ config xcm vm,
    let reached :=
      (lib.processInstruction config (.setErrorHandler xcm)).final vm
    lib.errorHandler reached = xcm ∨
      lib.errorHandler reached = lib.errorHandler vm
  setAppendix : ∀ config xcm vm,
    let reached := (lib.processInstruction config (.setAppendix xcm)).final vm
    lib.appendix reached = xcm ∨ lib.appendix reached = lib.appendix vm

end XcmMachine

namespace XcmExecutor

/-- The documented behaviour of the executor. -/
structure Documented (lib : XcmExecutor V) : Prop where
  machine : lib.toXcmMachine.Documented
  executes_iff : ∀ config origin weight inspection executed,
    lib.Executes config origin weight inspection executed ↔
      lib.toXcmMachine.Executed config origin weight inspection executed

end XcmExecutor

/-! ## Where executed instructions come from -/

/-- Every instruction of the program is one of the whole message. -/
def PartOf (whole program : List (Instruction V)) : Prop :=
  ∀ instruction, InProgram instruction program → InProgram instruction whole

theorem partOf_refl (whole : List (Instruction V)) : PartOf whole whole :=
  fun _ within => within

theorem partOf_nil (whole : List (Instruction V)) : PartOf whole [] := by
  intro instruction within
  rcases inProgram_iff.mp within with member | ⟨xcm, member | member, _⟩
  · cases member
  · cases member
  · cases member

section Origin

variable {lib : XcmMachine V} (documented : lib.Documented)
  {config : ExecutorConfig V} {whole : List (Instruction V)}

/-- The programs that are installed come from the message. -/
def Holds (lib : XcmMachine V) (whole : List (Instruction V)) (vm : lib.Vm) :
    Prop :=
  PartOf whole (lib.errorHandler vm) ∧ PartOf whole (lib.appendix vm)

include documented

private theorem holds_processed
    {program : List (Instruction V)} (part : PartOf whole program)
    {instruction : Instruction V} (member : instruction ∈ program)
    {vm : lib.Vm} (holds : Holds lib whole vm) :
    Holds lib whole ((lib.processInstruction config instruction).final vm) := by
  constructor
  · by_cases installs : ∃ xcm, instruction = .setErrorHandler xcm
    · obtain ⟨xcm, rfl⟩ := installs
      rcases documented.setErrorHandler config xcm vm with installed | kept
      · rw [installed]
        intro other within
        exact part other (InProgram.errorHandler member within)
      · rw [kept]
        exact holds.1
    · have preserves :=
        documented.keeps_errorHandler config instruction
          (not_exists.mp installs)
      rw [preserves.final_eq vm]
      exact holds.1
  · by_cases installs : ∃ xcm, instruction = .setAppendix xcm
    · obtain ⟨xcm, rfl⟩ := installs
      rcases documented.setAppendix config xcm vm with installed | kept
      · rw [installed]
        intro other within
        exact part other (InProgram.appendix member within)
      · rw [kept]
        exact holds.2
    · have preserves :=
        documented.keeps_appendix config instruction (not_exists.mp installs)
      rw [preserves.final_eq vm]
      exact holds.2

private theorem holds_clearErrorHandler
    {vm : lib.Vm} (holds : Holds lib whole vm) :
    Holds lib whole (lib.clearErrorHandler vm) := by
  constructor
  · rw [documented.clearErrorHandler_errorHandler]
    exact partOf_nil whole
  · rw [documented.clearErrorHandler_appendix]
    exact holds.2

private theorem holds_clearAppendix
    {vm : lib.Vm} (holds : Holds lib whole vm) :
    Holds lib whole (lib.clearAppendix vm) := by
  constructor
  · rw [documented.clearAppendix_errorHandler]
    exact holds.1
  · rw [documented.clearAppendix_appendix]
    exact partOf_nil whole

private theorem holds_continuation
    {program : List (Instruction V)} (part : PartOf whole program)
    {vm : lib.Vm} (holds : Holds lib whole vm) :
    PartOf whole (lib.continuation config program vm).1 ∧
      Holds lib whole (lib.continuation config program vm).2 := by
  have reachedHolds :
      Holds lib whole ((lib.process config program).final vm) := by
    apply Sequence.each_keeps _ holds
    intro instruction member state stateHolds
    exact holds_processed documented part member stateHolds
  have cleared := holds_clearErrorHandler documented reachedHolds
  rw [XcmMachine.continuation]
  rcases ran : lib.process config program vm with ⟨result, reached⟩
  rw [Program.final, ran] at reachedHolds cleared
  cases result with
  | ok _ =>
      exact ⟨reachedHolds.2, holds_clearAppendix documented cleared⟩
  | error _ =>
      cases handler : lib.errorHandler reached with
      | nil =>
          simp only [handler]
          exact ⟨reachedHolds.2, holds_clearAppendix documented cleared⟩
      | cons first rest =>
          simp only [handler]
          have handlerPart := reachedHolds.1
          rw [handler] at handlerPart
          exact ⟨handlerPart, cleared⟩

/-- Every instruction that is executed is one of the message. -/
theorem inProgram_of_runs
    {vm : lib.Vm} {program executed : List (Instruction V)}
    (runs : lib.Runs config vm program executed)
    (part : PartOf whole program) (holds : Holds lib whole vm) :
    ∀ instruction ∈ executed, InProgram instruction whole := by
  induction runs with
  | done vm =>
      intro instruction member
      cases member
  | step nonempty _ inductionHypothesis =>
      obtain ⟨nextPart, nextHolds⟩ := holds_continuation documented part holds
      intro instruction member
      rcases List.mem_append.mp member with now | later
      · apply part instruction
        exact InProgram.listed ((Sequence.tried_prefix _ _).subset now)
      · exact inductionHypothesis nextPart nextHolds instruction later

end Origin

/-! ## Messages that fail while they change their origin -/

section Refused

variable {lib : XcmMachine V} (documented : lib.Documented)
  {config : ExecutorConfig V}

theorem runs_nil_iff {vm : lib.Vm} {executed : List (Instruction V)} :
    lib.Runs config vm [] executed ↔ executed = [] := by
  constructor
  · intro runs
    cases runs with
    | done _ =>
        rfl
    | step nonempty _ =>
        exact absurd rfl nonempty
  · intro none
    rw [none]
    exact XcmMachine.Runs.done vm

/-- A program that fails when nothing is installed is the last one. -/
theorem runs_iff_of_error
    {vm reached : lib.Vm} {program executed : List (Instruction V)}
    {error : lib.Error}
    (failed : lib.process config program vm = (.error error, reached))
    (noHandler : lib.errorHandler reached = [])
    (noAppendix : lib.appendix reached = []) :
    lib.Runs config vm program executed ↔
      executed =
        Sequence.tried (lib.processInstruction config) program vm := by
  have nonempty : program ≠ [] := by
    intro empty
    rw [empty] at failed
    cases failed
  have ends : (lib.continuation config program vm).1 = [] := by
    simp only [XcmMachine.continuation, failed, noHandler, noAppendix]
  constructor
  · intro runs
    cases runs with
    | done _ =>
        exact absurd rfl nonempty
    | step _ later =>
        rw [ends] at later
        rw [runs_nil_iff.mp later, List.append_nil]
  · intro tried
    rw [tried]
    have later :
        lib.Runs config (lib.continuation config program vm).2
          (lib.continuation config program vm).1 [] := by
      rw [ends]
      exact XcmMachine.Runs.done _
    have runs := XcmMachine.Runs.step nonempty later
    rwa [List.append_nil] at runs

include documented

variable (config) in
/-- Descending goes where the barrier computed, and installs nothing. -/
theorem process_of_descends
    {origin reached : Location} {before : List (Instruction V)}
    (descends : Descends origin before reached) {vm : lib.Vm}
    (starts : lib.origin vm = some origin) :
    ∃ next,
      lib.process config before vm = (.ok ⟨⟩, next) ∧
        lib.origin next = some reached ∧
          lib.errorHandler next = lib.errorHandler vm ∧
            lib.appendix next = lib.appendix vm := by
  induction descends generalizing vm with
  | refl origin =>
      exact ⟨vm, rfl, starts, rfl, rfl⟩
  | @step _ _ _ interior rest enters _ inductionHypothesis =>
      obtain ⟨entered, ran, entersVm⟩ :=
        documented.descendOrigin_ok config vm _ _ _ starts enters
      obtain ⟨next, finished, arrives, sameHandler, sameAppendix⟩ :=
        inductionHypothesis entersVm
      have keepsHandler :=
        (documented.keeps_errorHandler config (.descendOrigin interior)
          fun _ => nofun).of_apply_eq ran
      have keepsAppendix :=
        (documented.keeps_appendix config (.descendOrigin interior)
          fun _ => nofun).of_apply_eq ran
      refine ⟨next, ?_, arrives, ?_, ?_⟩
      · exact (Sequence.each_cons_of_ok ran rest).trans finished
      · exact sameHandler.trans keepsHandler
      · exact sameAppendix.trans keepsAppendix

/-- A claim of a junction that no alias allows ends the execution. -/
theorem runs_iff_of_claims
    {origin reached : Location} {before after : List (Instruction V)}
    {junction : Junction} (descends : Descends origin before reached)
    (refused : config.universalAliases (reached, junction) = false) :
    (∃ error failed,
      lib.process config (before ++ .universalOrigin junction :: after)
          (lib.new origin) =
        (.error error, failed)) ∧
      ∀ executed,
        lib.Runs config (lib.new origin)
            (before ++ .universalOrigin junction :: after) executed ↔
          executed = before ++ [.universalOrigin junction] := by
  obtain ⟨descended, finished, arrives, sameHandler, sameAppendix⟩ :=
    process_of_descends documented config descends
      (documented.new_origin origin)
  have claimRefused :
      ∀ found,
        lib.origin descended = some found →
          config.universalAliases (found, junction) = false := by
    intro found same
    rw [arrives] at same
    cases same
    exact refused
  obtain ⟨error, failed, stopped⟩ :=
    documented.universalOrigin_error config descended junction claimRefused
  have failedHandler : lib.errorHandler failed = [] := by
    have keeps :=
      documented.keeps_errorHandler config (.universalOrigin junction)
        fun _ => nofun
    rw [keeps.of_apply_eq stopped, sameHandler, documented.new_errorHandler]
  have failedAppendix : lib.appendix failed = [] := by
    have keeps :=
      documented.keeps_appendix config (.universalOrigin junction)
        fun _ => nofun
    rw [keeps.of_apply_eq stopped, sameAppendix, documented.new_appendix]
  obtain ⟨each_eq, tried_eq⟩ :=
    Sequence.each_append_of_ok finished (.universalOrigin junction :: after)
  have processFails :
      lib.process config (before ++ .universalOrigin junction :: after)
          (lib.new origin) =
        (.error error, failed) :=
    each_eq.trans (Sequence.each_cons_of_error stopped after)
  refine ⟨⟨error, failed, processFails⟩, ?_⟩
  intro executed
  rw [runs_iff_of_error processFails failedHandler failedAppendix, tried_eq,
    Sequence.tried_cons_of_error stopped after]

end Refused

/-! ## An executor as documented -/

inductive XcmError where
  | badOrigin
  | invalidLocation
  | locationFull

/-- A machine without assets: the instructions about them do nothing. -/
structure Machine (V : Vocabulary) where
  origin : Option Location
  errorHandler : List (Instruction V)
  appendix : List (Instruction V)

namespace XcmMachine

def reference (V : Vocabulary) : XcmMachine V where
  Vm := Machine V
  Error := XcmError
  new origin := ⟨some origin, [], []⟩
  origin := Machine.origin
  errorHandler := Machine.errorHandler
  appendix := Machine.appendix
  clearErrorHandler vm := { vm with errorHandler := [] }
  clearAppendix vm := { vm with appendix := [] }
  processInstruction config instruction vm :=
    match instruction with
    | .universalOrigin junction =>
        match vm.origin with
        | none => (.error .badOrigin, vm)
        | some origin =>
            if config.universalLocation.first ≠ some junction ∧
                config.universalAliases (origin, junction) = true
            then
              (.ok ⟨⟩,
                { vm with
                  origin :=
                    some
                      ((Junctions.single junction).relativeTo
                        config.universalLocation) })
            else
              (.error .invalidLocation, vm)
    | .descendOrigin interior =>
        match vm.origin with
        | none => (.error .badOrigin, vm)
        | some origin =>
            match origin.appendWith interior with
            | none => (.error .locationFull, vm)
            | some entered => (.ok ⟨⟩, { vm with origin := some entered })
    | .unpaidExecution _ checkOrigin =>
        if checkOrigin = none ∨ vm.origin = checkOrigin then
          (.ok ⟨⟩, vm)
        else
          (.error .badOrigin, vm)
    | .clearOrigin => (.ok ⟨⟩, { vm with origin := none })
    | .setErrorHandler xcm => (.ok ⟨⟩, { vm with errorHandler := xcm })
    | .setAppendix xcm => (.ok ⟨⟩, { vm with appendix := xcm })
    | _ => (.ok ⟨⟩, vm)

section Reference

variable (config : ExecutorConfig V) (vm : (reference V).Vm)

/-- The installed programs stay as they are. -/
def KeepsPrograms (program : Program (Machine V) XcmError PUnit)
    (vm : Machine V) : Prop :=
  (program.final vm).errorHandler = vm.errorHandler ∧
    (program.final vm).appendix = vm.appendix

private theorem reference_keeps_of_universalOrigin (junction : Junction) :
    KeepsPrograms
      ((reference V).processInstruction config (.universalOrigin junction))
      vm := by
  simp only [KeepsPrograms, Program.final, reference]
  split
  · exact ⟨rfl, rfl⟩
  · split_ifs <;> exact ⟨rfl, rfl⟩

private theorem reference_keeps_of_descendOrigin (interior : Junctions) :
    KeepsPrograms
      ((reference V).processInstruction config (.descendOrigin interior))
      vm := by
  simp only [KeepsPrograms, Program.final, reference]
  split
  · exact ⟨rfl, rfl⟩
  · split <;> exact ⟨rfl, rfl⟩

private theorem reference_keeps_of_unpaidExecution
    (weightLimit : WeightLimit) (checkOrigin : Option Location) :
    KeepsPrograms
      ((reference V).processInstruction config
        (.unpaidExecution weightLimit checkOrigin))
      vm := by
  simp only [KeepsPrograms, Program.final, reference]
  split_ifs <;> exact ⟨rfl, rfl⟩

end Reference

theorem reference_documented : (reference V).Documented where
  new_origin _ := rfl
  new_errorHandler _ := rfl
  new_appendix _ := rfl
  clearErrorHandler_errorHandler _ := rfl
  clearErrorHandler_appendix _ := rfl
  clearAppendix_errorHandler _ := rfl
  clearAppendix_appendix _ := rfl
  descendOrigin_ok := by
    intro config vm origin interior entered starts enters
    refine ⟨{ vm with origin := some entered }, ?_, rfl⟩
    have starts' : Machine.origin vm = some origin := starts
    simp only [reference, starts', enters]
  universalOrigin_error := by
    intro config vm junction refused
    cases found : Machine.origin vm with
    | none =>
        refine ⟨.badOrigin, vm, ?_⟩
        simp only [reference, found]
    | some origin =>
        have notAllowed := refused origin found
        refine ⟨.invalidLocation, vm, ?_⟩
        simp [reference, found, notAllowed]
  keeps_errorHandler := by
    intro config instruction notInstalled vm
    cases instruction with
    | setErrorHandler xcm =>
        exact absurd rfl (notInstalled xcm)
    | universalOrigin junction =>
        exact (reference_keeps_of_universalOrigin config vm junction).1
    | descendOrigin interior =>
        exact (reference_keeps_of_descendOrigin config vm interior).1
    | unpaidExecution weightLimit checkOrigin =>
        exact (reference_keeps_of_unpaidExecution config vm _ checkOrigin).1
    | _ =>
        rfl
  keeps_appendix := by
    intro config instruction notInstalled vm
    cases instruction with
    | setAppendix xcm =>
        exact absurd rfl (notInstalled xcm)
    | universalOrigin junction =>
        exact (reference_keeps_of_universalOrigin config vm junction).2
    | descendOrigin interior =>
        exact (reference_keeps_of_descendOrigin config vm interior).2
    | unpaidExecution weightLimit checkOrigin =>
        exact (reference_keeps_of_unpaidExecution config vm _ checkOrigin).2
    | _ =>
        rfl
  setErrorHandler _ _ _ := Or.inl rfl
  setAppendix _ _ _ := Or.inl rfl

end XcmMachine

namespace XcmExecutor

def reference (V : Vocabulary) : XcmExecutor V where
  toXcmMachine := XcmMachine.reference V
  Executes := (XcmMachine.reference V).Executed

theorem reference_documented : (reference V).Documented where
  machine := XcmMachine.reference_documented
  executes_iff _ _ _ _ _ := Iff.rfl

end XcmExecutor

end ConfidentialWorker
