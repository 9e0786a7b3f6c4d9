import ConfidentialWorker.Xcm.Executor
import ConfidentialWorker.Xcm.Weighing

/-!
# Whom a message acts for

The executor keeps an origin for the message it executes, and decides by it
what an instruction may do.  Four instructions change the origin:

* `ClearOrigin` gives it up;
* `DescendOrigin` enters further junctions;
* `UniversalOrigin` takes an origin that the universal aliases allow;
* `AliasOrigin` takes one that the aliasers allow.

Where the configuration allows neither, a message acts for nobody but its
sender and those within it, in whatever program.
-/

namespace ConfidentialWorker

variable {V : Vocabulary} {Call : Type}

/-- How an instruction may change the origin. -/
inductive OriginChange (config : ExecutorConfig (V.dispatching Call)) :
    Instruction (V.dispatching Call) → Option Location → Option Location → Prop
  | kept (instruction : Instruction (V.dispatching Call))
      (origin : Option Location) :
      OriginChange config instruction origin origin
  | cleared (origin : Option Location) :
      OriginChange config .clearOrigin origin none
  | descended {origin entered : Location} {interior : Junctions} :
      origin.appendWith interior = some entered →
      OriginChange config (.descendOrigin interior) (some origin) (some entered)
  | claimed {origin : Location} {junction : Junction} :
      config.universalAliases (origin, junction) = true →
      OriginChange config (.universalOrigin junction) (some origin)
        (some
          ((Junctions.single junction).relativeTo config.universalLocation))
  | aliased {origin target : Location} :
      config.aliasers (origin, target) = true →
      OriginChange config (.other (.aliasOrigin target)) (some origin)
        (some target)

namespace XcmMachine

/-- The documented handling of the origin by a machine. -/
structure TracksOrigin (lib : XcmMachine (V.dispatching Call)) : Prop where
  changes : ∀ config instruction vm,
    OriginChange config instruction (lib.origin vm)
      (lib.origin ((lib.processInstruction config instruction).final vm))
  clearErrorHandler_origin : ∀ vm,
    lib.origin (lib.clearErrorHandler vm) = lib.origin vm
  clearAppendix_origin : ∀ vm,
    lib.origin (lib.clearAppendix vm) = lib.origin vm

section Visits

variable (lib : XcmMachine V) (config : ExecutorConfig V)

/-- A run, with the machine that every instruction is executed on, and the one
that it ends with. -/
inductive Visits :
    lib.Vm → List (Instruction V) → List (Instruction V × lib.Vm) →
      lib.Vm → Prop
  | done (vm : lib.Vm) : Visits vm [] [] vm
  | step {vm last : lib.Vm} {program : List (Instruction V)}
      {visits : List (Instruction V × lib.Vm)} :
      program ≠ [] →
      Visits (lib.continuation config program vm).2
        (lib.continuation config program vm).1 visits last →
      Visits vm program
        (Sequence.visited (lib.processInstruction config) program vm ++ visits)
        last

/-- The instructions that are executed of a message, on their machines, and
the machine at the end. -/
inductive Acts (origin : Location) (weight : Weight)
    (inspection : Inspection V) :
    List (Instruction V × lib.Vm) → lib.Vm → Prop
  | refused {error : ProcessMessageError} {reached : Inspection V} :
      config.barrier origin weight inspection = (.error error, reached) →
      Acts origin weight inspection [] (lib.new origin)
  | admitted {reached : Inspection V}
      {visits : List (Instruction V × lib.Vm)} {last : lib.Vm} :
      config.barrier origin weight inspection = (.ok ⟨⟩, reached) →
      Visits lib config (lib.new origin) reached.instructions visits last →
      Acts origin weight inspection visits last

end Visits

end XcmMachine

/-! ## Runs with their machines -/

section Visits

variable {lib : XcmMachine V} {config : ExecutorConfig V}

theorem runs_iff_visits {vm : lib.Vm} {program executed : List (Instruction V)} :
    lib.Runs config vm program executed ↔
      ∃ visits last,
        lib.Visits config vm program visits last ∧
          visits.map Prod.fst = executed := by
  constructor
  · intro runs
    induction runs with
    | done vm =>
        exact ⟨[], vm, XcmMachine.Visits.done vm, rfl⟩
    | step nonempty _ inductionHypothesis =>
        obtain ⟨visits, last, visited, same⟩ := inductionHypothesis
        refine ⟨_, last, XcmMachine.Visits.step nonempty visited, ?_⟩
        rw [List.map_append, Sequence.visited_fst, same]
  · intro visited
    obtain ⟨visits, last, visited, same⟩ := visited
    induction visited generalizing executed with
    | done vm =>
        cases same
        exact XcmMachine.Runs.done vm
    | step nonempty _ inductionHypothesis =>
        rw [List.map_append, Sequence.visited_fst] at same
        rw [← same]
        exact XcmMachine.Runs.step nonempty (inductionHypothesis rfl)

theorem executed_iff_acts
    {origin : Location} {weight : Weight} {inspection : Inspection V}
    {executed : List (Instruction V)} :
    lib.Executed config origin weight inspection executed ↔
      ∃ visits last,
        lib.Acts config origin weight inspection visits last ∧
          visits.map Prod.fst = executed := by
  constructor
  · intro execution
    cases execution with
    | refused refusal =>
        exact ⟨[], _, XcmMachine.Acts.refused refusal, rfl⟩
    | admitted admission runs =>
        obtain ⟨visits, last, visited, same⟩ := runs_iff_visits.mp runs
        exact ⟨visits, last, XcmMachine.Acts.admitted admission visited, same⟩
  · intro acts
    obtain ⟨visits, last, acts, same⟩ := acts
    cases acts with
    | refused refusal =>
        cases same
        exact XcmMachine.Executed.refused refusal
    | admitted admission visited =>
        exact
          XcmMachine.Executed.admitted admission
            (runs_iff_visits.mpr ⟨visits, last, visited, same⟩)

end Visits

/-! ## Staying within the sender -/

/-- The machine acts for nobody, or for somebody within the sender. -/
def OriginWithin (lib : XcmMachine V) (sender : Location) (vm : lib.Vm) :
    Prop :=
  ∀ location, lib.origin vm = some location → location.IsWithin sender

section Within

variable {lib : XcmMachine (V.dispatching Call)}
  (tracks : lib.TracksOrigin) {config : ExecutorConfig (V.dispatching Call)}
  (noAliases : config.universalAliases = nothing)
  (noAliasers : config.aliasers = nothing) {sender : Location}
include tracks noAliases noAliasers

private theorem originWithin_processed
    (instruction : Instruction (V.dispatching Call)) (vm : lib.Vm)
    (within : OriginWithin lib sender vm) :
    OriginWithin lib sender
      ((lib.processInstruction config instruction).final vm) := by
  have change := tracks.changes config instruction vm
  intro location acting
  rw [acting] at change
  generalize origin_eq : lib.origin vm = origin at change
  cases change with
  | kept _ _ =>
      exact within location origin_eq
  | descended entered =>
      exact
        Location.isWithin_trans (Location.appendWith_isWithin entered)
          (within _ origin_eq)
  | claimed allowed =>
      rw [noAliases] at allowed
      cases allowed
  | aliased allowed =>
      rw [noAliasers] at allowed
      cases allowed

private theorem originWithin_continuation
    (program : List (Instruction (V.dispatching Call))) {vm : lib.Vm}
    (within : OriginWithin lib sender vm) :
    OriginWithin lib sender (lib.continuation config program vm).2 := by
  have reachedWithin :
      OriginWithin lib sender ((lib.process config program).final vm) := by
    apply Sequence.each_keeps _ within
    intro instruction _ state
    exact originWithin_processed tracks noAliases noAliasers instruction state
  have cleared (reached : lib.Vm) (isWithin : OriginWithin lib sender reached) :
      OriginWithin lib sender (lib.clearErrorHandler reached) := by
    intro location acting
    rw [tracks.clearErrorHandler_origin] at acting
    exact isWithin location acting
  have bothCleared (reached : lib.Vm)
      (isWithin : OriginWithin lib sender reached) :
      OriginWithin lib sender
        (lib.clearAppendix (lib.clearErrorHandler reached)) := by
    intro location acting
    rw [tracks.clearAppendix_origin] at acting
    exact cleared reached isWithin location acting
  rw [XcmMachine.continuation]
  rw [Program.final] at reachedWithin
  rcases ran : lib.process config program vm with ⟨result, reached⟩
  rw [ran] at reachedWithin
  cases result with
  | ok _ =>
      exact bothCleared reached reachedWithin
  | error _ =>
      cases handler : lib.errorHandler reached with
      | nil =>
          simp only [handler]
          exact bothCleared reached reachedWithin
      | cons first rest =>
          simp only [handler]
          exact cleared reached reachedWithin

private theorem originWithin_of_visits
    {vm : lib.Vm} {program : List (Instruction (V.dispatching Call))}
    {visits : List (Instruction (V.dispatching Call) × lib.Vm)} {last : lib.Vm}
    (visited : lib.Visits config vm program visits last)
    (within : OriginWithin lib sender vm) :
    ∀ visit ∈ visits, OriginWithin lib sender visit.2 := by
  induction visited with
  | done vm =>
      intro visit member
      cases member
  | step nonempty _ inductionHypothesis =>
      intro visit member
      rcases List.mem_append.mp member with now | later
      · exact
          Sequence.visited_holds
            (originWithin_processed tracks noAliases noAliasers) _ within visit
            now
      · exact
          inductionHypothesis
            (originWithin_continuation tracks noAliases noAliasers _ within)
            visit later

/-- Whatever is executed of a message, the executor acts for nobody outside
its sender. -/
theorem originWithin_of_acts
    (starts : ∀ origin, lib.origin (lib.new origin) = some origin)
    {weight : Weight} {inspection : Inspection (V.dispatching Call)}
    {visits : List (Instruction (V.dispatching Call) × lib.Vm)} {last : lib.Vm}
    (acts : lib.Acts config sender weight inspection visits last) :
    ∀ visit ∈ visits, OriginWithin lib sender visit.2 := by
  cases acts with
  | refused _ =>
      intro visit member
      cases member
  | admitted _ visited =>
      apply originWithin_of_visits tracks noAliases noAliasers visited
      intro location acting
      rw [starts] at acting
      cases acting
      exact Location.isWithin_refl _

end Within

/-- The machine without assets never takes an alias. -/
theorem reference_tracksOrigin :
    (XcmMachine.reference (V.dispatching Call)).TracksOrigin where
  changes := by
    intro config instruction vm
    cases instruction with
    | clearOrigin =>
        exact OriginChange.cleared _
    | descendOrigin interior =>
        simp only [XcmMachine.reference, Program.final]
        split
        · exact OriginChange.kept _ _
        · rename_i origin acting
          split
          · exact OriginChange.kept _ _
          · rename_i entered enters
            rw [acting]
            exact OriginChange.descended enters
    | universalOrigin junction =>
        simp only [XcmMachine.reference, Program.final]
        split
        · exact OriginChange.kept _ _
        · rename_i origin acting
          split_ifs with allowed
          · rw [acting]
            exact OriginChange.claimed allowed.2
          · exact OriginChange.kept _ _
    | unpaidExecution weightLimit checkOrigin =>
        simp only [XcmMachine.reference, Program.final]
        split_ifs <;> exact OriginChange.kept _ _
    | _ =>
        exact OriginChange.kept _ _
  clearErrorHandler_origin _ := rfl
  clearAppendix_origin _ := rfl

end ConfidentialWorker
