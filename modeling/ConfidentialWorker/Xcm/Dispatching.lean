import ConfidentialWorker.Library.History
import ConfidentialWorker.Xcm.Conversions

/-!
# Dispatching the calls of a message

A `Transact` carries an encoded call.  The executor dispatches it when it acts
for a location, the call decodes and passes the filter, the location converts
to an origin of the kind asked for, and the call weighs at most what the
instruction allows for.  Otherwise the instruction fails.  A call that is
dispatched and fails does not make the instruction fail.

Calls are dispatched on a state that all messages share.  The other
instructions may change it too, but not all of it: `kept` is what only calls
change.
-/

namespace ConfidentialWorker

variable {V : Vocabulary} {Encoded Call State : Type}

/-- Why a `Transact` fails. -/
inductive TransactError where
  | badOrigin
  | failedToDecode
  | noPermission
  | maxWeightInvalid
  deriving DecidableEq

/-- The parts of a configuration that decide about calls. -/
structure CallConfig (Encoded Call State : Type) where
  decode : Encoded → Option Call
  safeCallFilter : Contains Call
  originConverter : ConvertOrigin
  weight : Call → Weight
  dispatch : RuntimeOrigin → Call → State → State

/-- What is dispatched: a call, and the origin it is dispatched with. -/
structure Dispatch (Call : Type) where
  origin : RuntimeOrigin
  call : Call
  deriving DecidableEq

/-- The parts of a `Transact`. -/
structure Transact (Encoded : Type) where
  originKind : OriginKind
  requireWeightAtMost : Weight
  call : Encoded

def Instruction.transact? :
    Instruction (V.dispatching Encoded) → Option (Transact Encoded)
  | .other (.transact originKind requireWeightAtMost call) =>
      some ⟨originKind, requireWeightAtMost, call⟩
  | _ => none

theorem Instruction.transact?_eq_some_iff
    {instruction : Instruction (V.dispatching Encoded)}
    {transact : Transact Encoded} :
    instruction.transact? = some transact ↔
      instruction =
        .other
          (.transact transact.originKind transact.requireWeightAtMost
            transact.call) := by
  constructor
  · intro found
    unfold Instruction.transact? at found
    split at found
    · cases found
      rfl
    · cases found
  · intro same
    rw [same]
    rfl

/-! ## Checks -/

section Checks

variable {ε α β : Type}

/-- `Option::ok_or`. -/
def okOr (error : ε) : Option α → Except ε α
  | none => .error error
  | some value => .ok value

/-- `ensure!`. -/
def ensure (condition : Bool) (error : ε) : Except ε PUnit :=
  if condition then .ok ⟨⟩ else .error error

theorem okOr_bind_eq_ok_iff
    {error : ε} {found : Option α} {next : α → Except ε β} {result : β} :
    okOr error found >>= next = .ok result ↔
      ∃ value, found = some value ∧ next value = .ok result := by
  cases found with
  | none =>
      refine iff_of_false ?_ ?_
      · intro impossible
        cases impossible
      · intro impossible
        obtain ⟨_, impossible, _⟩ := impossible
        cases impossible
  | some value =>
      constructor
      · intro finished
        exact ⟨value, rfl, finished⟩
      · intro finished
        obtain ⟨_, same, finished⟩ := finished
        cases same
        exact finished

theorem ensure_bind_eq_ok_iff
    {condition : Bool} {error : ε} {next : PUnit → Except ε β} {result : β} :
    ensure condition error >>= next = .ok result ↔
      condition = true ∧ next ⟨⟩ = .ok result := by
  cases condition with
  | true =>
      exact (and_iff_right rfl).symm
  | false =>
      refine iff_of_false ?_ ?_
      · intro impossible
        cases impossible
      · intro impossible
        cases impossible.1

end Checks

namespace CallConfig

variable (calls : CallConfig Encoded Call State)

/-- The dispatch that a `Transact` comes to at an origin. -/
def transact (origin : Option Location) (transact : Transact Encoded) :
    Except TransactError (Dispatch Call) := do
  let location ← okOr .badOrigin origin
  let call ← okOr .failedToDecode (calls.decode transact.call)
  ensure (calls.safeCallFilter call) .noPermission
  let dispatchOrigin ←
    okOr .badOrigin (calls.originConverter location transact.originKind)
  ensure (transact.requireWeightAtMost.allGte (calls.weight call))
    .maxWeightInvalid
  return ⟨dispatchOrigin, call⟩

theorem transact_eq_ok_iff
    {origin : Option Location} {transact : Transact Encoded}
    {dispatch : Dispatch Call} :
    calls.transact origin transact = .ok dispatch ↔
      ∃ location,
        origin = some location ∧
          calls.decode transact.call = some dispatch.call ∧
            calls.safeCallFilter dispatch.call = true ∧
              calls.originConverter location transact.originKind =
                  some dispatch.origin ∧
                transact.requireWeightAtMost.allGte
                    (calls.weight dispatch.call) =
                  true := by
  unfold CallConfig.transact
  simp only [okOr_bind_eq_ok_iff, ensure_bind_eq_ok_iff]
  constructor
  · intro dispatched
    obtain
      ⟨location, acting, call, decoded, safe, origin, converted, allowed,
        same⟩ :=
      dispatched
    cases same
    exact ⟨location, acting, decoded, safe, converted, allowed⟩
  · intro conditions
    obtain ⟨location, acting, decoded, safe, converted, allowed⟩ := conditions
    exact
      ⟨location, acting, dispatch.call, decoded, safe, dispatch.origin,
        converted, allowed, rfl⟩

/-- Dispatch a call on the state. -/
def apply (state : State) (dispatch : Dispatch Call) : State :=
  calls.dispatch dispatch.origin dispatch.call state

end CallConfig

namespace XcmMachine

/-- The part of a machine that calls are dispatched on, and its errors. -/
structure CallView (lib : XcmMachine (V.dispatching Encoded)) (State : Type)
    where
  state : lib.Vm → State
  error : TransactError → lib.Error

variable {lib : XcmMachine (V.dispatching Encoded)}

namespace CallView

variable (view : lib.CallView State)

/-- The documented handling of calls by a machine. -/
structure Dispatches (calls : CallConfig Encoded Call State) {κ : Type}
    (kept : State → κ) : Prop where
  transact_ok : ∀ config instruction transact vm dispatch,
    instruction.transact? = some transact →
      calls.transact (lib.origin vm) transact = .ok dispatch →
        ∃ next,
          lib.processInstruction config instruction vm = (.ok ⟨⟩, next) ∧
            view.state next = calls.apply (view.state vm) dispatch
  transact_error : ∀ config instruction transact vm error,
    instruction.transact? = some transact →
      calls.transact (lib.origin vm) transact = .error error →
        ∃ next,
          lib.processInstruction config instruction vm =
              (.error (view.error error), next) ∧
            view.state next = view.state vm
  others_keep : ∀ config instruction vm,
    instruction.transact? = none →
      kept
          (view.state
            ((lib.processInstruction config instruction).final vm)) =
        kept (view.state vm)
  clearErrorHandler_state : ∀ vm,
    view.state (lib.clearErrorHandler vm) = view.state vm
  clearAppendix_state : ∀ vm,
    view.state (lib.clearAppendix vm) = view.state vm

end CallView

/-- What is dispatched when an instruction is executed on a machine. -/
def dispatched (lib : XcmMachine (V.dispatching Encoded))
    (calls : CallConfig Encoded Call State)
    (visit : Instruction (V.dispatching Encoded) × lib.Vm) :
    Option (Dispatch Call) :=
  visit.1.transact?.bind fun transact =>
    (calls.transact (lib.origin visit.2) transact).toOption

/-- What is dispatched of a message. -/
def dispatches (lib : XcmMachine (V.dispatching Encoded))
    (calls : CallConfig Encoded Call State)
    (visits : List (Instruction (V.dispatching Encoded) × lib.Vm)) :
    List (Dispatch Call) :=
  visits.filterMap (lib.dispatched calls)

theorem dispatched_eq_some_iff
    {calls : CallConfig Encoded Call State}
    {visit : Instruction (V.dispatching Encoded) × lib.Vm}
    {dispatch : Dispatch Call} :
    lib.dispatched calls visit = some dispatch ↔
      ∃ transact,
        visit.1.transact? = some transact ∧
          calls.transact (lib.origin visit.2) transact = .ok dispatch := by
  rw [dispatched, Option.bind_eq_some_iff]
  constructor
  · intro found
    obtain ⟨transact, isTransact, found⟩ := found
    refine ⟨transact, isTransact, ?_⟩
    cases result : calls.transact (lib.origin visit.2) transact with
    | error error =>
        rw [result] at found
        cases found
    | ok other =>
        rw [result] at found
        cases found
        rfl
  · intro found
    obtain ⟨transact, isTransact, result⟩ := found
    refine ⟨transact, isTransact, ?_⟩
    rw [result]
    rfl

/-! ## Runs -/

section Runs

variable {view : lib.CallView State} {calls : CallConfig Encoded Call State}
  {κ : Type} {kept : State → κ} (handles : view.Dispatches calls kept)
  {config : ExecutorConfig (V.dispatching Encoded)}
include handles

/-- One instruction changes the state by what it dispatches. -/
private theorem passes_of_instruction
    (instruction : Instruction (V.dispatching Encoded)) (vm : lib.Vm) :
    History.Passes calls.apply kept (view.state vm)
      (lib.dispatched calls (instruction, vm)).toList
      (view.state ((lib.processInstruction config instruction).final vm)) := by
  cases isTransact : instruction.transact? with
  | none =>
      have nothingDispatched :
          lib.dispatched calls (instruction, vm) = none := by
        rw [dispatched, isTransact]
        rfl
      rw [nothingDispatched]
      exact .of_kept (handles.others_keep config instruction vm isTransact)
  | some transact =>
      cases result : calls.transact (lib.origin vm) transact with
      | error error =>
          obtain ⟨next, ran, same⟩ :=
            handles.transact_error config _ _ vm _ isTransact result
          have nothingDispatched :
              lib.dispatched calls (instruction, vm) = none := by
            rw [dispatched, isTransact, Option.bind_some, result]
            rfl
          rw [nothingDispatched, Program.final, ran]
          exact .of_kept (congrArg kept same)
      | ok dispatch =>
          obtain ⟨next, ran, applied⟩ :=
            handles.transact_ok config _ _ vm _ isTransact result
          have one :
              lib.dispatched calls (instruction, vm) = some dispatch :=
            dispatched_eq_some_iff.mpr ⟨transact, isTransact, result⟩
          rw [one, Program.final, ran, applied]
          exact .single _ dispatch

private theorem continuation_state
    (program : List (Instruction (V.dispatching Encoded))) (vm : lib.Vm) :
    view.state (lib.continuation config program vm).2 =
      view.state ((lib.process config program).final vm) := by
  rw [continuation, Program.final]
  rcases lib.process config program vm with ⟨result, reached⟩
  cases result with
  | ok _ =>
      simp only [handles.clearAppendix_state, handles.clearErrorHandler_state]
  | error _ =>
      cases handler : lib.errorHandler reached with
      | nil =>
          simp only [handler, handles.clearAppendix_state,
            handles.clearErrorHandler_state]
      | cons first rest =>
          simp only [handler, handles.clearErrorHandler_state]

private theorem passes_of_visits
    {vm last : lib.Vm} {program : List (Instruction (V.dispatching Encoded))}
    {visits : List (Instruction (V.dispatching Encoded) × lib.Vm)}
    (visited : lib.Visits config vm program visits last) :
    History.Passes calls.apply kept (view.state vm)
      (lib.dispatches calls visits) (view.state last) := by
  induction visited with
  | done vm =>
      exact .done _
  | @step vm last program visits nonempty _ inductionHypothesis =>
      have now :
          History.Passes calls.apply kept (view.state vm)
            ((Sequence.visited (lib.processInstruction config) program
              vm).filterMap (lib.dispatched calls))
            (view.state ((lib.process config program).final vm)) :=
        @Sequence.each_related _ _ _ (lib.processInstruction config) _
          (lib.dispatched calls)
          (fun before dispatches after =>
            History.Passes calls.apply kept (view.state before) dispatches
              (view.state after))
          (fun _ => .done _) (fun first second => first.trans second)
          (passes_of_instruction handles) program vm
      rw [continuation_state handles] at inductionHypothesis
      rw [dispatches, List.filterMap_append]
      exact now.trans inductionHypothesis

/-- The state after a message is reached by what was dispatched of it. -/
theorem passes_of_acts
    {origin : Location} {weight : Weight}
    {inspection : Inspection (V.dispatching Encoded)}
    {visits : List (Instruction (V.dispatching Encoded) × lib.Vm)}
    {last : lib.Vm}
    (acts : lib.Acts config origin weight inspection visits last) :
    History.Passes calls.apply kept (view.state (lib.new origin))
      (lib.dispatches calls visits) (view.state last) := by
  cases acts with
  | refused _ =>
      exact .done _
  | admitted _ visited =>
      exact passes_of_visits handles visited

end Runs

/-! ## A machine with a state -/

section OnState

variable (lib : XcmMachine (V.dispatching Encoded))
  (calls : CallConfig Encoded Call State) (start : State)

/-- A machine next to a state, which only calls change. -/
def onState : XcmMachine (V.dispatching Encoded) where
  Vm := lib.Vm × State
  Error := TransactError ⊕ lib.Error
  new origin := (lib.new origin, start)
  origin vm := lib.origin vm.1
  errorHandler vm := lib.errorHandler vm.1
  appendix vm := lib.appendix vm.1
  clearErrorHandler vm := (lib.clearErrorHandler vm.1, vm.2)
  clearAppendix vm := (lib.clearAppendix vm.1, vm.2)
  processInstruction config instruction vm :=
    match instruction.transact? with
    | some transact =>
        match calls.transact (lib.origin vm.1) transact with
        | .ok dispatch => (.ok ⟨⟩, (vm.1, calls.apply vm.2 dispatch))
        | .error error => (.error (.inl error), vm)
    | none =>
        match lib.processInstruction config instruction vm.1 with
        | (.ok _, next) => (.ok ⟨⟩, (next, vm.2))
        | (.error error, next) => (.error (.inr error), (next, vm.2))

def onStateView : (lib.onState calls start).CallView State where
  state := Prod.snd
  error := .inl

variable {lib calls start}

/-- A `Transact` leaves the machine alone. -/
private theorem onState_of_transact
    (config : ExecutorConfig (V.dispatching Encoded))
    {instruction : Instruction (V.dispatching Encoded)}
    {transact : Transact Encoded}
    (isTransact : instruction.transact? = some transact)
    (vm : lib.Vm × State) :
    (((lib.onState calls start).processInstruction config instruction).final
        vm).1 =
      vm.1 := by
  simp only [Program.final, onState, isTransact]
  split <;> rfl

/-- The other instructions leave the state alone. -/
private theorem onState_of_other
    (config : ExecutorConfig (V.dispatching Encoded))
    {instruction : Instruction (V.dispatching Encoded)}
    (notTransact : instruction.transact? = none) (vm : lib.Vm × State) :
    ((lib.onState calls start).processInstruction config instruction).final
        vm =
      ((lib.processInstruction config instruction).final vm.1, vm.2) := by
  simp only [Program.final, onState, notTransact]
  rcases lib.processInstruction config instruction vm.1 with ⟨result, next⟩
  cases result <;> rfl

theorem onState_documented (documented : lib.Documented) :
    (lib.onState calls start).Documented where
  new_origin := documented.new_origin
  new_errorHandler := documented.new_errorHandler
  new_appendix := documented.new_appendix
  clearErrorHandler_errorHandler vm :=
    documented.clearErrorHandler_errorHandler vm.1
  clearErrorHandler_appendix vm := documented.clearErrorHandler_appendix vm.1
  clearAppendix_errorHandler vm := documented.clearAppendix_errorHandler vm.1
  clearAppendix_appendix vm := documented.clearAppendix_appendix vm.1
  descendOrigin_ok := by
    intro config vm origin interior entered starts enters
    obtain ⟨next, ran, arrives⟩ :=
      documented.descendOrigin_ok config vm.1 origin interior entered starts
        enters
    refine ⟨(next, vm.2), ?_, arrives⟩
    simp only [onState, Instruction.transact?, ran]
  universalOrigin_error := by
    intro config vm junction refused
    obtain ⟨error, next, ran⟩ :=
      documented.universalOrigin_error config vm.1 junction refused
    refine ⟨.inr error, (next, vm.2), ?_⟩
    simp only [onState, Instruction.transact?, ran]
  keeps_errorHandler := by
    intro config instruction notInstalled vm
    change lib.errorHandler _ = lib.errorHandler vm.1
    cases isTransact : instruction.transact? with
    | some transact =>
        exact
          congrArg lib.errorHandler (onState_of_transact config isTransact vm)
    | none =>
        rw [onState_of_other config isTransact vm]
        exact
          (documented.keeps_errorHandler config instruction notInstalled).final_eq
            vm.1
  keeps_appendix := by
    intro config instruction notInstalled vm
    change lib.appendix _ = lib.appendix vm.1
    cases isTransact : instruction.transact? with
    | some transact =>
        exact congrArg lib.appendix (onState_of_transact config isTransact vm)
    | none =>
        rw [onState_of_other config isTransact vm]
        exact
          (documented.keeps_appendix config instruction notInstalled).final_eq
            vm.1
  setErrorHandler := by
    intro config xcm vm
    change lib.errorHandler _ = xcm ∨ lib.errorHandler _ = lib.errorHandler vm.1
    rw [onState_of_other config rfl vm]
    exact documented.setErrorHandler config xcm vm.1
  setAppendix := by
    intro config xcm vm
    change lib.appendix _ = xcm ∨ lib.appendix _ = lib.appendix vm.1
    rw [onState_of_other config rfl vm]
    exact documented.setAppendix config xcm vm.1

theorem onState_tracksOrigin (tracks : lib.TracksOrigin) :
    (lib.onState calls start).TracksOrigin where
  changes := by
    intro config instruction vm
    change OriginChange config instruction (lib.origin vm.1) (lib.origin _)
    cases isTransact : instruction.transact? with
    | some transact =>
        rw [onState_of_transact config isTransact vm]
        exact OriginChange.kept _ _
    | none =>
        rw [onState_of_other config isTransact vm]
        exact tracks.changes config instruction vm.1
  clearErrorHandler_origin vm := tracks.clearErrorHandler_origin vm.1
  clearAppendix_origin vm := tracks.clearAppendix_origin vm.1

theorem onState_dispatches {κ : Type} (kept : State → κ) :
    (lib.onStateView calls start).Dispatches calls kept where
  transact_ok := by
    intro config instruction transact vm dispatch isTransact result
    have decided : calls.transact (lib.origin vm.1) transact = .ok dispatch :=
      result
    refine ⟨(vm.1, calls.apply vm.2 dispatch), ?_, rfl⟩
    simp only [onState, isTransact, decided]
  transact_error := by
    intro config instruction transact vm error isTransact result
    have decided : calls.transact (lib.origin vm.1) transact = .error error :=
      result
    refine ⟨vm, ?_, rfl⟩
    simp only [onState, isTransact, decided, onStateView]
  others_keep := by
    intro config instruction vm notTransact
    rw [onState_of_other config notTransact vm]
    rfl
  clearErrorHandler_state _ := rfl
  clearAppendix_state _ := rfl

end OnState

end XcmMachine

namespace XcmExecutor

/-- The executor of a machine. -/
def ofMachine (lib : XcmMachine V) : XcmExecutor V where
  toXcmMachine := lib
  Executes := lib.Executed

theorem ofMachine_documented
    {lib : XcmMachine V} (documented : lib.Documented) :
    (ofMachine lib).Documented where
  machine := documented
  executes_iff _ _ _ _ _ := Iff.rfl

end XcmExecutor

end ConfidentialWorker
