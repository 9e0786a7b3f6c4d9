import ConfidentialWorker.Node.Startup

/-!
# The order of a startup

Every part of a startup follows its plan, so the whole does.  What is running
when a startup ends, well or not, is an initial part of the plan: of the
network, the relay chain tasks and the authoring, none is started for another
para id, and the network is opened by nothing but the last step.
-/

namespace ConfidentialWorker.Node

open Program

variable (around : Surroundings) (settings : Settings)

/-! ## Plans -/

def newPartialPlan : List StartupEvent :=
  (if settings.telemetry.isSome then [.telemetry] else []) ++
    [.transactionPool settings.isAuthority, .importQueue]

def offchainWorkersPlan : List StartupEvent :=
  (startParachainNode settings.toConfiguration).toList.map
    .offchainWorkersRunner

def hwbenchPlan : Option HwBench → List StartupEvent
  | some hwbench =>
      (if settings.isAuthority && !hwbench.sufficient then
          [.hardwareWarning]
        else []) ++
        if settings.telemetry.isSome then [.telemetryHwbench] else []
  | none => []

def servicesPlan
    (chainId : String) (paraId : UInt32) (hwbench : Option HwBench) :
    List StartupEvent :=
  newPartialPlan settings ++
    .relayChainInterface chainId :: .network paraId ::
      (offchainWorkersPlan settings ++
        .tasks ::
          (hwbenchPlan settings hwbench ++
            [.relayChainTasks paraId (recoveryProfile settings)]))

def authoringPlan (paraId : UInt32) : List StartupEvent :=
  if settings.isAuthority then [.aura paraId] else []

def nodePlan
    (chainId : String) (paraId : UInt32) (hwbench : Option HwBench) :
    List StartupEvent :=
  servicesPlan settings chainId paraId hwbench ++
    (authoringPlan settings paraId ++ [.networking])

def benchmarksPlan : List StartupEvent :=
  if settings.databasePath.isSome then [.hardwareBenchmarks] else []

/-- The benchmarks that the services are told of. -/
def keptHwbench : Option HwBench :=
  if settings.noHardwareBenchmarks then none
  else settings.databasePath.map fun _ => around.hwbench

/-! ## Following them -/

private theorem follows_answered
    {plan : List StartupEvent} {α β : Type} {wrap : String → StartupError}
    {answer : Except String α} {next : α → Startup β}
    (nextFollows : ∀ value, Follows plan (next value)) :
    Follows plan (answered wrap answer >>= next) :=
  follows_of_silent (follows_require _) nextFollows

private theorem startTelemetry_follows :
    Follows [] (startTelemetry around settings) := by
  unfold startTelemetry
  cases settings.telemetry with
  | some endpoints => exact follows_require _
  | none => exact follows_pure PUnit.unit

private theorem newPartial_follows :
    Follows (newPartialPlan settings) (newPartial around settings) := by
  refine follows_of_silent (startTelemetry_follows around settings) fun _ => ?_
  refine follows_answered fun _ => ?_
  refine follows_bind (follows_noteIf _ _) fun _ => ?_
  exact follows_of_note fun _ => follows_note _

private theorem spawnOffchainWorkers_follows :
    Follows (offchainWorkersPlan settings) (spawnOffchainWorkers settings) := by
  unfold spawnOffchainWorkers offchainWorkersPlan
  cases startParachainNode settings.toConfiguration with
  | some options => exact follows_note _
  | none => exact follows_pure PUnit.unit

private theorem reportHwbench_follows (hwbench : Option HwBench) :
    Follows (hwbenchPlan settings hwbench)
      (reportHwbench settings hwbench) := by
  cases hwbench with
  | some hwbench =>
      exact follows_bind (follows_noteIf _ _) fun _ => follows_noteIf _ _
  | none => exact follows_pure PUnit.unit

private theorem startAuthoring_follows
    (paraId : UInt32) (collatorKey : Option CollatorPair) :
    Follows (authoringPlan settings paraId)
      (startAuthoring settings paraId collatorKey) := by
  unfold startAuthoring authoringPlan
  cases settings.isAuthority with
  | true =>
      cases collatorKey with
      | some key => exact follows_note _
      | none => exact follows_stop _ _
  | false => exact follows_pure PUnit.unit

section Services

variable (chainId : String) (paraId : UInt32) (hwbench : Option HwBench)

private theorem startServices_follows :
    Follows (servicesPlan settings chainId paraId hwbench)
      (startServices around settings chainId paraId hwbench) := by
  refine follows_bind (newPartial_follows around settings) fun _ => ?_
  refine follows_answered fun collatorKey => ?_
  refine follows_of_note fun _ => ?_
  refine follows_answered fun _ => ?_
  refine follows_of_note fun _ => ?_
  refine follows_bind (spawnOffchainWorkers_follows settings) fun _ => ?_
  refine follows_answered fun _ => ?_
  refine follows_of_note fun _ => ?_
  refine follows_bind (reportHwbench_follows settings hwbench) fun _ => ?_
  refine follows_answered fun _ => ?_
  refine follows_answered fun _ => ?_
  exact follows_of_note fun _ => follows_pure collatorKey

private theorem startParachainNodeServices_follows :
    Follows (nodePlan settings chainId paraId hwbench)
      (startParachainNodeServices around settings chainId paraId hwbench) := by
  refine
    follows_bind
      (startServices_follows around settings chainId paraId hwbench) ?_
  intro collatorKey
  exact
    follows_bind (startAuthoring_follows settings paraId collatorKey)
      fun _ => follows_note _

/-! ## The last entry -/

private theorem networking_not_mem_servicesPlan :
    .networking ∉ servicesPlan settings chainId paraId hwbench := by
  cases hwbench with
  | some hwbench =>
      simp [servicesPlan, newPartialPlan, offchainWorkersPlan, hwbenchPlan]
  | none =>
      simp [servicesPlan, newPartialPlan, offchainWorkersPlan, hwbenchPlan]

private theorem startParachainNodeServices_closes :
    Closes .networking
      (startParachainNodeServices around settings chainId paraId hwbench) := by
  refine
    closes_bind
      (startServices_follows around settings chainId paraId hwbench)
      (networking_not_mem_servicesPlan settings chainId paraId hwbench) ?_
  intro collatorKey
  refine
    closes_bind (startAuthoring_follows settings paraId collatorKey) ?_
      fun _ => closes_note _
  simp [authoringPlan]

end Services

/-! ## The panic -/

/-- A startup is given up by a refusal. -/
def Refusal (reason : StartupError) : Prop :=
  ∀ message, reason ≠ .panicked message

private theorem ends_answered
    {α : Type} {wrap : String → StartupError}
    (refuses : ∀ message, Refusal (wrap message))
    (answer : Except String α) :
    Ends (fun value => answer = .ok value) Refusal (answered wrap answer) := by
  cases answer with
  | ok value => exact ends_pure rfl
  | error message =>
      constructor
      · intro log value finished
        cases finished
      · intro log reason stopped
        cases stopped
        exact refuses message

private theorem refusal_service (message : String) :
    Refusal (.service message) := by
  intro panic same
  cases same

private theorem refusal_application (message : String) :
    Refusal (.application message) := by
  intro panic same
  cases same

private theorem startTelemetry_ends :
    Ends (fun _ => True) Refusal (startTelemetry around settings) := by
  unfold startTelemetry
  cases settings.telemetry with
  | some endpoints =>
      have answers :=
        ends_answered refusal_service (around.telemetryWorker endpoints)
      exact ⟨fun _ _ _ => trivial, answers.2⟩
  | none => exact ends_pure trivial

private theorem newPartial_ends :
    Ends (fun _ => True) Refusal (newPartial around settings) := by
  refine ends_bind (startTelemetry_ends around settings) fun _ _ => ?_
  refine ends_bind (ends_answered refusal_service _) fun _ _ => ?_
  refine ends_bind (ends_noteIf _ _) fun _ _ => ?_
  exact ends_bind (ends_note _) fun _ _ => ends_note _

private theorem spawnOffchainWorkers_ends :
    Ends (fun _ => True) Refusal (spawnOffchainWorkers settings) := by
  unfold spawnOffchainWorkers
  cases startParachainNode settings.toConfiguration with
  | some options => exact ends_note _
  | none => exact ends_pure trivial

private theorem reportHwbench_ends (hwbench : Option HwBench) :
    Ends (fun _ => True) Refusal (reportHwbench settings hwbench) := by
  cases hwbench with
  | some hwbench =>
      exact ends_bind (ends_noteIf _ _) fun _ _ => ends_noteIf _ _
  | none => exact ends_pure trivial

section Services

variable (chainId : String) (paraId : UInt32) (hwbench : Option HwBench)

/-- The services are refused, or the relay chain's collator key comes back. -/
private theorem startServices_ends :
    Ends (fun key => around.buildRelayChainInterface = .ok key) Refusal
      (startServices around settings chainId paraId hwbench) := by
  refine ends_bind (newPartial_ends around settings) fun _ _ => ?_
  refine ends_bind (ends_answered refusal_application _) fun key answer => ?_
  refine ends_bind (ends_note _) fun _ _ => ?_
  refine ends_bind (ends_answered refusal_service _) fun _ _ => ?_
  refine ends_bind (ends_note _) fun _ _ => ?_
  refine ends_bind (spawnOffchainWorkers_ends settings) fun _ _ => ?_
  refine ends_bind (ends_answered refusal_service _) fun _ _ => ?_
  refine ends_bind (ends_note _) fun _ _ => ?_
  refine ends_bind (reportHwbench_ends settings hwbench) fun _ _ => ?_
  refine ends_bind (ends_answered refusal_application _) fun _ _ => ?_
  refine ends_bind (ends_answered refusal_service _) fun _ _ => ?_
  exact ends_bind (ends_note _) fun _ _ => ends_pure answer

/-- How a startup ends that has come to the authoring of blocks. -/
def authoringOutcome (collatorKey : Option CollatorPair) :
    Except StartupError PUnit :=
  if settings.isAuthority && collatorKey.isNone then
    .error (.panicked "Command line arguments do not allow this. qed")
  else
    .ok ⟨⟩

private theorem authoring_outcome
    (collatorKey : Option CollatorPair) (log : List StartupEvent) :
    (startAuthoring settings paraId collatorKey >>= fun _ =>
        note .networking).outcome log =
      authoringOutcome settings collatorKey := by
  unfold startAuthoring authoringOutcome
  cases settings.isAuthority with
  | false => rfl
  | true =>
      cases collatorKey with
      | none => rfl
      | some key => rfl

end Services

/-! ## Acceptance -/

/-- The libraries accept all that the services ask of them. -/
structure AcceptsServices : Prop where
  telemetry :
    ∀ endpoints,
      settings.telemetry = some endpoints →
        (around.telemetryWorker endpoints).isOk = true
  parts : around.newFullParts.isOk = true
  relayChain : around.buildRelayChainInterface.isOk = true
  network : around.buildNetwork.isOk = true
  tasks : around.spawnTasks.isOk = true
  overseer : around.overseerHandle.isOk = true
  relayChainTasks : around.startRelayChainTasks.isOk = true

private theorem finishesWhen_answered
    {α : Type} (wrap : String → StartupError) (answer : Except String α) :
    FinishesWhen (answer.isOk = true) (answered wrap answer) := by
  intro log
  cases answer with
  | ok value => exact iff_of_true ⟨value, rfl⟩ rfl
  | error message =>
      refine iff_of_false ?_ Bool.false_ne_true
      intro finishes
      obtain ⟨value, finished⟩ := finishes
      cases finished

private theorem startTelemetry_finishesWhen :
    FinishesWhen
      (∀ endpoints,
        settings.telemetry = some endpoints →
          (around.telemetryWorker endpoints).isOk = true)
      (startTelemetry around settings) := by
  intro log
  unfold startTelemetry
  cases settings.telemetry with
  | some endpoints =>
      refine (finishesWhen_answered .service _ log).trans ?_
      constructor
      · intro accepted asked same
        cases same
        exact accepted
      · intro accepted
        exact accepted endpoints rfl
  | none =>
      refine iff_of_true ⟨⟨⟩, rfl⟩ ?_
      intro endpoints given
      cases given

private theorem newPartial_finishesWhen :
    FinishesWhen
      ((∀ endpoints,
          settings.telemetry = some endpoints →
            (around.telemetryWorker endpoints).isOk = true) ∧
        around.newFullParts.isOk = true)
      (newPartial around settings) := by
  refine finishesWhen_bind (startTelemetry_finishesWhen around settings) ?_
  intro _
  refine finishesWhen_of_last (finishesWhen_answered _ _) fun _ => ?_
  refine finishesWhen_of_total (finishesWhen_noteIf _ _) fun _ => ?_
  exact finishesWhen_of_total (finishesWhen_note _) fun _ => finishesWhen_note _

private theorem spawnOffchainWorkers_finishesWhen :
    FinishesWhen True (spawnOffchainWorkers settings) := by
  unfold spawnOffchainWorkers
  cases startParachainNode settings.toConfiguration with
  | some options => exact finishesWhen_note _
  | none => exact finishesWhen_pure PUnit.unit

private theorem reportHwbench_finishesWhen (hwbench : Option HwBench) :
    FinishesWhen True (reportHwbench settings hwbench) := by
  cases hwbench with
  | some hwbench =>
      exact
        finishesWhen_of_total (finishesWhen_noteIf _ _)
          fun _ => finishesWhen_noteIf _ _
  | none => exact finishesWhen_pure PUnit.unit

section Services

variable (chainId : String) (paraId : UInt32) (hwbench : Option HwBench)

private theorem startServices_finishesWhen :
    FinishesWhen (AcceptsServices around settings)
      (startServices around settings chainId paraId hwbench) := by
  have inOrder :
      FinishesWhen
        (((∀ endpoints,
              settings.telemetry = some endpoints →
                (around.telemetryWorker endpoints).isOk = true) ∧
            around.newFullParts.isOk = true) ∧
          around.buildRelayChainInterface.isOk = true ∧
            around.buildNetwork.isOk = true ∧
              around.spawnTasks.isOk = true ∧
                around.overseerHandle.isOk = true ∧
                  around.startRelayChainTasks.isOk = true)
        (startServices around settings chainId paraId hwbench) := by
    refine finishesWhen_bind (newPartial_finishesWhen around settings) ?_
    intro _
    refine finishesWhen_bind (finishesWhen_answered _ _) fun collatorKey => ?_
    refine finishesWhen_of_total (finishesWhen_note _) fun _ => ?_
    refine finishesWhen_bind (finishesWhen_answered _ _) fun _ => ?_
    refine finishesWhen_of_total (finishesWhen_note _) fun _ => ?_
    refine
      finishesWhen_of_total (spawnOffchainWorkers_finishesWhen settings) ?_
    intro _
    refine finishesWhen_bind (finishesWhen_answered _ _) fun _ => ?_
    refine finishesWhen_of_total (finishesWhen_note _) fun _ => ?_
    refine
      finishesWhen_of_total (reportHwbench_finishesWhen settings hwbench) ?_
    intro _
    refine finishesWhen_bind (finishesWhen_answered _ _) fun _ => ?_
    refine finishesWhen_of_last (finishesWhen_answered _ _) fun _ => ?_
    exact
      finishesWhen_of_total (finishesWhen_note _)
        fun _ => finishesWhen_pure collatorKey
  intro log
  refine (inOrder log).trans ?_
  constructor
  · intro accepted
    obtain ⟨⟨telemetry, parts⟩, relayChain, network, tasks, overseer,
      relayChainTasks⟩ := accepted
    exact
      ⟨telemetry, parts, relayChain, network, tasks, overseer, relayChainTasks⟩
  · intro accepts
    exact
      ⟨⟨accepts.telemetry, accepts.parts⟩, accepts.relayChain,
        accepts.network, accepts.tasks, accepts.overseer,
        accepts.relayChainTasks⟩

/-- Starting the services is refused, or all of them are accepted. -/
private theorem startParachainNodeServices_ends
    (log : List StartupEvent) :
    (∃ reason,
        (startParachainNodeServices around settings chainId paraId
              hwbench).outcome
            log =
          .error reason ∧
        Refusal reason ∧ ¬ AcceptsServices around settings) ∨
      AcceptsServices around settings ∧
        ∃ collatorKey,
          around.buildRelayChainInterface = .ok collatorKey ∧
            (startParachainNodeServices around settings chainId paraId
                  hwbench).outcome
                log =
              authoringOutcome settings collatorKey := by
  have ends := startServices_ends around settings chainId paraId hwbench
  have finishes_iff :=
    startServices_finishesWhen around settings chainId paraId hwbench log
  rcases ran :
      startServices around settings chainId paraId hwbench log with
    ⟨result, reached⟩
  have result_eq := congrArg Prod.fst ran
  cases result with
  | error reason =>
      refine Or.inl ⟨reason, ?_, ends.2 log reason result_eq, ?_⟩
      · rw [outcome, startParachainNodeServices, bind_of_error ran]
      · intro accepts
        obtain ⟨key, finished⟩ := finishes_iff.mpr accepts
        rw [outcome, ran] at finished
        cases finished
  | ok collatorKey =>
      refine
        Or.inr
          ⟨finishes_iff.mp ⟨collatorKey, result_eq⟩, collatorKey,
            ends.1 log collatorKey result_eq, ?_⟩
      rw [outcome, startParachainNodeServices, bind_of_ok ran]
      exact authoring_outcome settings paraId collatorKey reached

end Services

/-! ## The whole startup -/

/-- All that a startup asks for is accepted. -/
structure Accepts (spec : ChainSpec) : Prop where
  loaded : loadSpec around.fromJsonFile settings.chain = .ok spec
  paraId : (findParaId around spec).isOk = true
  relayChain : (polkadotConfig around spec).isOk = true
  services : AcceptsServices around settings

/-- A startup ends before the services, or comes down to starting them. -/
private inductive RunCases : Prop
  | unknownChain (message : String)
      (failed :
        loadSpec around.fromJsonFile settings.chain = .error message)
      (ran : run around settings [] = (.error (.input message), []))
  | misconfigured (spec : ChainSpec) (message : String)
      (loaded : loadSpec around.fromJsonFile settings.chain = .ok spec)
      (failed :
        ¬ ((findParaId around spec).isOk = true ∧
          (polkadotConfig around spec).isOk = true))
      (ran :
        run around settings [] =
          (.error (.input message), benchmarksPlan settings))
  | started (spec : ChainSpec) (paraId : UInt32) (chainId : String)
      (loaded : loadSpec around.fromJsonFile settings.chain = .ok spec)
      (found : findParaId around spec = .ok paraId)
      (configured : polkadotConfig around spec = .ok chainId)
      (ran :
        run around settings [] =
          startParachainNodeServices around settings chainId paraId
            (keptHwbench around settings) (benchmarksPlan settings))

/-- All that a run may start, in order. -/
def runPlan : List StartupEvent :=
  match loadSpec around.fromJsonFile settings.chain with
  | .error _ => []
  | .ok spec =>
      benchmarksPlan settings ++
        match findParaId around spec, polkadotConfig around spec with
        | .ok paraId, .ok chainId =>
            nodePlan settings chainId paraId (keptHwbench around settings)
        | _, _ => []

private theorem answered_of_eq_ok
    {α : Type} {wrap : String → StartupError} {answer : Except String α}
    {value : α} (accepted : answer = .ok value) (log : List StartupEvent) :
    answered wrap answer log = (.ok value, log) := by
  rw [accepted]
  rfl

private theorem answered_of_eq_error
    {α : Type} {wrap : String → StartupError} {answer : Except String α}
    {message : String} (refused : answer = .error message)
    (log : List StartupEvent) :
    answered wrap answer log = (.error (wrap message), log) := by
  rw [refused]
  rfl

private theorem gatherHwbench_apply :
    gatherHwbench around settings [] =
      (.ok (keptHwbench around settings), benchmarksPlan settings) := by
  unfold gatherHwbench benchmarksPlan noteIf
  cases settings.databasePath.isSome with
  | true => rfl
  | false => rfl

private theorem run_cases : RunCases around settings := by
  cases loaded : loadSpec around.fromJsonFile settings.chain with
  | error message =>
      refine .unknownChain message loaded ?_
      exact bind_of_error (answered_of_eq_error loaded []) _
  | ok spec =>
      have specRan :
          answered .input (loadSpec around.fromJsonFile settings.chain) [] =
            (.ok spec, []) :=
        answered_of_eq_ok loaded []
      have measured := gatherHwbench_apply around settings
      cases found : findParaId around spec with
      | error message =>
          refine .misconfigured spec message loaded ?_ ?_
          · intro accepted
            rw [found] at accepted
            exact Bool.false_ne_true accepted.1
          · rw [run, bind_of_ok specRan, bind_of_ok measured]
            exact bind_of_error (answered_of_eq_error found _) _
      | ok paraId =>
          have paraIdRan :
              answered .input (findParaId around spec)
                  (benchmarksPlan settings) =
                (.ok paraId, benchmarksPlan settings) :=
            answered_of_eq_ok found _
          cases configured : polkadotConfig around spec with
          | error message =>
              refine
                .misconfigured spec ("Relay chain argument error: " ++ message)
                  loaded ?_ ?_
              · intro accepted
                rw [configured] at accepted
                exact Bool.false_ne_true accepted.2
              · rw [run, bind_of_ok specRan, bind_of_ok measured,
                  bind_of_ok paraIdRan]
                exact bind_of_error (answered_of_eq_error configured _) _
          | ok chainId =>
              refine
                .started spec paraId chainId loaded found configured ?_
              rw [run, bind_of_ok specRan, bind_of_ok measured,
                bind_of_ok paraIdRan]
              exact bind_of_ok (answered_of_eq_ok configured _) _

/-! ## What is started -/

/-- What starting the services may bring about. -/
def Foreseen (paraId : UInt32) : StartupEvent → Prop
  | .hardwareBenchmarks => False
  | .network id => id = paraId
  | .offchainWorkersRunner options =>
      startParachainNode settings.toConfiguration = some options
  | .relayChainTasks id profile =>
      id = paraId ∧ profile = recoveryProfile settings
  | .aura id => id = paraId ∧ settings.isAuthority = true
  | _ => True

private theorem forall_mem_if
    {property : StartupEvent → Prop} {condition : Bool} {entry : StartupEvent}
    (holds : condition = true → property entry) :
    ∀ event ∈ if condition then [entry] else [], property event := by
  cases condition with
  | true => exact List.forall_mem_singleton.mpr (holds rfl)
  | false => exact List.forall_mem_nil property

private theorem nodePlan_foreseen
    (chainId : String) (paraId : UInt32) (hwbench : Option HwBench) :
    ∀ event ∈ nodePlan settings chainId paraId hwbench,
      Foreseen settings paraId event := by
  have parts :
      ∀ event ∈ newPartialPlan settings, Foreseen settings paraId event :=
    List.forall_mem_append.mpr
      ⟨forall_mem_if fun _ => trivial, by simp [Foreseen]⟩
  have workers :
      ∀ event ∈ offchainWorkersPlan settings,
        Foreseen settings paraId event := by
    intro event member
    obtain ⟨options, started, event_eq⟩ := List.mem_map.mp member
    rw [← event_eq]
    exact Option.mem_toList.mp started
  have hardware :
      ∀ event ∈ hwbenchPlan settings hwbench,
        Foreseen settings paraId event := by
    cases hwbench with
    | some hwbench =>
        exact
          List.forall_mem_append.mpr
            ⟨forall_mem_if fun _ => trivial, forall_mem_if fun _ => trivial⟩
    | none => exact List.forall_mem_nil _
  have authoring :
      ∀ event ∈ authoringPlan settings paraId,
        Foreseen settings paraId event :=
    forall_mem_if fun authority => ⟨rfl, authority⟩
  simp only [nodePlan, servicesPlan, List.forall_mem_append,
    List.forall_mem_cons]
  refine
    ⟨⟨parts, trivial, rfl, workers, trivial, hardware, ⟨rfl, rfl⟩, ?_⟩,
      authoring, trivial, ?_⟩
  · exact List.forall_mem_nil _
  · exact List.forall_mem_nil _

/-- What is running when a startup has ended. -/
def started : List StartupEvent :=
  (run around settings).final []

/-- A run that comes to the services adds what they started to the benchmarks. -/
private theorem started_of_services
    {paraId : UInt32} {chainId : String}
    (ran :
      run around settings [] =
        startParachainNodeServices around settings chainId paraId
          (keptHwbench around settings) (benchmarksPlan settings)) :
    ∃ made,
      started around settings = benchmarksPlan settings ++ made ∧
        made <+:
            nodePlan settings chainId paraId (keptHwbench around settings) ∧
          ((run around settings).outcome [] = .ok ⟨⟩ →
            made =
              nodePlan settings chainId paraId
                (keptHwbench around settings)) := by
  obtain ⟨made, made_eq, planned, whole⟩ :=
    startParachainNodeServices_follows around settings chainId paraId
      (keptHwbench around settings) (benchmarksPlan settings)
  refine ⟨made, ?_, planned, ?_⟩
  · rw [started, final, ran]
    exact made_eq
  · intro finished
    rw [outcome, ran] at finished
    exact whole ⟨⟩ finished

private theorem benchmarks_foreseen (event : StartupEvent)
    (member : event ∈ benchmarksPlan settings) :
    event = .hardwareBenchmarks ∧ settings.databasePath.isSome = true := by
  unfold benchmarksPlan at member
  cases present : settings.databasePath.isSome with
  | true =>
      rw [present] at member
      exact ⟨List.mem_singleton.mp member, rfl⟩
  | false =>
      rw [present] at member
      cases member

/-- What is running, but for the benchmarks, is foreseen for the para id of
the chain. -/
private theorem started_foreseen
    {event : StartupEvent} (member : event ∈ started around settings) :
    event = .hardwareBenchmarks ∧ settings.databasePath.isSome = true ∨
      ∃ spec paraId,
        loadSpec around.fromJsonFile settings.chain = .ok spec ∧
          findParaId around spec = .ok paraId ∧
            Foreseen settings paraId event := by
  rcases run_cases around settings with
    ⟨message, failed, ran⟩ | ⟨spec, message, loaded, failed, ran⟩ |
    ⟨spec, paraId, chainId, loaded, found, configured, ran⟩
  · rw [started, final, ran] at member
    cases member
  · rw [started, final, ran] at member
    exact Or.inl (benchmarks_foreseen settings event member)
  · obtain ⟨made, made_eq, planned, _⟩ :=
      started_of_services around settings ran
    rw [made_eq] at member
    rcases List.mem_append.mp member with measured | wasMade
    · exact Or.inl (benchmarks_foreseen settings event measured)
    · refine Or.inr ⟨spec, paraId, loaded, found, ?_⟩
      exact
        nodePlan_foreseen settings chainId paraId _ event
          (planned.subset wasMade)

/-- How a run ends. -/
private theorem run_ends :
    (∃ reason,
        (run around settings).outcome [] = .error reason ∧
          Refusal reason ∧ ∀ spec, ¬ Accepts around settings spec) ∨
      ∃ spec collatorKey,
        Accepts around settings spec ∧
          around.buildRelayChainInterface = .ok collatorKey ∧
            (run around settings).outcome [] =
              authoringOutcome settings collatorKey := by
  rcases run_cases around settings with
    ⟨message, failed, ran⟩ | ⟨spec, message, loaded, failed, ran⟩ |
    ⟨spec, paraId, chainId, loaded, found, configured, ran⟩
  · refine Or.inl ⟨.input message, congrArg Prod.fst ran, ?_, ?_⟩
    · intro panic same
      cases same
    · intro spec accepts
      have loaded := accepts.loaded
      rw [failed] at loaded
      cases loaded
  · refine Or.inl ⟨.input message, congrArg Prod.fst ran, ?_, ?_⟩
    · intro panic same
      cases same
    · intro other accepts
      have same := accepts.loaded
      rw [loaded] at same
      cases same
      exact failed ⟨accepts.paraId, accepts.relayChain⟩
  · have ends :=
      startParachainNodeServices_ends around settings chainId paraId
        (keptHwbench around settings) (benchmarksPlan settings)
    rw [outcome, ran]
    rcases ends with ⟨reason, stopped, refusal, refused⟩ | ⟨accepts, rest⟩
    · exact
        Or.inl
          ⟨reason, stopped, refusal, fun _ all => refused all.services⟩
    · obtain ⟨collatorKey, answer, ended⟩ := rest
      have all : Accepts around settings spec :=
        { loaded := loaded
          paraId := by rw [found]; rfl
          relayChain := by rw [configured]; rfl
          services := accepts }
      exact Or.inr ⟨spec, collatorKey, all, answer, ended⟩

/-- The startup of a node, whatever it is started with and whatever its
libraries answer. -/
structure StartsInOrder : Prop where
  inOrder : started around settings <+: runPlan around settings
  whole :
    (run around settings).outcome [] = .ok ⟨⟩ →
      started around settings = runPlan around settings
  completes_iff :
    (run around settings).outcome [] = .ok ⟨⟩ ↔
      (∃ spec, Accepts around settings spec) ∧
        ¬ (settings.isAuthority = true ∧
          around.buildRelayChainInterface = .ok none)
  panics_iff :
    (∃ message,
        (run around settings).outcome [] = .error (.panicked message)) ↔
      (∃ spec, Accepts around settings spec) ∧
        settings.isAuthority = true ∧
          around.buildRelayChainInterface = .ok none
  networking_iff :
    .networking ∈ started around settings ↔
      (run around settings).outcome [] = .ok ⟨⟩
  /-- The services are all for the para id of the specification. -/
  paraId :
    ∀ event ∈ started around settings,
      ∀ id,
        event.paraId = some id →
          ∃ spec,
            loadSpec around.fromJsonFile settings.chain = .ok spec ∧
              findParaId around spec = .ok id
  /-- On a known chain it is the para id that the genesis sets. -/
  genesis :
    (∀ spec, around.getExtension spec = some spec.extensions) →
      settings.chain ∈ knownChains →
        ∀ lib : Primitives,
          ∀ event ∈ started around settings,
            ∀ id,
              event.paraId = some id →
                ∃ spec name config,
                  loadSpec around.fromJsonFile settings.chain = .ok spec ∧
                    spec.genesis = .preset name ∧
                      getPreset lib name = some config ∧
                        config.parachainId = id
  authoring :
    ∀ id,
      .aura id ∈ started around settings → settings.isAuthority = true
  offchainWorkers :
    ∀ options,
      .offchainWorkersRunner options ∈ started around settings →
        options.enableHttpRequests = false
  /-- Switching the benchmarks off does not keep them from running. -/
  benchmarks_iff :
    .hardwareBenchmarks ∈ started around settings ↔
      settings.databasePath.isSome = true ∧
        ∃ spec, loadSpec around.fromJsonFile settings.chain = .ok spec

private theorem started_prefix :
    started around settings <+: runPlan around settings := by
  rcases run_cases around settings with
    ⟨message, failed, ran⟩ | ⟨spec, message, loaded, failed, ran⟩ |
    ⟨spec, paraId, chainId, loaded, found, configured, ran⟩
  · rw [started, final, ran]
    exact List.nil_prefix
  · rw [started, final, ran]
    simp only [runPlan, loaded]
    exact List.prefix_append _ _
  · obtain ⟨made, made_eq, planned, _⟩ :=
      started_of_services around settings ran
    simp only [made_eq, runPlan, loaded, found, configured]
    exact (List.prefix_append_right_inj _).mpr planned

private theorem started_whole
    (finished : (run around settings).outcome [] = .ok ⟨⟩) :
    started around settings = runPlan around settings := by
  rcases run_cases around settings with
    ⟨message, failed, ran⟩ | ⟨spec, message, loaded, failed, ran⟩ |
    ⟨spec, paraId, chainId, loaded, found, configured, ran⟩
  · rw [outcome, ran] at finished
    cases finished
  · rw [outcome, ran] at finished
    cases finished
  · obtain ⟨made, made_eq, _, whole⟩ :=
      started_of_services around settings ran
    simp only [made_eq, whole finished, runPlan, loaded, found, configured]

private theorem networking_mem_iff :
    .networking ∈ started around settings ↔
      (run around settings).outcome [] = .ok ⟨⟩ := by
  rcases run_cases around settings with
    ⟨message, failed, ran⟩ | ⟨spec, message, loaded, failed, ran⟩ |
    ⟨spec, paraId, chainId, loaded, found, configured, ran⟩
  · rw [started, final, outcome, ran]
    simp
  · rw [started, final, outcome, ran]
    refine iff_of_false ?_ (fun finished => by cases finished)
    intro member
    have measured := benchmarks_foreseen settings _ member
    cases measured.1
  · obtain ⟨made, made_eq, last_iff⟩ :=
      startParachainNodeServices_closes around settings chainId paraId
        (keptHwbench around settings) (benchmarksPlan settings)
    rw [started, final, outcome, ran]
    change _ ∈ (startParachainNodeServices around settings chainId paraId
      (keptHwbench around settings)).final (benchmarksPlan settings) ↔ _
    rw [made_eq, List.mem_append]
    have notMeasured :
        StartupEvent.networking ∉ benchmarksPlan settings := by
      intro member
      have measured := benchmarks_foreseen settings _ member
      cases measured.1
    rw [or_iff_right notMeasured, last_iff]
    constructor
    · intro finishes
      obtain ⟨value, finished⟩ := finishes
      exact finished
    · intro finished
      exact ⟨⟨⟩, finished⟩

private theorem benchmarks_mem_iff :
    .hardwareBenchmarks ∈ started around settings ↔
      settings.databasePath.isSome = true ∧
        ∃ spec, loadSpec around.fromJsonFile settings.chain = .ok spec := by
  have measured_iff :
      StartupEvent.hardwareBenchmarks ∈ benchmarksPlan settings ↔
        settings.databasePath.isSome = true := by
    unfold benchmarksPlan
    cases settings.databasePath.isSome with
    | true => exact iff_of_true (List.mem_singleton_self _) rfl
    | false => exact iff_of_false List.not_mem_nil Bool.false_ne_true
  rcases run_cases around settings with
    ⟨message, failed, ran⟩ | ⟨spec, message, loaded, failed, ran⟩ |
    ⟨spec, paraId, chainId, loaded, found, configured, ran⟩
  · rw [started, final, ran, failed]
    simp
  · rw [started, final, ran, loaded]
    exact measured_iff.trans (and_iff_left ⟨spec, rfl⟩).symm
  · obtain ⟨made, made_eq, planned, _⟩ :=
      started_of_services around settings ran
    have notMade : StartupEvent.hardwareBenchmarks ∉ made := by
      intro member
      exact
        nodePlan_foreseen settings chainId paraId _ _ (planned.subset member)
    rw [made_eq, List.mem_append, or_iff_left notMade, loaded]
    exact measured_iff.trans (and_iff_left ⟨spec, rfl⟩).symm

private theorem authoringOutcome_ok_iff (collatorKey : Option CollatorPair) :
    authoringOutcome settings collatorKey = .ok ⟨⟩ ↔
      ¬ (settings.isAuthority = true ∧ collatorKey = none) := by
  unfold authoringOutcome
  cases settings.isAuthority with
  | false => simp
  | true =>
      cases collatorKey with
      | none => simp
      | some key => simp

private theorem authoringOutcome_panicked_iff
    (collatorKey : Option CollatorPair) :
    (∃ message,
        authoringOutcome settings collatorKey = .error (.panicked message)) ↔
      settings.isAuthority = true ∧ collatorKey = none := by
  unfold authoringOutcome
  cases settings.isAuthority with
  | false => simp
  | true =>
      cases collatorKey with
      | none => simp
      | some key => simp

private theorem run_completes_iff :
    (run around settings).outcome [] = .ok ⟨⟩ ↔
      (∃ spec, Accepts around settings spec) ∧
        ¬ (settings.isAuthority = true ∧
          around.buildRelayChainInterface = .ok none) := by
  rcases run_ends around settings with
    ⟨reason, stopped, _, refused⟩ | ⟨spec, collatorKey, all, answer, ended⟩
  · refine iff_of_false ?_ ?_
    · intro finished
      rw [stopped] at finished
      cases finished
    · intro both
      obtain ⟨spec, all⟩ := both.1
      exact refused spec all
  · rw [ended, answer, Except.ok.injEq, authoringOutcome_ok_iff]
    exact (and_iff_right ⟨spec, all⟩).symm

private theorem run_panics_iff :
    (∃ message,
        (run around settings).outcome [] = .error (.panicked message)) ↔
      (∃ spec, Accepts around settings spec) ∧
        settings.isAuthority = true ∧
          around.buildRelayChainInterface = .ok none := by
  rcases run_ends around settings with
    ⟨reason, stopped, refusal, refused⟩ |
    ⟨spec, collatorKey, all, answer, ended⟩
  · refine iff_of_false ?_ ?_
    · intro panicked
      obtain ⟨message, ended⟩ := panicked
      rw [stopped, Except.error.injEq] at ended
      exact refusal message ended
    · intro both
      obtain ⟨spec, all⟩ := both.1
      exact refused spec all
  · rw [ended, answer, Except.ok.injEq, authoringOutcome_panicked_iff]
    exact (and_iff_right ⟨spec, all⟩).symm

private theorem started_paraId
    {event : StartupEvent} (member : event ∈ started around settings)
    {id : UInt32} (named : event.paraId = some id) :
    ∃ spec,
      loadSpec around.fromJsonFile settings.chain = .ok spec ∧
        findParaId around spec = .ok id := by
  rcases started_foreseen around settings member with
    ⟨measured, _⟩ | ⟨spec, paraId, loaded, found, foreseen⟩
  · rw [measured] at named
    cases named
  · have same : id = paraId := by
      cases event with
      | network _ =>
          cases named
          exact foreseen
      | relayChainTasks _ _ =>
          cases named
          exact foreseen.1
      | aura _ =>
          cases named
          exact foreseen.1
      | _ => cases named
    exact ⟨spec, loaded, same ▸ found⟩

end ConfidentialWorker.Node
