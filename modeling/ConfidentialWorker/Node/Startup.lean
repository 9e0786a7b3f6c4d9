import ConfidentialWorker.Library.Plans
import ConfidentialWorker.Node.ChainSpecs
import ConfidentialWorker.Node.Service

/-!
# Starting a node

`run` without a subcommand loads the chain specification, reads the para id
and the relay chain from its extensions and calls `start_parachain_node`, which
starts the services of the node one after the other.  Nearly every step may be
refused by code outside the repository: `Surroundings` holds its answers.

The services that are running when a startup is given up were started in the
planned order, and the network is opened only by a startup that completes.
All services are started for the para id of the chain specification, blocks
are authored only by an authority, and the one way to panic is an authority
without a collator key.
-/

namespace ConfidentialWorker.Node

open Program

/-- A public and a secret key of a collator. -/
abbrev CollatorPair := List UInt8 × List UInt8

/-- The outcome of the hardware benchmarks, next to the reference hardware. -/
structure HwBench where
  sufficient : Bool
  deriving DecidableEq, Repr

/-- The settings of a node that decide about its start. -/
structure Settings extends Configuration where
  chain : String
  telemetryEndpoints : Option (List String)
  databasePath : Option String
  noHardwareBenchmarks : Bool

/-- Telemetry is sent somewhere. -/
def Settings.telemetry (settings : Settings) : Option (List String) :=
  settings.telemetryEndpoints.filter fun endpoints => !endpoints.isEmpty

/-- The answers of the libraries while a node starts. -/
structure Surroundings where
  fromJsonFile : String → Except String ChainSpec
  getExtension : ChainSpec → Option Extensions
  hwbench : HwBench
  /-- The chain id that the relay chain arguments ask for, if not empty. -/
  relayChainArgument : Except String String
  createConfiguration : String → Except String PUnit
  telemetryWorker : List String → Except String PUnit
  newFullParts : Except String PUnit
  buildRelayChainInterface : Except String (Option CollatorPair)
  buildNetwork : Except String PUnit
  spawnTasks : Except String PUnit
  overseerHandle : Except String PUnit
  startRelayChainTasks : Except String PUnit

inductive DARecoveryProfile
  | collator
  | fullNode
  deriving DecidableEq, Repr

/-- What is running since some step of a startup. -/
inductive StartupEvent
  | hardwareBenchmarks
  | telemetry
  | transactionPool (isAuthority : Bool)
  | importQueue
  | relayChainInterface (chainId : String)
  | network (paraId : UInt32)
  | offchainWorkersRunner (options : OffchainWorkerOptions)
  | tasks
  | hardwareWarning
  | telemetryHwbench
  | relayChainTasks (paraId : UInt32) (profile : DARecoveryProfile)
  | aura (paraId : UInt32)
  | networking
  deriving DecidableEq, Repr

/-- The para id a service is started for. -/
def StartupEvent.paraId : StartupEvent → Option UInt32
  | .network paraId => some paraId
  | .relayChainTasks paraId _ => some paraId
  | .aura paraId => some paraId
  | _ => none

/-- Why a startup is given up. -/
inductive StartupError
  | input (message : String)
  | service (message : String)
  | application (message : String)
  | panicked (message : String)
  deriving DecidableEq, Repr

abbrev Startup (α : Type) := Program (List StartupEvent) StartupError α

/-- The `?` on an answer of a library. -/
def answered {α : Type} (wrap : String → StartupError)
    (answer : Except String α) : Startup α :=
  require (answer.mapError wrap)

variable (around : Surroundings) (settings : Settings)

/-! ## The services -/

def startTelemetry : Startup PUnit :=
  match settings.telemetry with
  | some endpoints => answered .service (around.telemetryWorker endpoints)
  | none => pure ⟨⟩

def newPartial : Startup PUnit := do
  startTelemetry around settings
  answered .service around.newFullParts
  noteIf settings.telemetry.isSome .telemetry
  note (.transactionPool settings.isAuthority)
  note .importQueue

def spawnOffchainWorkers : Startup PUnit :=
  match startParachainNode settings.toConfiguration with
  | some options => note (.offchainWorkersRunner options)
  | none => pure ⟨⟩

def reportHwbench : Option HwBench → Startup PUnit
  | some hwbench => do
      noteIf (settings.isAuthority && !hwbench.sufficient) .hardwareWarning
      noteIf settings.telemetry.isSome .telemetryHwbench
  | none => pure ⟨⟩

def recoveryProfile : DARecoveryProfile :=
  if settings.isAuthority then .collator else .fullNode

/-- `start_parachain_node` up to the relay chain tasks. -/
def startServices
    (chainId : String) (paraId : UInt32) (hwbench : Option HwBench) :
    Startup (Option CollatorPair) := do
  newPartial around settings
  let collatorKey ← answered .application around.buildRelayChainInterface
  note (.relayChainInterface chainId)
  answered .service around.buildNetwork
  note (.network paraId)
  spawnOffchainWorkers settings
  answered .service around.spawnTasks
  note .tasks
  reportHwbench settings hwbench
  answered .application around.overseerHandle
  answered .service around.startRelayChainTasks
  note (.relayChainTasks paraId (recoveryProfile settings))
  pure collatorKey

def startConsensus (paraId : UInt32) : Startup PUnit :=
  note (.aura paraId)

/-- Authorities author blocks, with the collator key that is expected then. -/
def startAuthoring
    (paraId : UInt32) (collatorKey : Option CollatorPair) : Startup PUnit :=
  if settings.isAuthority then
    match collatorKey with
    | some _ => startConsensus paraId
    | none => stop (.panicked "Command line arguments do not allow this. qed")
  else
    pure ⟨⟩

def startParachainNodeServices
    (chainId : String) (paraId : UInt32) (hwbench : Option HwBench) :
    Startup PUnit := do
  let collatorKey ← startServices around settings chainId paraId hwbench
  startAuthoring settings paraId collatorKey
  note .networking

/-! ## The command -/

/-- `then_some` is given a value that is computed in any case: switching the
benchmarks off drops what they measured. -/
def gatherHwbench : Startup (Option HwBench) := do
  noteIf settings.databasePath.isSome .hardwareBenchmarks
  pure
    (if settings.noHardwareBenchmarks then none
    else settings.databasePath.map fun _ => around.hwbench)

def findParaId (spec : ChainSpec) : Except String UInt32 :=
  match around.getExtension spec with
  | some extensions => .ok extensions.paraId
  | none => .error "Could not find parachain ID in chain-spec."

/-- `RelayChainCli::chain_id`: the relay chain of the specification, unless
the relay chain arguments name another. -/
def relayChainId (spec : ChainSpec) : Except String String := do
  let chainId ← around.relayChainArgument
  pure
    (if chainId.isEmpty then
      ((around.getExtension spec).map Extensions.relayChain).getD ""
    else chainId)

/-- The configuration of the relay chain, and the chain it is for. -/
def polkadotConfig (spec : ChainSpec) : Except String String := do
  let chainId ← relayChainId around spec
  around.createConfiguration chainId
  pure chainId

def run : Startup PUnit := do
  let spec ←
    answered .input (loadSpec around.fromJsonFile settings.chain)
  let hwbench ← gatherHwbench around settings
  let paraId ← answered .input (findParaId around spec)
  let chainId ←
    answered (fun err => .input ("Relay chain argument error: " ++ err))
      (polkadotConfig around spec)
  startParachainNodeServices around settings chainId paraId hwbench

end ConfidentialWorker.Node
