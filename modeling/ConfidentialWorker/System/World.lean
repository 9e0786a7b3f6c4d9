import ConfidentialWorker.Library.History
import ConfidentialWorker.Pallets.HookRuns
import ConfidentialWorker.Runtime.Runtime

/-!
# A node over time

The state of a node is its chain and its local storage.  Its operations are

* dispatches, and the steps of `frame_system` from block to block;
* off-chain programs: runs of the hook, and stores of API keys;
* raw writes to local storage through the node's RPC.

An off-chain program runs on the host.  The chain and the local storage after
it are the ones that the run leaves behind, so that nothing about them is built
into the step function.
-/

namespace ConfidentialWorker

open Program ConfidentialWorker.Runtime

variable {width : ℕ}

structure World (frame : FrameSystem width) where
  chain : Chain frame
  localStorage : OffchainDb

variable {frame : FrameSystem width}

/-- What an off-chain program meets besides the node's own state.  A run on a
fork, or on another node, meets a world of its own. -/
structure Environment (frame : FrameSystem width) where
  capabilities : Capabilities
  clock : Timestamp
  exchange : Exchange
  elsewhere : Option (World frame)

inductive Operation (frame : FrameSystem width) where
  | dispatch (origin : frame.Origin) (call : RuntimeCall)
  | systemStep (change : frame.System → frame.System)
  | offchainWorker (environment : Environment frame)
      (blockNumber : BlockNumber width)
  | storeApiKey (environment : Environment frame) (key value : String)
  | localStorageSet (kind : StorageKind) (key value : Bytes)

inductive Report (frame : FrameSystem width) where
  | dispatched (result : Except DispatchError PUnit)
  | ran (result : Except Trap PUnit) (reached : Host (Chain frame))
  | done

namespace World

def host (environment : Environment frame) (world : World frame) :
    Host (Chain frame) :=
  Host.atStart environment.capabilities world.localStorage environment.clock
    environment.exchange world.chain

/-- Run an off-chain program on this world, or elsewhere. -/
def runOffchain (program : HostM (Chain frame) PUnit)
    (environment : Environment frame) (world : World frame) :
    Report frame × World frame :=
  match environment.elsewhere with
  | none =>
      let (result, reached) := program (world.host environment)
      (.ran result reached, ⟨reached.chain, reached.localStorage⟩)
  | some other =>
      let (result, reached) := program (other.host environment)
      (.ran result reached, world)

def step (client : HttpClient (Chain frame)) (world : World frame) :
    Operation frame → Report frame × World frame
  | .dispatch origin call =>
      let (result, chain) := call.dispatch origin world.chain
      (.dispatched result, { world with chain })
  | .systemStep change =>
      (.done,
        { world with
          chain := { world.chain with system := change world.chain.system } })
  | .offchainWorker environment blockNumber =>
      runOffchain (OffchainWorker.offchainWorker client blockNumber)
        environment world
  | .storeApiKey environment key value =>
      runOffchain (OffchainApiKey.storeApiKey key value) environment world
  | .localStorageSet kind key value =>
      (.done,
        { world with
          localStorage := world.localStorage.set kind key value })

/-! ## Off-chain programs -/

theorem runOffchain_own
    (program : HostM (Chain frame) PUnit) {environment : Environment frame}
    (own : environment.elsewhere = none) (world : World frame) :
    runOffchain program environment world =
      (.ran (program.outcome (world.host environment))
          (program.final (world.host environment)),
        ⟨(program.final (world.host environment)).chain,
          (program.final (world.host environment)).localStorage⟩) := by
  rw [runOffchain, own]
  rfl

/-- A program that keeps a part of the host keeps that part of the world. -/
theorem runOffchain_chain
    {program : HostM (Chain frame) PUnit}
    (keepsChain : Preserves Host.chain program)
    (environment : Environment frame) (world : World frame) :
    (runOffchain program environment world).2.chain = world.chain := by
  cases place : environment.elsewhere with
  | none =>
      rw [runOffchain_own program place]
      exact keepsChain.final_eq (world.host environment)
  | some other =>
      rw [runOffchain, place]

theorem runOffchain_localStorage
    {program : HostM (Chain frame) PUnit}
    (keepsStorage : Preserves Host.localStorage program)
    (environment : Environment frame) (world : World frame) :
    (runOffchain program environment world).2.localStorage =
      world.localStorage := by
  cases place : environment.elsewhere with
  | none =>
      rw [runOffchain_own program place]
      exact keepsStorage.final_eq (world.host environment)
  | some other =>
      rw [runOffchain, place]

theorem storeApiKey_keepsChain (key value : String) :
    Preserves Host.chain
      (OffchainApiKey.storeApiKey key value : HostM (Chain frame) PUnit) := by
  intro host
  rw [final, OffchainApiKey.storeApiKey_apply]

section Documented

variable {client : HttpClient (Chain frame)} (documented : client.Documented)
include documented

theorem offchainWorker_keepsChain (blockNumber : BlockNumber width) :
    Preserves Host.chain
      (OffchainWorker.offchainWorker client blockNumber) := by
  intro host
  have kept :=
    (OffchainWorker.offchainWorker_backdrop documented blockNumber).final_eq host
  exact congrArg (fun backdrop => backdrop.2.2) kept

theorem offchainWorker_keepsStorage (blockNumber : BlockNumber width) :
    Preserves Host.localStorage
      (OffchainWorker.offchainWorker client blockNumber) := by
  intro host
  have kept :=
    (OffchainWorker.offchainWorker_backdrop documented blockNumber).final_eq host
  exact congrArg (fun backdrop => backdrop.2.1) kept

end Documented

end World

/-- A node on which nothing has happened, with pallet-system reduced to its
list of events. -/
def emptyWorld : World (FrameSystem.listing 32) :=
  ⟨⟨[], fun _ => none⟩, fun _ _ => none⟩

end ConfidentialWorker
