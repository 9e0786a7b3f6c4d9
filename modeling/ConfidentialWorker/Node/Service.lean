import ConfidentialWorker.Pallets.KeyHandling

/-!
# The node's off-chain workers

`start_parachain_node` builds the options of the off-chain workers from the
node's configuration.  The workers themselves are `sc_offchain`, which is not
part of the repository: it turns the options into the capabilities of every
run, and is the parameter `ScOffchain`.

The hook is run on every new best block.  On the node that is built here a run
that finds a key is stopped when it starts its request, while a run without a
key looks healthy.
-/

namespace ConfidentialWorker.Node

open Program OffchainWorker

/-- The settings of a node that decide about off-chain workers. -/
structure Configuration where
  offchainWorkerEnabled : Bool
  isAuthority : Bool
  deriving DecidableEq, Repr

structure OffchainWorkerOptions where
  isValidator : Bool
  enableHttpRequests : Bool
  deriving DecidableEq, Repr

/-- The off-chain workers a node is started with, if it is started with any. -/
def startParachainNode (parachainConfig : Configuration) :
    Option OffchainWorkerOptions :=
  if parachainConfig.offchainWorkerEnabled then
    some
      { isValidator := parachainConfig.isAuthority
        enableHttpRequests := false }
  else
    none

/-- The capabilities `sc_offchain` gives to the runs of its workers. -/
structure ScOffchain where
  capabilities : OffchainWorkerOptions → Capabilities

structure ScOffchain.Documented (scOffchain : ScOffchain) : Prop where
  http_eq : ∀ options,
    (scOffchain.capabilities options).http = options.enableHttpRequests

variable {width : ℕ} {frame : FrameSystem width}

/-- A new best block, and what a run of the hook on it meets. -/
structure BestBlock (frame : FrameSystem width) where
  number : BlockNumber width
  positive : 0 < number
  localStorage : OffchainDb
  isText :
    ∀ kind name bytes,
      localStorage kind name = some bytes → Utf8.WellFormed bytes
  clock : Timestamp
  exchange : Exchange
  chain : Chain frame

namespace BestBlock

def host (capabilities : Capabilities) (block : BestBlock frame) :
    Host (Chain frame) :=
  Host.atStart capabilities block.localStorage block.clock block.exchange
    block.chain

theorem storedKey_cases (block : BestBlock frame) :
    storedKey block.localStorage = none ∨
      ∃ apiKey, storedKey block.localStorage = some (Utf8.encode apiKey) := by
  rcases OffchainApiKey.stored_cases block.localStorage apiKeyName with
    absent | present | ⟨bytes, present, illFormed⟩
  · exact Or.inl absent
  · exact Or.inr present
  · exact False.elim (illFormed (block.isText _ _ _ present))

end BestBlock

/-- The run on a block reaches the end of the hook.  Without a key it makes no
call but to local storage; with a key it issues the authenticated request and logs what came
of it. -/
structure Healthy
    (client : HttpClient (Chain frame)) (capabilities : Capabilities)
    (block : BestBlock frame) : Prop where
  finishes :
    (offchainWorker client block.number).outcome (block.host capabilities) =
      .ok ⟨⟩
  withoutKey :
    storedKey block.localStorage = none →
      ∀ call ∈
          HostM.issued (offchainWorker client block.number)
            (block.host capabilities),
        call.isStorage = true
  withKey :
    ∀ apiKey,
      storedKey block.localStorage = some (Utf8.encode apiKey) →
        .httpRequestStart "GET" url ∈
            HostM.issued (offchainWorker client block.number)
              (block.host capabilities) ∧
          (KeyedRequestGoesOut (block.host capabilities) →
            ((offchainWorker client block.number).final
                (block.host capabilities)).sentRequests =
              [keyedWire apiKey]) ∧
            ∃ result,
              responseRecord result ∈
                ((offchainWorker client block.number).final
                  (block.host capabilities)).log

/-! ## Runs with and without a key -/

private theorem healthy_of_absent
    (client : HttpClient (Chain frame)) (capabilities : Capabilities)
    {block : BestBlock frame}
    (absent : storedKey block.localStorage = none) :
    Healthy client capabilities block := by
  have hostAbsent :
      storedKey (block.host capabilities).localStorage = none :=
    absent
  obtain ⟨reached, run, called, _⟩ :=
    offchainWorker_of_absent client block.number hostAbsent
  constructor
  · exact congrArg Prod.fst run
  · intro _ call member
    rw [HostM.issued_of_apply_eq run called] at member
    rw [List.mem_singleton.mp member]
    exact lookupCall_isStorage
  · intro apiKey present
    rw [absent] at present
    cases present

/-- With the HTTP capability every run would be healthy. -/
theorem healthy_of_http
    {client : HttpClient (Chain frame)} (documented : client.Documented)
    {capabilities : Capabilities} (permits : capabilities.http = true)
    (block : BestBlock frame) :
    Healthy client capabilities block := by
  rcases block.storedKey_cases with absent | ⟨apiKey, present⟩
  · exact healthy_of_absent client capabilities absent
  · have hostPresent :
        storedKey (block.host capabilities).localStorage =
          some (Utf8.encode apiKey) :=
      present
    have hostPermits : (block.host capabilities).capabilities.http = true :=
      permits
    obtain ⟨result, reached, made, run, called, _, _, logged, wire⟩ :=
      offchainWorker_of_permits documented block.number hostPermits hostPresent
    constructor
    · exact congrArg Prod.fst run
    · intro absent
      rw [absent] at present
      cases present
    · intro asked found
      have sameKey : asked = apiKey := by
        rw [present] at found
        exact (Utf8.encode_injective (Option.some.inj found)).symm
      rw [final, run, sameKey]
      refine ⟨?_, ?_, result, ?_⟩
      · have issued :
            HostM.issued (offchainWorker client block.number)
                (block.host capabilities) =
              lookupCall :: .timestamp :: .httpRequestStart "GET" url :: made :=
          HostM.issued_of_apply_eq run called
        simp [issued]
      · intro goesOut
        rcases wire with ⟨_, sent⟩ | ⟨unsent, _⟩
        · exact sent
        · exact False.elim (unsent goesOut)
      · simp [logged]

/-- Without it, the start of the request stops the run. -/
theorem not_healthy_of_present
    {client : HttpClient (Chain frame)} (documented : client.Documented)
    {capabilities : Capabilities}
    (missing : capabilities.http = false)
    {block : BestBlock frame} {apiKey : String}
    (present : storedKey block.localStorage = some (Utf8.encode apiKey)) :
    ¬ Healthy client capabilities block := by
  intro healthy
  have hostPresent :
      storedKey (block.host capabilities).localStorage =
        some (Utf8.encode apiKey) :=
    present
  have stopped :
      offchainWorker client block.number (block.host capabilities) =
        (.error .missingCapability, _) :=
    offchainWorker_of_missing documented block.number missing hostPresent
  have finishes := healthy.finishes
  rw [outcome, stopped] at finishes
  cases finishes

/-- No node is started with HTTP requests enabled. -/
theorem startParachainNode_enableHttpRequests
    {config : Configuration} {options : OffchainWorkerOptions}
    (started : startParachainNode config = some options) :
    options.enableHttpRequests = false := by
  unfold startParachainNode at started
  split at started
  · cases started
    rfl
  · cases started

/-- On a node of this repository all runs are healthy exactly when none of them
finds a key. -/
theorem healthy_iff_noKey
    {client : HttpClient (Chain frame)} (clientDocumented : client.Documented)
    {scOffchain : ScOffchain} (documented : scOffchain.Documented)
    {config : Configuration} {options : OffchainWorkerOptions}
    (started : startParachainNode config = some options)
    (blocks : List (BestBlock frame)) :
    (∀ block ∈ blocks,
        Healthy client (scOffchain.capabilities options) block) ↔
      ∀ block ∈ blocks, storedKey block.localStorage = none := by
  have missing : (scOffchain.capabilities options).http = false := by
    rw [documented.http_eq]
    exact startParachainNode_enableHttpRequests started
  constructor
  · intro healthy block member
    rcases block.storedKey_cases with absent | ⟨apiKey, present⟩
    · exact absent
    · exact
        False.elim
          (not_healthy_of_present clientDocumented missing present
            (healthy block member))
  · intro absent block member
    exact healthy_of_absent client _ (absent block member)

/-- The capabilities of `sc_offchain`, as far as they matter here. -/
def plainScOffchain : ScOffchain where
  capabilities options := ⟨options.enableHttpRequests⟩

theorem plainScOffchain_documented : plainScOffchain.Documented where
  http_eq _ := rfl

/-- The first block of a node that stores a key. -/
def keyedBlock : BestBlock (FrameSystem.listing 32) where
  number := 1
  positive := by decide
  localStorage := keyStore (Utf8.encode "alpha")
  isText := by
    intro kind name bytes stored
    simp only [keyStore, OffchainDb.set] at stored
    split at stored
    · cases stored
      exact Utf8.wellFormed_encode _
    · cases stored
  clock := 0
  exchange := OffchainFetcher.answeringExchange (.endOfBody 0)
  chain := ⟨[], fun _ => none⟩

/-- A collator that runs off-chain workers. -/
def collatorConfig : Configuration :=
  ⟨true, true⟩

theorem keyedBlock_not_healthy :
    startParachainNode collatorConfig = some ⟨true, false⟩ ∧
      ¬ Healthy (HttpClient.reference _)
        (plainScOffchain.capabilities ⟨true, false⟩) keyedBlock :=
  ⟨rfl,
    not_healthy_of_present HttpClient.reference_documented rfl
      (storedKey_keyStore (Utf8.encode "alpha"))⟩

theorem healthy_iff_noKey_on_keyedBlock :
    (∀ block ∈ [keyedBlock],
        Healthy (HttpClient.reference _)
          (plainScOffchain.capabilities ⟨true, false⟩) block) ↔
      ∀ block ∈ [keyedBlock], storedKey block.localStorage = none :=
  healthy_iff_noKey HttpClient.reference_documented plainScOffchain_documented
    (show startParachainNode collatorConfig = some ⟨true, false⟩ from rfl)
    [keyedBlock]

end ConfidentialWorker.Node
