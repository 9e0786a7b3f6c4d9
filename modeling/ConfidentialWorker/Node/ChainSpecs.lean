import ConfidentialWorker.Runtime.Fees

/-!
# Chain specifications and genesis presets

A node is started for a chain that is named on its command line: one of the
two that the node knows, or the path of a specification in JSON.  The known
specifications name a preset of the runtime for their genesis.

The para id occurs twice, in the extensions of a specification and in the
genesis that its preset builds.  The node collates for the first, the runtime
answers to the second.
-/

namespace ConfidentialWorker.Node

/-- The extensions of a chain specification. -/
structure Extensions where
  relayChain : String
  paraId : UInt32
  deriving DecidableEq, Repr

inductive ChainType
  | development
  | live
  | localChain
  deriving DecidableEq, Repr

/-- Where a chain specification has its genesis from. -/
inductive Genesis
  | preset (name : String)
  | inFile
  deriving DecidableEq, Repr

structure ChainSpec where
  name : String
  id : String
  chainType : ChainType
  genesis : Genesis
  protocolId : Option String
  properties : List (String × (String ⊕ ℕ))
  extensions : Extensions
  deriving DecidableEq, Repr

/-- `sp_genesis_builder::DEV_RUNTIME_PRESET`. -/
def devRuntimePreset : String := "development"

/-- `sp_genesis_builder::LOCAL_TESTNET_RUNTIME_PRESET`. -/
def localTestnetRuntimePreset : String := "local_testnet"

def developmentConfig : ChainSpec where
  name := "Development"
  id := "dev"
  chainType := .development
  genesis := .preset devRuntimePreset
  protocolId := none
  -- The source fills a table of properties and does not pass it on.
  properties := []
  extensions := { relayChain := "rococo-local", paraId := 1000 }

def localTestnetConfig : ChainSpec where
  name := "Local Testnet"
  id := "local_testnet"
  chainType := .localChain
  genesis := .preset localTestnetRuntimePreset
  protocolId := some "template-local"
  properties :=
    [("tokenSymbol", .inl "UNIT"), ("tokenDecimals", .inr 12),
      ("ss58Format", .inr 42)]
  extensions := { relayChain := "rococo-local", paraId := 1000 }

/-- The chain specification of a chain id; `fromJsonFile` reads files. -/
def loadSpec (fromJsonFile : String → Except String ChainSpec) :
    String → Except String ChainSpec
  | "dev" => .ok developmentConfig
  | "template-rococo" => .ok localTestnetConfig
  | "" => .ok localTestnetConfig
  | "local" => .ok localTestnetConfig
  | path => fromJsonFile path

/-- The chain ids that are not paths. -/
def knownChains : List String :=
  ["dev", "template-rococo", "", "local"]

/-! ## Genesis -/

/-- Accounts and keys as the libraries derive them from seeds, and the version
of XCM they speak. -/
structure Primitives where
  AccountId : Type
  AuraId : Type
  accountIdFromSeed : String → AccountId
  collatorKeysFromSeed : String → AuraId
  xcmVersion : ℕ

/-- `EXISTENTIAL_DEPOSIT`. -/
def existentialDeposit : Balance := milliUnit

/-- The genesis of the runtime, as far as the presets set it. -/
structure RuntimeGenesisConfig (lib : Primitives) where
  balances : List (lib.AccountId × Balance)
  parachainId : UInt32
  invulnerables : List lib.AccountId
  candidacyBond : Balance
  /-- Account, validator and session keys. -/
  sessionKeys : List (lib.AccountId × lib.AccountId × lib.AuraId)
  safeXcmVersion : Option ℕ
  sudoKey : Option lib.AccountId

variable (lib : Primitives)

def testnetGenesis
    (invulnerables : List (lib.AccountId × lib.AuraId))
    (endowedAccounts : List lib.AccountId)
    (root : lib.AccountId) (id : UInt32) :
    RuntimeGenesisConfig lib where
  balances := endowedAccounts.map fun account => (account, 1 <<< 60)
  parachainId := id
  invulnerables := invulnerables.map Prod.fst
  candidacyBond := existentialDeposit * 16
  sessionKeys :=
    invulnerables.map fun collator =>
      (collator.1, collator.1, collator.2)
  safeXcmVersion := some lib.xcmVersion
  sudoKey := some root

def initialCollators : List String :=
  ["Alice", "Bob"]

def endowedSeeds : List String :=
  ["Alice", "Bob", "Charlie", "Dave", "Eve", "Ferdie", "Alice//stash",
    "Bob//stash", "Charlie//stash", "Dave//stash", "Eve//stash",
    "Ferdie//stash"]

/-- The genesis in which the accounts of the usual seeds are endowed. -/
def seededGenesis (id : UInt32) : RuntimeGenesisConfig lib :=
  testnetGenesis lib
    (initialCollators.map fun seed =>
      (lib.accountIdFromSeed seed, lib.collatorKeysFromSeed seed))
    (endowedSeeds.map lib.accountIdFromSeed)
    (lib.accountIdFromSeed "Alice") id

def localTestnetGenesis : RuntimeGenesisConfig lib :=
  seededGenesis lib 1000

def developmentConfigGenesis : RuntimeGenesisConfig lib :=
  seededGenesis lib 1000

/-- The predefined genesis of a name. -/
def getPreset (id : String) : Option (RuntimeGenesisConfig lib) :=
  if id = localTestnetRuntimePreset then some (localTestnetGenesis lib)
  else if id = devRuntimePreset then some (developmentConfigGenesis lib)
  else none

/-- A specification and the genesis of its preset agree about the para id. -/
def ChainSpec.Coherent (spec : ChainSpec) : Prop :=
  ∃ name config,
    spec.genesis = .preset name ∧
      getPreset lib name = some config ∧
        config.parachainId = spec.extensions.paraId

private theorem developmentConfig_coherent :
    developmentConfig.Coherent lib :=
  ⟨devRuntimePreset, developmentConfigGenesis lib, rfl, rfl, rfl⟩

private theorem localTestnetConfig_coherent :
    localTestnetConfig.Coherent lib :=
  ⟨localTestnetRuntimePreset, localTestnetGenesis lib, rfl, rfl, rfl⟩

/-- Known chains are loaded from no file. -/
theorem loadSpec_of_known
    (fromJsonFile : String → Except String ChainSpec)
    {id : String} (known : id ∈ knownChains) :
    ∃ spec, loadSpec fromJsonFile id = .ok spec ∧ spec.Coherent lib := by
  simp only [knownChains, List.mem_cons, List.not_mem_nil, or_false] at known
  rcases known with isDev | isRococo | isEmpty | isLocal
  · rw [isDev]
    exact ⟨_, rfl, developmentConfig_coherent lib⟩
  · rw [isRococo]
    exact ⟨_, rfl, localTestnetConfig_coherent lib⟩
  · rw [isEmpty]
    exact ⟨_, rfl, localTestnetConfig_coherent lib⟩
  · rw [isLocal]
    exact ⟨_, rfl, localTestnetConfig_coherent lib⟩

end ConfidentialWorker.Node
