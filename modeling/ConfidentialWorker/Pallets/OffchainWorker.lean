import ConfidentialWorker.OffchainUtils.OffchainApiKey
import ConfidentialWorker.OffchainUtils.FetchGuarantees
import ConfidentialWorker.Runtime.Frame

/-!
# The off-chain worker pallet

The dispatchable `do_something` and the hook `offchain_worker`.  The hook looks
up the API key in local storage, sends an authenticated request and logs what
came back.  It runs over a host whose on-chain state is the runtime's.
-/

namespace ConfidentialWorker.OffchainWorker

open Program

variable {width : ℕ} {frame : FrameSystem width}

def doSomething (pallet : PalletInfo) (origin : frame.Origin) (bn : UInt32) :
    DispatchM frame PUnit :=
  DispatchM.storeSomething pallet origin bn

/-! ## The hook -/

/-- The character escapes of `{:?}` on a string, for printable text. -/
def escapeDebug : Char → List Char
  | '"' => ['\\', '"']
  | '\\' => ['\\', '\\']
  | '\n' => ['\\', 'n']
  | '\r' => ['\\', 'r']
  | '\t' => ['\\', 't']
  | other => [other]

/-- `{:?}` on a string. -/
def debug (text : String) : String :=
  "\"" ++ String.ofList (text.toList.flatMap escapeDebug) ++ "\""

def target : String := "pallet_offchain_worker::pallet"

/-- The name under which the worker's key is stored. -/
def apiKeyName : String := "api_key"

def keyNotFound : String := "API key not found in offchain storage"

def getApiKey {χ : Type} : HostM χ (Except String String) := do
  match ← OffchainApiKey.fetchApiKeyForRequest apiKeyName with
  | .ok key => pure (.ok key)
  | .error err =>
      HostM.log .error target ("Failed to fetch API key: " ++ debug err)
      pure (.error keyNotFound)

def url : String := "https://postman-echo.com/basic-auth"

/-- The request the hook builds from the key. -/
def authenticatedRequest (apiKey : String) : HttpRequest :=
  (HttpRequest.new url).addHeader "Authorization" apiKey

def responseRecord : Except String String → LogRecord
  | .ok response => ⟨.info, target, "Response: " ++ response⟩
  | .error e => ⟨.error, target, "Failed to fetch data: " ++ debug e⟩

def logRecord {χ : Type} (record : LogRecord) : HostM χ PUnit :=
  HostM.log record.level record.target record.message

/-- The record about the block and its parent hash. -/
def blockRecord (chain : Chain frame) (blockNumber : BlockNumber width) :
    LogRecord :=
  -- `block_number - 1u32.into()`: a release build wraps below zero.
  let parentHash := frame.blockHash chain.system (blockNumber - 1)
  ⟨.debug, target,
    "Current block: " ++ toString blockNumber.toNat ++
      " (parent hash: 0x" ++ parentHash.toHex ++ ")"⟩

/-- What the hook does with a key. -/
def useApiKey (client : HttpClient (Chain frame))
    (blockNumber : BlockNumber width) (apiKey : String) :
    HostM (Chain frame) PUnit := do
  let response ←
    OffchainFetcher.fetchString client (authenticatedRequest apiKey)
  logRecord (responseRecord response)
  let record ← Program.read fun host => blockRecord host.chain blockNumber
  logRecord record

/-- Offchain Worker entry point. -/
def offchainWorker (client : HttpClient (Chain frame))
    (blockNumber : BlockNumber width) : HostM (Chain frame) PUnit := do
  HostM.log .trace "logger" "Ping from offchain workers!"
  match ← getApiKey with
  | .ok apiKey =>
      HostM.log .info target ("API key retrieved: " ++ apiKey)
      useApiKey client blockNumber apiKey
  | .error e =>
      -- Exit early if the API key is missing.
      HostM.log .error target ("Offchain worker error: " ++ debug e)

end ConfidentialWorker.OffchainWorker
