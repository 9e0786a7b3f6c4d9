import ConfidentialWorker.Host.Interface
import ConfidentialWorker.Library.Hex

/-!
# `inject-api-key.sh`

The script writes the key in hexadecimal, posts it to the RPC of a node, asks
for the stored value, and reports success.  It stops early only when a command
fails; what the node answers is printed and not looked at.

The node's RPC is not part of the repository.  It is the parameter
`RpcEndpoint`, and `RpcEndpoint.Documented` states what the two methods do to
local storage.
-/

namespace ConfidentialWorker.InjectApiKey

open Program

/-! ## The commands -/

/-- The arguments that the builtin `echo` takes for options. -/
def isEchoOption (argument : String) : Bool :=
  match argument.toList with
  | '-' :: letter :: rest =>
      (letter :: rest).all fun option =>
        option = 'n' ∨ option = 'e' ∨ option = 'E'
  | _ => false

/-- `echo -n "$argument"`. -/
def echoN (argument : String) : Bytes :=
  if isEchoOption argument then [] else Utf8.encode argument

/-- `xxd -p` from the given column on: a line holds thirty bytes. -/
def xxdFrom (column : ℕ) : Bytes → List Char
  | [] => if column = 0 then [] else ['\n']
  | byte :: rest =>
      Hex.encodeByte byte ++
        if column + 1 = 30 then
          '\n' :: xxdFrom 0 rest
        else
          xxdFrom (column + 1) rest

/-- `tr -d`. -/
def trDelete (letter : Char) (text : List Char) : List Char :=
  text.filter (· ≠ letter)

/-- `$(echo -n "$argument" | xxd -p | tr -d '\n')`. -/
def hexOf (argument : String) : String :=
  String.ofList (trDelete '\n' (xxdFrom 0 (echoN argument)))

/-- `${value:-default}`. -/
def orDefault (value : Option String) (default : String) : String :=
  match value with
  | none => default
  | some given => if given = "" then default else given

def setRequest (storageKeyHex apiKeyHex : String) : String :=
  "\x7b\n    \"jsonrpc\": \"2.0\",\n    \"id\": 1,\n" ++
    "    \"method\": \"offchain_localStorageSet\",\n" ++
    "    \"params\": [\n      \"PERSISTENT\",\n" ++
    "      \"0x" ++ storageKeyHex ++ "\",\n" ++
    "      \"0x" ++ apiKeyHex ++ "\"\n    ]\n  \x7d"

def getRequest (storageKeyHex : String) : String :=
  "\x7b\n    \"jsonrpc\": \"2.0\",\n    \"id\": 1,\n" ++
    "    \"method\": \"offchain_localStorageGet\",\n" ++
    "    \"params\": [\n      \"PERSISTENT\",\n" ++
    "      \"0x" ++ storageKeyHex ++ "\"\n    ]\n  \x7d"

/-! ## The node's RPC -/

/-- A JSON-RPC response, which may be an error object. -/
structure RpcResponse where
  isError : Bool
  text : String
  deriving DecidableEq, Repr

/-- How `curl` ends: it fails, or it prints the response. -/
inductive Posted where
  | failed (exitStatus : ℕ)
  | answered (response : RpcResponse)
  deriving DecidableEq, Repr

/-- What posting a body to a URL leads to, for the caller and for the node's
local storage. -/
structure RpcEndpoint where
  post : (url body : String) → OffchainDb → Posted × OffchainDb

structure RpcEndpoint.Documented (endpoint : RpcEndpoint) : Prop where
  localStorageSet :
    ∀ url storageKeyHex apiKeyHex key value db response after,
      Hex.decode storageKeyHex.toList = some key →
      Hex.decode apiKeyHex.toList = some value →
      endpoint.post url (setRequest storageKeyHex apiKeyHex) db =
          (.answered response, after) →
        after =
          if response.isError then db else db.set .persistent key value
  localStorageGet :
    ∀ url storageKeyHex key db response after,
      Hex.decode storageKeyHex.toList = some key →
      endpoint.post url (getRequest storageKeyHex) db =
          (.answered response, after) →
        after = db

/-! ## The script -/

structure Shell where
  nodeStorage : OffchainDb
  output : List String

/-- Under `set -e` a script stops with the status of a command that fails. -/
abbrev Script (α : Type) := Program Shell ℕ α

/-- One `echo` for each line. -/
def echo (lines : List String) : Script PUnit :=
  Program.modify fun shell => { shell with output := shell.output ++ lines }

/-- `$(curl -s -X POST "$url" .. -d "$body")`. -/
def curl (endpoint : RpcEndpoint) (url body : String) : Script String :=
  fun shell =>
    match endpoint.post url body shell.nodeStorage with
    | (.failed exitStatus, after) =>
        (.error exitStatus, { shell with nodeStorage := after })
    | (.answered response, after) =>
        (.ok response.text, { shell with nodeStorage := after })

def storageKey : String := "api_key"

def successLine : String := "✅ API key injected successfully!"

def nodeUrlOf (nodeUrl : Option String) : String :=
  orDefault nodeUrl "http://localhost:9944"

def apiKeyOf (argument : Option String) : String :=
  orDefault argument "my_secret_api_key_12345"

def injectApiKey (endpoint : RpcEndpoint) (argument nodeUrl : Option String) :
    Script PUnit := do
  echo
    ["╔═══════════════════════════════════════════════════════════╗",
      "║   Inject API Key into Offchain Storage                   ║",
      "╚═══════════════════════════════════════════════════════════╝", ""]
  echo
    ["🔑 Injecting API key into offchain storage...",
      "   Storage key: " ++ storageKey,
      "   API key: " ++ apiKeyOf argument,
      "   Node URL: " ++ nodeUrlOf nodeUrl, ""]
  let response ←
    curl endpoint (nodeUrlOf nodeUrl)
      (setRequest (hexOf storageKey) (hexOf (apiKeyOf argument)))
  echo ["Response: " ++ response, ""]
  echo ["🔍 Verifying storage..."]
  let verify ←
    curl endpoint (nodeUrlOf nodeUrl) (getRequest (hexOf storageKey))
  echo ["Verification: " ++ verify, ""]
  echo
    [successLine, "",
      "The offchain worker can now use this API key to make authenticated requests."]

/-- The script runs to its end and says that the key was injected. -/
def ReportsSuccess (script : Script PUnit) (shell : Shell) : Prop :=
  script.outcome shell = .ok ⟨⟩ ∧ successLine ∈ (script.final shell).output

/-! ## What the encoder writes -/

private theorem trDelete_encodeByte (byte : UInt8) :
    trDelete '\n' (Hex.encodeByte byte) = Hex.encodeByte byte := by
  apply List.filter_eq_self.mpr
  intro letter member
  have notNewline : letter ≠ '\n' := by
    intro newline
    rw [newline] at member
    exact Hex.newline_not_mem_encodeByte byte member
  simpa using notNewline

/-- Without its line breaks, the dump is the plain hexadecimal text. -/
theorem trDelete_xxdFrom (column : ℕ) (bytes : Bytes) :
    trDelete '\n' (xxdFrom column bytes) = Hex.encode bytes := by
  have appended (left right : List Char) :
      trDelete '\n' (left ++ right) =
        trDelete '\n' left ++ trDelete '\n' right :=
    List.filter_append _ _
  have broken (text : List Char) :
      trDelete '\n' ('\n' :: text) = trDelete '\n' text := by
    simp [trDelete]
  induction bytes generalizing column with
  | nil =>
      by_cases atStart : column = 0
      · simp [xxdFrom, atStart, trDelete, Hex.encode]
      · simp [xxdFrom, atStart, trDelete, Hex.encode]
  | cons byte rest inductionHypothesis =>
      have encoded :
          Hex.encode (byte :: rest) =
            Hex.encodeByte byte ++ Hex.encode rest :=
        rfl
      rw [xxdFrom, appended, trDelete_encodeByte, encoded]
      congr 1
      by_cases lineFull : column + 1 = 30
      · rw [if_pos lineFull, broken, inductionHypothesis]
      · rw [if_neg lineFull, inductionHypothesis]

theorem decode_hexOf (argument : String) :
    Hex.decode (hexOf argument).toList = some (echoN argument) := by
  rw [hexOf, String.toList_ofList, trDelete_xxdFrom, Hex.decode_encode]

theorem echoN_of_not_option
    {argument : String} (plain : isEchoOption argument = false) :
    echoN argument = Utf8.encode argument := by
  simp [echoN, plain]

theorem orDefault_of_nonempty
    {given : String} (nonempty : given ≠ "") (default : String) :
    orDefault (some given) default = given :=
  if_neg nonempty

/-! ## Runs of the script -/

section Runs

variable {endpoint : RpcEndpoint} {argument nodeUrl : Option String}
  {shell : Shell}

/-- The first call, which writes the key. -/
def setCall (endpoint : RpcEndpoint) (argument nodeUrl : Option String)
    (db : OffchainDb) : Posted × OffchainDb :=
  endpoint.post (nodeUrlOf nodeUrl)
    (setRequest (hexOf storageKey) (hexOf (apiKeyOf argument))) db

/-- The second call, which asks for what is stored. -/
def getCall (endpoint : RpcEndpoint) (nodeUrl : Option String)
    (db : OffchainDb) : Posted × OffchainDb :=
  endpoint.post (nodeUrlOf nodeUrl) (getRequest (hexOf storageKey)) db

private theorem echo_apply (lines : List String) (shell : Shell) :
    echo lines shell =
      (.ok ⟨⟩, { shell with output := shell.output ++ lines }) :=
  rfl

private theorem curl_of_failed
    {url body : String} {db after : OffchainDb} {exitStatus : ℕ}
    (failed : endpoint.post url body db = (.failed exitStatus, after))
    (output : List String) :
    curl endpoint url body ⟨db, output⟩ =
      (.error exitStatus, ⟨after, output⟩) := by
  simp only [curl, failed]

private theorem curl_of_answered
    {url body : String} {db after : OffchainDb} {response : RpcResponse}
    (answered : endpoint.post url body db = (.answered response, after))
    (output : List String) :
    curl endpoint url body ⟨db, output⟩ =
      (.ok response.text, ⟨after, output⟩) := by
  simp only [curl, answered]

theorem not_reportsSuccess_of_set_failed
    {exitStatus : ℕ} {after : OffchainDb}
    (failed :
      setCall endpoint argument nodeUrl shell.nodeStorage =
        (.failed exitStatus, after)) :
    ¬ ReportsSuccess (injectApiKey endpoint argument nodeUrl) shell := by
  have run :
      injectApiKey endpoint argument nodeUrl shell = (.error exitStatus, _) :=
    calc
      injectApiKey endpoint argument nodeUrl shell = _ :=
        bind_of_ok (echo_apply _ _) _
      _ = _ := bind_of_ok (echo_apply _ _) _
      _ = _ := bind_of_error (curl_of_failed failed _) _
  rintro ⟨finished, _⟩
  rw [outcome, run] at finished
  cases finished

theorem not_reportsSuccess_of_get_failed
    {response : RpcResponse} {exitStatus : ℕ} {written after : OffchainDb}
    (set :
      setCall endpoint argument nodeUrl shell.nodeStorage =
        (.answered response, written))
    (failed : getCall endpoint nodeUrl written = (.failed exitStatus, after)) :
    ¬ ReportsSuccess (injectApiKey endpoint argument nodeUrl) shell := by
  have run :
      injectApiKey endpoint argument nodeUrl shell = (.error exitStatus, _) :=
    calc
      injectApiKey endpoint argument nodeUrl shell = _ :=
        bind_of_ok (echo_apply _ _) _
      _ = _ := bind_of_ok (echo_apply _ _) _
      _ = _ := bind_of_ok (curl_of_answered set _) _
      _ = _ := bind_of_ok (echo_apply _ _) _
      _ = _ := bind_of_ok (echo_apply _ _) _
      _ = _ := bind_of_error (curl_of_failed failed _) _
  rintro ⟨finished, _⟩
  rw [outcome, run] at finished
  cases finished

/-- Whatever the node answers, the script reports success. -/
theorem reportsSuccess_of_answered
    {setResponse getResponse : RpcResponse} {written after : OffchainDb}
    (set :
      setCall endpoint argument nodeUrl shell.nodeStorage =
        (.answered setResponse, written))
    (get : getCall endpoint nodeUrl written = (.answered getResponse, after)) :
    ReportsSuccess (injectApiKey endpoint argument nodeUrl) shell ∧
      ((injectApiKey endpoint argument nodeUrl).final shell).nodeStorage =
        after := by
  have run :
      injectApiKey endpoint argument nodeUrl shell = (.ok ⟨⟩, _) :=
    calc
      injectApiKey endpoint argument nodeUrl shell = _ :=
        bind_of_ok (echo_apply _ _) _
      _ = _ := bind_of_ok (echo_apply _ _) _
      _ = _ := bind_of_ok (curl_of_answered set _) _
      _ = _ := bind_of_ok (echo_apply _ _) _
      _ = _ := bind_of_ok (echo_apply _ _) _
      _ = _ := bind_of_ok (curl_of_answered get _) _
      _ = _ := bind_of_ok (echo_apply _ _) _
      _ = _ := echo_apply _ _
  refine ⟨⟨congrArg Prod.fst run, ?_⟩, ?_⟩
  · rw [final, run]
    simp
  · rw [final, run]

end Runs

end ConfidentialWorker.InjectApiKey
