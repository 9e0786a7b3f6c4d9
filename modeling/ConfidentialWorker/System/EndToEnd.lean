import ConfidentialWorker.ApiServer.Credentials
import ConfidentialWorker.InjectApiKey.Availability
import ConfidentialWorker.InjectApiKey.RequestBodies
import ConfidentialWorker.System.KeyRotation

/-!
# From the script to the server

The whole demonstration: keys are injected by the script or stored by the node
itself, the hook runs, and its request is answered by the API server.

What lies under the worker's key is known from what the commands reported: it
is the key of the last call that the node accepted.  Whether a run gets the
confidential data is decided by this key and the server's alone.
-/

namespace ConfidentialWorker

open Program OffchainWorker InjectApiKey ApiServer

variable {width : ℕ} {frame : FrameSystem width}

/-- An operation of the node, or a run of `inject-api-key.sh` against it. -/
inductive Command (frame : FrameSystem width) where
  | node (operation : Operation frame)
  | inject (argument nodeUrl : Option String)

/-- What is reported of a command; of the script also the response to the call
that writes the key, which it prints. -/
inductive Outcome (frame : FrameSystem width) where
  | node (report : Report frame)
  | script (result : Except ℕ PUnit) (output : List String) (write : Posted)

/-- The text that `echo -n` prints. -/
def printedText (argument : String) : String :=
  if isEchoOption argument then "" else argument

/-- The text that a command has put under the worker's key. -/
def puts : Command frame × Outcome frame → Option String
  | (.node operation, _) => operation.stores apiKeyName
  | (.inject argument _, .script (.ok _) _ (.answered response)) =>
      if response.isError then none else some (printedText (apiKeyOf argument))
  | _ => none

/-- The command wrote no raw bytes, or is a script that reported success. -/
def settled : Command frame × Outcome frame → Bool
  | (.node operation, _) => !operation.isRawWrite
  | (.inject _ _, .script (.ok _) output _) => successLine ∈ output
  | _ => false

namespace World

def command (endpoint : RpcEndpoint) (client : HttpClient (Chain frame))
    (world : World frame) : Command frame → Outcome frame × World frame
  | .node operation =>
      let (report, reached) := step client world operation
      (.node report, reached)
  | .inject argument nodeUrl =>
      let (result, shell) :=
        injectApiKey endpoint argument nodeUrl ⟨world.localStorage, []⟩
      (.script result shell.output
          (setCall endpoint argument nodeUrl world.localStorage).1,
        { world with localStorage := shell.nodeStorage })

end World

/-! ## What is stored -/

theorem echoN_eq (argument : String) :
    echoN argument = Utf8.encode (printedText argument) := by
  unfold echoN printedText
  by_cases isOption : isEchoOption argument = true
  · simp [isOption, Utf8.encode]
  · simp [isOption]

/-- A script that reports success has had both of its calls answered. -/
theorem answered_of_reportsSuccess
    {endpoint : RpcEndpoint} {argument nodeUrl : Option String}
    {shell : Shell}
    (reported :
      ReportsSuccess (injectApiKey endpoint argument nodeUrl) shell) :
    ∃ setResponse written getResponse after,
      setCall endpoint argument nodeUrl shell.nodeStorage =
          (.answered setResponse, written) ∧
        getCall endpoint nodeUrl written = (.answered getResponse, after) := by
  rcases set : setCall endpoint argument nodeUrl shell.nodeStorage with
    ⟨exitStatus | setResponse, written⟩
  · exact absurd reported (not_reportsSuccess_of_set_failed set)
  · rcases get : getCall endpoint nodeUrl written with
      ⟨exitStatus | getResponse, after⟩
    · exact absurd reported (not_reportsSuccess_of_get_failed set get)
    · exact ⟨setResponse, written, getResponse, after, rfl, get⟩

namespace World

theorem command_inject (endpoint : RpcEndpoint)
    (client : HttpClient (Chain frame)) (world : World frame)
    (argument nodeUrl : Option String) :
    command endpoint client world (.inject argument nodeUrl) =
      (.script
          ((injectApiKey endpoint argument nodeUrl).outcome
            ⟨world.localStorage, []⟩)
          ((injectApiKey endpoint argument nodeUrl).final
            ⟨world.localStorage, []⟩).output
          (setCall endpoint argument nodeUrl world.localStorage).1,
        { world with
          localStorage :=
            ((injectApiKey endpoint argument nodeUrl).final
              ⟨world.localStorage, []⟩).nodeStorage }) :=
  rfl

theorem settled_inject_iff {endpoint : RpcEndpoint}
    {client : HttpClient (Chain frame)} {world : World frame}
    {argument nodeUrl : Option String} :
    settled
          (.inject argument nodeUrl,
            (command endpoint client world (.inject argument nodeUrl)).1) =
        true ↔
      ReportsSuccess (injectApiKey endpoint argument nodeUrl)
        ⟨world.localStorage, []⟩ := by
  rw [command_inject, ReportsSuccess]
  cases result :
      (injectApiKey endpoint argument nodeUrl).outcome
        ⟨world.localStorage, []⟩ with
  | error exitStatus =>
      exact iff_of_false nofun nofun
  | ok _ =>
      constructor
      · intro found
        exact ⟨rfl, of_decide_eq_true found⟩
      · intro reported
        exact decide_eq_true reported.2

/-- What a script that reports success has put there. -/
theorem puts_of_reportsSuccess {endpoint : RpcEndpoint}
    (client : HttpClient (Chain frame)) {world : World frame}
    {argument nodeUrl : Option String}
    (reported :
      ReportsSuccess (injectApiKey endpoint argument nodeUrl)
        ⟨world.localStorage, []⟩)
    {response : RpcResponse} {written : OffchainDb}
    (set :
      setCall endpoint argument nodeUrl world.localStorage =
        (.answered response, written)) :
    puts
        (.inject argument nodeUrl,
          (command endpoint client world (.inject argument nodeUrl)).1) =
      if response.isError then
        none
      else
        some (printedText (apiKeyOf argument)) := by
  rw [command_inject, reported.1, set]
  rfl

section Documented

variable {endpoint : RpcEndpoint} (rpcDocumented : endpoint.Documented)
  {client : HttpClient (Chain frame)} (documented : client.Documented)
include rpcDocumented documented

/-- One command changes what is stored under the key's name as it reports. -/
theorem command_stored (world : World frame) (given : Command frame)
    (isSettled :
      settled (given, (command endpoint client world given).1) = true) :
    storedKey (command endpoint client world given).2.localStorage =
      ((puts (given, (command endpoint client world given).1)).map
        Utf8.encode).or (storedKey world.localStorage) := by
  cases given with
  | node operation =>
      have notRaw : operation.isRawWrite = false := by
        simpa [settled] using isSettled
      exact step_stored documented world notRaw apiKeyName
  | inject argument nodeUrl =>
      have reported := settled_inject_iff.mp isSettled
      obtain ⟨setResponse, written, getResponse, after, set, get⟩ :=
        answered_of_reportsSuccess reported
      have storage := (reportsSuccess_of_answered set get).2
      have unchanged : after = written :=
        rpcDocumented.localStorageGet _ _ _ written getResponse after
          (decode_hexOf storageKey) get
      rw [puts_of_reportsSuccess client reported set, command_inject]
      change storedKey _ = _
      rw [storage, unchanged, storedKey_of_setCall rpcDocumented set, echoN_eq]
      cases setResponse.isError <;> rfl

/-- Under the worker's key lies what the commands so far report to have put
there last. -/
theorem reach_storedKey
    {start : World frame} (empty : start.localStorage = fun _ _ => none)
    (history : List (Command frame))
    (allSettled :
      ∀ entry ∈ History.trace (command endpoint client) start history,
        settled entry = true) :
    storedKey
        (History.reach (command endpoint client) start history).localStorage =
      (History.latest puts
        (History.trace (command endpoint client) start history)).map
          Utf8.encode := by
  refine
    History.reach_induction
      (fun before (world : World frame) =>
        (∀ entry ∈ History.trace (command endpoint client) start before,
          settled entry = true) →
          storedKey world.localStorage =
            (History.latest puts
              (History.trace (command endpoint client) start before)).map
                Utf8.encode)
      ?_ ?_ history allSettled
  · intro _
    rw [empty]
    rfl
  · intro before given world reached inductionHypothesis settledAll
    rw [History.trace_snoc, ← reached] at settledAll ⊢
    have settledBefore :
        ∀ entry ∈ History.trace (command endpoint client) start before,
          settled entry = true :=
      fun entry member => settledAll entry (List.mem_append_left _ member)
    have settledHere :=
      settledAll (given, (command endpoint client world given).1) (by simp)
    rw [command_stored rpcDocumented documented world given settledHere,
      inductionHypothesis settledBefore, History.latest_snoc]
    cases puts (given, (command endpoint client world given).1) <;> rfl

end Documented

end World

/-! ## The answer of the server -/

section Server

variable {parse : UrlParser}
  (servesPath : parse "/basic-auth" = some (some "/basic-auth"))

/-- What the hook makes of the server's answer to a request. -/
def answerTo (apiKeyEnv : Option String) (timestamp : IsoTimestamp)
    (req : IncomingMessage) : Except String String :=
  if KeyAccepted apiKeyEnv req then
    .ok (Json.stringify 2 (responseData timestamp))
  else
    .error OffchainFetcher.non200

include servesPath in
/-- The server answers the worker's request by its header alone. -/
theorem answer_of_routed
    {key : String} {req : IncomingMessage} (routed : Routed (keyedWire key) req)
    (apiKeyEnv : Option String) (timestamp : IsoTimestamp) :
    answer parse apiKeyEnv timestamp req =
      some
        (if KeyAccepted apiKeyEnv req then
          jsonResponse 200 2 (responseData timestamp)
        else
          jsonResponse 401 0 unauthorized) := by
  have method : req.method = "GET" := routed.method
  have notPreflight : req.method ≠ "OPTIONS" := by
    rw [method]
    decide
  have notHead : req.method ≠ "HEAD" := by
    rw [method]
    decide
  have parsed : parse req.url = some (some "/basic-auth") := by
    rw [routed.url]
    exact servesPath
  rw [answer_of_parsed parsed, Response.sentTo_of_not_head notHead]
  by_cases accepted : KeyAccepted apiKeyEnv req
  · rw [if_pos accepted, respond_of_protected notPreflight accepted (by decide)]
  · rw [if_neg accepted, respond_of_refused notPreflight accepted]

/-- For a clean key the header is as good as the key. -/
theorem keyAccepted_iff_of_clean
    {key : String} (printable : PrintableAscii key) (clean : CleanKey key)
    {req : IncomingMessage} (routed : Routed (keyedWire key) req)
    (apiKeyEnv : Option String) :
    KeyAccepted apiKeyEnv req ↔ key = validApiKey apiKeyEnv := by
  obtain ⟨sent, arrived, headers, authorization, arrives⟩ :=
    routed.authorization
  have sameSent : key = sent := by
    simpa [keyedWire] using headers
  rw [← sameSent] at arrives
  have presented : presentedKey (req.authorization.getD "") = key := by
    rw [authorization, Option.getD_some, arrived_eq_of_clean clean arrives]
    exact (presentedKey_eq_self_iff printable).mpr clean
  rw [KeyAccepted, presented]

include servesPath in
theorem fetchResult_of_routed
    {key : String} {req : IncomingMessage} (routed : Routed (keyedWire key) req)
    {apiKeyEnv : Option String} {timestamp : IsoTimestamp}
    {host : Host (Chain frame)} {response : Response}
    (answered : answer parse apiKeyEnv timestamp req = some response)
    (delivers : Delivers host response) :
    FetchResult host (answerTo apiKeyEnv timestamp req) := by
  rw [answer_of_routed servesPath routed, Option.some.injEq] at answered
  rw [← answered] at delivers
  refine Or.inl ⟨delivers.goesOut, ?_⟩
  unfold answerTo
  by_cases accepted : KeyAccepted apiKeyEnv req
  · rw [if_pos accepted] at delivers ⊢
    have fetched :
        host.exchange.fetched =
          .ok (Utf8.encode (Json.stringify 2 (responseData timestamp))) :=
      (OffchainFetcher.fetched_ok_iff _ _).mpr
        ⟨delivers.status, delivers.whole⟩
    rw [fetched, OffchainFetcher.textOf, Utf8.decode_encode]
  · rw [if_neg accepted] at delivers ⊢
    have refused : host.exchange.fetched = .error OffchainFetcher.non200 := by
      rw [Exchange.fetched, delivers.status]
      rfl
    rw [refused, OffchainFetcher.textOf]

end Server

/-- The run sends its one request with the key, and logs what the server makes
of the request. -/
def RunGetsAnswer (key : String) (answer : Except String String)
    (blockNumber : BlockNumber width) (chain : Chain frame)
    (outcome : Outcome frame) : Prop :=
  ∃ reached,
    outcome = .node (.ran (.ok ⟨⟩) reached) ∧
      reached.sentRequests = [keyedWire key] ∧
        reached.log =
          [pingRecord, keyRecord key, responseRecord answer,
            blockRecord chain blockNumber]

/-- A run with the key that the commands report to have put last gets the data
or a refusal, as the server takes the header; it takes that of a clean key for
the key itself. -/
structure GetsAnswer (key : String) (apiKeyEnv : Option String)
    (timestamp : IsoTimestamp) (req : IncomingMessage)
    (blockNumber : BlockNumber width) (chain : Chain frame)
    (outcome : Outcome frame) : Prop where
  ran :
    RunGetsAnswer key (answerTo apiKeyEnv timestamp req) blockNumber chain
      outcome
  decidedByKey :
    PrintableAscii key → CleanKey key →
      (KeyAccepted apiKeyEnv req ↔ key = validApiKey apiKeyEnv)

namespace World

/-- Whatever was injected, stored and run before, a run of the hook whose
request the server answers gets the confidential data or a refusal, as the key
that was accepted last decides. -/
theorem worker_getsAnswer
    {endpoint : RpcEndpoint} (rpcDocumented : endpoint.Documented)
    {client : HttpClient (Chain frame)} (documented : client.Documented)
    {start : World frame} (empty : start.localStorage = fun _ _ => none)
    {history : List (Command frame)}
    (allSettled :
      ∀ entry ∈ History.trace (command endpoint client) start history,
        settled entry = true)
    {key : String}
    (latest :
      History.latest puts
          (History.trace (command endpoint client) start history) =
        some key)
    {environment : Environment frame} (own : environment.elsewhere = none)
    (permits : environment.capabilities.http = true)
    {parse : UrlParser}
    (servesPath : parse "/basic-auth" = some (some "/basic-auth"))
    {req : IncomingMessage} (routed : Routed (keyedWire key) req)
    {apiKeyEnv : Option String} {timestamp : IsoTimestamp}
    {response : Response}
    (answered : answer parse apiKeyEnv timestamp req = some response)
    (delivers :
      Delivers
        ((History.reach (command endpoint client) start history).host
          environment)
        response)
    (blockNumber : BlockNumber width) :
    GetsAnswer key apiKeyEnv timestamp req blockNumber
      (History.reach (command endpoint client) start history).chain
      (command endpoint client
        (History.reach (command endpoint client) start history)
        (.node (.offchainWorker environment blockNumber))).1 := by
  refine
    ⟨?_, fun printable clean =>
      keyAccepted_iff_of_clean printable clean routed apiKeyEnv⟩
  have stored := reach_storedKey rpcDocumented documented empty history allSettled
  rw [latest] at stored
  generalize History.reach (command endpoint client) start history = world
    at stored delivers ⊢
  have hostPermits : (world.host environment).capabilities.http = true :=
    permits
  obtain ⟨result, reached, _, run, _, _, fetched, logged, wire⟩ :=
    offchainWorker_of_permits documented blockNumber hostPermits stored
  have expected := fetchResult_of_routed servesPath routed answered delivers
  rw [fetchResult_unique fetched expected] at logged
  have stepped :
      (step client world (.offchainWorker environment blockNumber)).1 =
        .ran (.ok ⟨⟩) reached := by
    rw [step, runOffchain_own _ own, outcome, final, run]
  refine ⟨reached, congrArg Outcome.node stepped, ?_, logged⟩
  rcases wire with ⟨_, sent⟩ | ⟨unsent, _⟩
  · exact sent
  · exact absurd delivers.goesOut unsent

end World

/-! The demonstration as it comes: the script and the server are given no key,
and the node has an accepting RPC. -/

def defaultKey : String := "my_secret_api_key_12345"

/-- An environment in which the response is delivered at once. -/
def Environment.delivering (environment : Environment frame)
    (response : Response) : Environment frame :=
  { environment with exchange := deliveringExchange response }

theorem delivers_on (environment : Environment frame) (world : World frame)
    (response : Response) :
    Delivers (world.host (environment.delivering response)) response :=
  deliveringExchange_delivers (world.host environment) response

def plainRequest : IncomingMessage :=
  ⟨"GET", "/basic-auth", some defaultKey, get_ne_connect⟩

theorem reportsSuccess_on_readingNode (shell : Shell) :
    ReportsSuccess (injectApiKey readingNode none none) shell := by
  have set :
      setCall readingNode none none shell.nodeStorage = (.answered _, _) :=
    readingNode_set (decode_hexOf storageKey) (decode_hexOf _) _ _
  have get (db : OffchainDb) :
      getCall readingNode none db = (.answered _, _) :=
    readingNode_get (decode_hexOf storageKey) _ db
  exact (reportsSuccess_of_answered set (get _)).1

theorem worker_getsAnswer_by_default :
    GetsAnswer defaultKey none newYear plainRequest 1
      (History.reach (World.command readingNode (HttpClient.reference _))
        emptyWorld [.inject none none]).chain
      (World.command readingNode (HttpClient.reference _)
        (History.reach (World.command readingNode (HttpClient.reference _))
          emptyWorld [.inject none none])
        (.node
          (.offchainWorker
            (ownEnvironment.delivering
              (jsonResponse 200 2 (responseData newYear))) 1))).1 := by
  have reported :=
    reportsSuccess_on_readingNode ⟨emptyWorld.localStorage, []⟩
  have set :
      setCall readingNode none none emptyWorld.localStorage =
        (.answered _, _) :=
    readingNode_set (decode_hexOf storageKey) (decode_hexOf _) _ _
  have put :=
    World.puts_of_reportsSuccess (HttpClient.reference _) reported set
  have routed : Routed (keyedWire defaultKey) plainRequest :=
    ⟨rfl, rfl, defaultKey, defaultKey, rfl, rfl, [], [], by simp, by simp,
      by simp⟩
  have servesPath : plainParser "/basic-auth" = some (some "/basic-auth") :=
    rfl
  have accepted : KeyAccepted none plainRequest := by
    decide
  have answered :
      answer plainParser none newYear plainRequest =
        some (jsonResponse 200 2 (responseData newYear)) := by
    rw [answer_of_routed servesPath routed, if_pos accepted]
  refine
    World.worker_getsAnswer readingNode_documented
      HttpClient.reference_documented rfl ?_ ?_ rfl rfl
      servesPath routed answered
      (delivers_on ownEnvironment _ _) 1
  · intro entry member
    rw [List.mem_singleton.mp member]
    exact World.settled_inject_iff.mpr reported
  · have only :
        History.latest puts
            (History.trace
              (World.command readingNode (HttpClient.reference _)) emptyWorld
              [.inject none none]) =
          puts
            (.inject none none,
              (World.command readingNode (HttpClient.reference _) emptyWorld
                (.inject none none)).1) := by
      rw [History.trace, History.trace, ← List.nil_append [_],
        History.latest_snoc]
      exact Option.or_none
    rw [only, put]
    decide

end ConfidentialWorker
