import ConfidentialWorker.Pallets.OffchainWorker

/-!
# Runs of the off-chain worker hook

A run is decided by what is stored under the key's name.

* Nothing: the hook logs the missing key and returns.
* No text: the hook panics in the lookup.
* A text: the hook logs it and goes on to the HTTP exchange, which the host
  either stops at the start of its request or lets run to the end.

Whatever happens, a run leaves local storage and the chain alone.
-/

namespace ConfidentialWorker.OffchainWorker

open Program

variable {width : ℕ} {frame : FrameSystem width} {χ : Type}

def pingRecord : LogRecord :=
  ⟨.trace, "logger", "Ping from offchain workers!"⟩

def keyRecord (apiKey : String) : LogRecord :=
  ⟨.info, target, "API key retrieved: " ++ apiKey⟩

/-- The records of a run that finds no key. -/
def missingKeyRecords : List LogRecord :=
  [pingRecord,
    ⟨.error, "offchain_utils::offchain_api_key",
      "API key not found in offchain storage"⟩,
    ⟨.error, target,
      "Failed to fetch API key: " ++ debug OffchainApiKey.missingOrInvalid⟩,
    ⟨.error, target, "Offchain worker error: " ++ debug keyNotFound⟩]

/-- What is stored under the key's name. -/
def storedKey (db : OffchainDb) : Option Bytes :=
  OffchainApiKey.stored db apiKeyName

def lookupCall : HostCall :=
  .localStorageGet .persistent (Utf8.encode apiKeyName)

/-! ## Looking up the key -/

theorem getApiKey_preserves
    {υ : Type} (view : Host χ → υ)
    (ignores :
      ∀ host issued records,
        view { host with calls := issued, log := records } = view host) :
    Preserves view (getApiKey : HostM χ (Except String String)) := by
  have lookup (key : Bytes) :
      Preserves view (HostM.localStorageGet .persistent key) :=
    HostM.preserves_call_answer (fun host => ignores host _ host.log)
      fun _ => rfl
  have logged (level : LogLevel) (target message : String) :
      Preserves view (HostM.log level target message) :=
    HostM.log_preserves view _ _ _ fun host records =>
      ignores host host.calls records
  apply respects_bind
  · apply respects_bind
    · apply respects_bind (lookup _)
      intro found
      cases found with
      | none =>
          exact respects_bind (logged _ _ _) fun _ => respects_pure _
      | some bytes =>
          simp only
          cases Utf8.decode bytes with
          | none =>
              exact respects_stop _
          | some text =>
              exact respects_pure _
    · intro found
      cases found <;> exact respects_pure _
  · intro found
    cases found with
    | ok apiKey =>
        exact respects_pure _
    | error err =>
        exact respects_bind (logged _ _ _) fun _ => respects_pure _

theorem getApiKey_of_absent
    {host : Host χ} (absent : storedKey host.localStorage = none) :
    ∃ reached,
      getApiKey host = (.ok (.error keyNotFound), reached) ∧
        reached.calls = host.calls ++ [lookupCall] ∧
          reached.log =
            host.log ++
              [⟨.error, "offchain_utils::offchain_api_key",
                  "API key not found in offchain storage"⟩,
                ⟨.error, target,
                  "Failed to fetch API key: " ++
                    debug OffchainApiKey.missingOrInvalid⟩] := by
  obtain ⟨asked, lookup, called, logged⟩ :=
    OffchainApiKey.fetchApiKeyForRequest_of_absent absent
  have run : getApiKey host = _ := bind_of_ok lookup _
  refine ⟨_, run, called, ?_⟩
  change asked.log ++ [_] = _
  rw [logged]
  simp

theorem getApiKey_of_text
    {host : Host χ} {apiKey : String}
    (present : storedKey host.localStorage = some (Utf8.encode apiKey)) :
    getApiKey host =
      (.ok (.ok apiKey), { host with calls := host.calls ++ [lookupCall] }) :=
  bind_of_ok (OffchainApiKey.fetchApiKeyForRequest_of_text present) _

theorem getApiKey_of_illFormed
    {host : Host χ} {bytes : Bytes}
    (present : storedKey host.localStorage = some bytes)
    (illFormed : ¬ Utf8.WellFormed bytes) :
    getApiKey host =
      (.error (.panic "Invalid UTF-8"),
        { host with calls := host.calls ++ [lookupCall] }) :=
  bind_of_error
    (OffchainApiKey.fetchApiKeyForRequest_of_illFormed present illFormed) _

/-! ## From the lookup on -/

theorem offchainWorker_of_absent
    (client : HttpClient (Chain frame)) (blockNumber : BlockNumber width)
    {host : Host (Chain frame)}
    (absent : storedKey host.localStorage = none) :
    ∃ reached,
      offchainWorker client blockNumber host = (.ok ⟨⟩, reached) ∧
        reached.calls = host.calls ++ [lookupCall] ∧
          reached.log = host.log ++ missingKeyRecords ∧
            reached.sentRequests = host.sentRequests := by
  have stillAbsent :
      storedKey (host.logged pingRecord).localStorage = none :=
    absent
  obtain ⟨asked, lookup, called, logged⟩ := getApiKey_of_absent stillAbsent
  have run : offchainWorker client blockNumber host = _ :=
    calc
      offchainWorker client blockNumber host = _ :=
        bind_of_ok (HostM.log_apply _ _ _ host) _
      _ = _ := bind_of_ok lookup _
  have sameSent :
      asked.sentRequests = (host.logged pingRecord).sentRequests :=
    (getApiKey_preserves Host.sentRequests fun _ _ _ => rfl).of_apply_eq lookup
  refine ⟨_, run, called, ?_, sameSent⟩
  change asked.log ++ [_] = _
  rw [logged]
  simp [Host.logged, missingKeyRecords]

/-- The host once the key has been found and logged. -/
def keyLogged (apiKey : String) (host : Host χ) : Host χ :=
  { host with
    calls := host.calls ++ [lookupCall]
    log := host.log ++ [pingRecord, keyRecord apiKey] }

theorem offchainWorker_of_text
    (client : HttpClient (Chain frame)) (blockNumber : BlockNumber width)
    {host : Host (Chain frame)} {apiKey : String}
    (present : storedKey host.localStorage = some (Utf8.encode apiKey)) :
    offchainWorker client blockNumber host =
      useApiKey client blockNumber apiKey (keyLogged apiKey host) := by
  have stillPresent :
      storedKey (host.logged pingRecord).localStorage =
        some (Utf8.encode apiKey) :=
    present
  have logged :
      ({ host.logged pingRecord with
          calls := host.calls ++ [lookupCall] }).logged (keyRecord apiKey) =
        keyLogged apiKey host := by
    simp [Host.logged, keyLogged]
  rw [← logged]
  calc
    offchainWorker client blockNumber host = _ :=
      bind_of_ok (HostM.log_apply _ _ _ host) _
    _ = _ := bind_of_ok (getApiKey_of_text stillPresent) _
    _ = _ := bind_of_ok (HostM.log_apply _ _ _ _) _

/-! ## Using the key -/

private theorem fetch_surroundings
    {client : HttpClient χ} (documented : client.Documented)
    (request : HttpRequest) :
    Preserves Host.surroundings (OffchainFetcher.fetch client request) := by
  intro host
  cases permits : host.capabilities.http with
  | false =>
      rw [final, OffchainFetcher.fetch_of_missing documented request permits]
      rfl
  | true =>
      by_cases goesOut : OffchainFetcher.RequestGoesOut request host
      · obtain ⟨_, reached, _, run, _, _, same, _⟩ :=
          OffchainFetcher.fetch_of_sent documented request permits goesOut
        rw [final, run]
        exact same
      · obtain ⟨_, reached, _, run, _, _, same⟩ :=
          OffchainFetcher.fetch_of_unsent documented request permits goesOut
        rw [final, run]
        exact congrArg Prod.fst same

/-- The host lets the hook's request go out.  No key decides this: the request
has one header whatever the key is. -/
def KeyedRequestGoesOut (host : Host χ) : Prop :=
  host.exchange.Sends 1 (some (OffchainFetcher.deadlineFrom host))

/-- What the hook's fetch comes to on a host that permits HTTP. -/
def FetchResult (host : Host χ) (result : Except String String) : Prop :=
  (KeyedRequestGoesOut host ∧
      result = OffchainFetcher.textOf host.exchange.fetched) ∨
    (¬ KeyedRequestGoesOut host ∧
      result = .error OffchainFetcher.sendFailed)

theorem fetchResult_unique
    {host : Host χ} {first second : Except String String}
    (firstResult : FetchResult host first)
    (secondResult : FetchResult host second) :
    first = second := by
  rcases firstResult with ⟨goesOut, firstEq⟩ | ⟨unsent, firstEq⟩
  · rcases secondResult with ⟨_, secondEq⟩ | ⟨unsent, _⟩
    · rw [firstEq, secondEq]
    · exact False.elim (unsent goesOut)
  · rcases secondResult with ⟨goesOut, _⟩ | ⟨_, secondEq⟩
    · exact False.elim (unsent goesOut)
    · rw [firstEq, secondEq]

/-- The request as the host sends it. -/
def keyedWire (apiKey : String) : WireRequest :=
  ⟨"GET", url, [("Authorization", apiKey)]⟩

/-- The hook's request is sent if the host lets it go out. -/
def SendsKeyed (apiKey : String) (host reached : Host χ) : Prop :=
  (KeyedRequestGoesOut host ∧
      reached.sentRequests = host.sentRequests ++ [keyedWire apiKey]) ∨
    (¬ KeyedRequestGoesOut host ∧
      reached.sentRequests = host.sentRequests)

theorem sendsKeyed_unique
    {apiKey : String} {host first second : Host χ}
    (firstSends : SendsKeyed apiKey host first)
    (secondSends : SendsKeyed apiKey host second) :
    first.sentRequests = second.sentRequests := by
  rcases firstSends with ⟨goesOut, firstEq⟩ | ⟨unsent, firstEq⟩
  · rcases secondSends with ⟨_, secondEq⟩ | ⟨unsent, _⟩
    · rw [firstEq, secondEq]
    · exact False.elim (unsent goesOut)
  · rcases secondSends with ⟨goesOut, _⟩ | ⟨_, secondEq⟩
    · exact False.elim (unsent goesOut)
    · rw [firstEq, secondEq]

/-- The calls that build the hook's request and finalise it. -/
def keyedCalls (apiKey : String) (id : RequestId) (deadline : Timestamp) :
    List HostCall :=
  [.httpRequestStart "GET" url,
    .httpRequestAddHeader id "Authorization" apiKey,
    .httpRequestWriteBody id [] (some deadline)]

/-- The calls build no request but the hook's, and that one in order: it is
finalised only after its one header has been added. -/
def BuildsKeyed (apiKey : String) (calls : List HostCall) : Prop :=
  ∃ id deadline,
    calls.filter HostCall.buildsRequest <+: keyedCalls apiKey id deadline

/-- A run that comes no further than the start of its request. -/
theorem buildsKeyed_of_start
    (apiKey : String) (before : List HostCall)
    (buildNothing : ∀ call ∈ before, call.buildsRequest = false) :
    BuildsKeyed apiKey (before ++ [.httpRequestStart "GET" url]) := by
  refine ⟨0, 0, ?_⟩
  have noneBuilds : before.filter HostCall.buildsRequest = [] := by
    rw [List.filter_eq_nil_iff]
    intro call member
    rw [buildNothing call member]
    exact Bool.false_ne_true
  rw [List.filter_append, noneBuilds, List.nil_append]
  exact List.prefix_append [HostCall.httpRequestStart "GET" url] _

private theorem buildsKeyed_of_prefix
    {apiKey : String} {id : RequestId} {deadline : Timestamp}
    {made : List HostCall}
    (planned : made <+: keyedCalls apiKey id deadline) :
    BuildsKeyed apiKey made := by
  have filtered := planned.filter HostCall.buildsRequest
  exact ⟨id, deadline, filtered⟩

private theorem buildsKeyed_of_whole
    (apiKey : String) (id : RequestId) (deadline : Timestamp)
    {reads : List HostCall}
    (readsOnly : ∀ call ∈ reads, call = .httpResponseReadBody id none) :
    BuildsKeyed apiKey
      (keyedCalls apiKey id deadline ++ .httpResponseWait id none :: reads) := by
  have noneBuilds : reads.filter HostCall.buildsRequest = [] := by
    rw [List.filter_eq_nil_iff]
    intro call member
    rw [readsOnly call member]
    simp [HostCall.buildsRequest]
  have building :
      (keyedCalls apiKey id deadline ++ .httpResponseWait id none :: reads).filter
          HostCall.buildsRequest =
        keyedCalls apiKey id deadline :=
    calc
      _ = keyedCalls apiKey id deadline ++ reads.filter HostCall.buildsRequest :=
        rfl
      _ = keyedCalls apiKey id deadline := by
        rw [noneBuilds, List.append_nil]
  exact ⟨id, deadline, [], by rw [List.append_nil, building]⟩

theorem fetchString_authenticated
    {client : HttpClient χ} (documented : client.Documented)
    (apiKey : String) {host : Host χ}
    (permits : host.capabilities.http = true) :
    ∃ result reached made,
      OffchainFetcher.fetchString client (authenticatedRequest apiKey) host =
          (.ok result, reached) ∧
        reached.calls =
            host.calls ++ .timestamp :: .httpRequestStart "GET" url :: made ∧
          BuildsKeyed apiKey (.httpRequestStart "GET" url :: made) ∧
            FetchResult host result ∧
              reached.surroundings = host.surroundings ∧
                SendsKeyed apiKey host reached := by
  by_cases goesOut :
      OffchainFetcher.RequestGoesOut (authenticatedRequest apiKey) host
  · obtain ⟨id, reached, reads, run, called, readsOnly, same, wire⟩ :=
      OffchainFetcher.fetch_of_sent documented _ permits goesOut
    refine
      ⟨_, reached, _, OffchainFetcher.fetchString_apply run, called,
        buildsKeyed_of_whole apiKey id _ readsOnly,
        Or.inl ⟨goesOut, rfl⟩, same, Or.inl ⟨goesOut, wire⟩⟩
  · obtain ⟨_, reached, _, run, called, planned, same⟩ :=
      OffchainFetcher.fetch_of_unsent documented _ permits goesOut
    refine
      ⟨_, reached, _, OffchainFetcher.fetchString_apply run, called,
        buildsKeyed_of_prefix planned,
        Or.inr ⟨goesOut, rfl⟩, congrArg Prod.fst same,
        Or.inr ⟨goesOut, congrArg Prod.snd same⟩⟩

/-- A host without the HTTP capability stops the run at the start of its
request. -/
theorem useApiKey_of_missing
    {client : HttpClient (Chain frame)} (documented : client.Documented)
    (blockNumber : BlockNumber width)
    (apiKey : String) {host : Host (Chain frame)}
    (missing : host.capabilities.http = false) :
    useApiKey client blockNumber apiKey host =
      (.error .missingCapability,
        { host with
          calls :=
            host.calls ++ [.timestamp, .httpRequestStart "GET" url] }) := by
  have fetched :=
    OffchainFetcher.fetch_of_missing documented (authenticatedRequest apiKey)
      missing
  have text :
      OffchainFetcher.fetchString client (authenticatedRequest apiKey) host =
        (.error .missingCapability,
          { host with
            calls :=
              host.calls ++ [.timestamp, .httpRequestStart "GET" url] }) :=
    bind_of_error fetched _
  exact bind_of_error text _

/-- A host that permits HTTP lets the run reach the end of the hook. -/
theorem useApiKey_of_permits
    {client : HttpClient (Chain frame)} (documented : client.Documented)
    (blockNumber : BlockNumber width) (apiKey : String)
    {host : Host (Chain frame)}
    (permits : host.capabilities.http = true) :
    ∃ result reached made,
      useApiKey client blockNumber apiKey host = (.ok ⟨⟩, reached) ∧
        reached.calls =
            host.calls ++ .timestamp :: .httpRequestStart "GET" url :: made ∧
          BuildsKeyed apiKey (.httpRequestStart "GET" url :: made) ∧
            FetchResult host result ∧
              reached.log =
                  host.log ++
                    [responseRecord result,
                      blockRecord host.chain blockNumber] ∧
                SendsKeyed apiKey host reached := by
  obtain ⟨result, fetched, made, run, called, built, fetchResult, same, wire⟩ :=
    fetchString_authenticated documented apiKey permits
  have sameLog : fetched.log = host.log :=
    congrArg (fun surroundings => surroundings.2.2.1) same
  have sameChain : fetched.chain = host.chain :=
    congrArg (fun surroundings => surroundings.2.2.2) same
  have finished : useApiKey client blockNumber apiKey host = _ :=
    bind_of_ok run _
  refine ⟨result, _, made, finished, called, built, fetchResult, ?_, wire⟩
  change (fetched.log ++ [_]) ++ [blockRecord fetched.chain blockNumber] = _
  rw [sameLog, sameChain]
  simp

/-! ## Runs that find a key -/

theorem offchainWorker_of_missing
    {client : HttpClient (Chain frame)} (documented : client.Documented)
    (blockNumber : BlockNumber width)
    {host : Host (Chain frame)} {apiKey : String}
    (missing : host.capabilities.http = false)
    (present : storedKey host.localStorage = some (Utf8.encode apiKey)) :
    offchainWorker client blockNumber host =
      (.error .missingCapability,
        { keyLogged apiKey host with
          calls :=
            host.calls ++ [lookupCall] ++
              [.timestamp, .httpRequestStart "GET" url] }) :=
  (offchainWorker_of_text client blockNumber present).trans
    (useApiKey_of_missing documented blockNumber apiKey missing)

theorem offchainWorker_of_permits
    {client : HttpClient (Chain frame)} (documented : client.Documented)
    (blockNumber : BlockNumber width)
    {host : Host (Chain frame)} {apiKey : String}
    (permits : host.capabilities.http = true)
    (present : storedKey host.localStorage = some (Utf8.encode apiKey)) :
    ∃ result reached made,
      offchainWorker client blockNumber host = (.ok ⟨⟩, reached) ∧
        reached.calls =
            host.calls ++
              lookupCall :: .timestamp :: .httpRequestStart "GET" url :: made ∧
          BuildsKeyed apiKey (.httpRequestStart "GET" url :: made) ∧
            FetchResult host result ∧
              reached.log =
                  host.log ++
                    [pingRecord, keyRecord apiKey, responseRecord result,
                      blockRecord host.chain blockNumber] ∧
                SendsKeyed apiKey host reached := by
  have keyedPermits : (keyLogged apiKey host).capabilities.http = true :=
    permits
  obtain ⟨result, reached, made, used, called, built, fetchResult, logged,
      wire⟩ :=
    useApiKey_of_permits documented blockNumber apiKey keyedPermits
  refine
    ⟨result, reached, made,
      (offchainWorker_of_text client blockNumber present).trans used, ?_,
      built, fetchResult, ?_, wire⟩
  · simp [called, keyLogged]
  · simp [logged, keyLogged]

/-- Whatever the host answers, a run that finds a key builds the hook's request
with this key and no other, and sends it at most once. -/
theorem offchainWorker_requests
    {client : HttpClient (Chain frame)} (documented : client.Documented)
    (blockNumber : BlockNumber width)
    {host : Host (Chain frame)} {apiKey : String}
    (present : storedKey host.localStorage = some (Utf8.encode apiKey)) :
    ∃ result reached made,
      offchainWorker client blockNumber host = (result, reached) ∧
        reached.calls = host.calls ++ made ∧
          BuildsKeyed apiKey made ∧
            (reached.sentRequests = host.sentRequests ∨
              reached.sentRequests =
                host.sentRequests ++ [keyedWire apiKey]) := by
  cases permits : host.capabilities.http with
  | false =>
      have stopped :=
        offchainWorker_of_missing documented blockNumber permits present
      refine
        ⟨_, _, [lookupCall, .timestamp, .httpRequestStart "GET" url], stopped,
          ?_, buildsKeyed_of_start apiKey [lookupCall, .timestamp] ?_,
          Or.inl rfl⟩
      · simp
      · intro call member
        rcases List.mem_cons.mp member with rfl | member
        · rfl
        · rw [List.mem_singleton.mp member]
          rfl
  | true =>
      obtain ⟨_, reached, made, run, called, built, _, _, wire⟩ :=
        offchainWorker_of_permits documented blockNumber permits present
      refine ⟨_, reached, _, run, called, built, ?_⟩
      rcases wire with ⟨_, sent⟩ | ⟨_, unsent⟩
      · exact Or.inr sent
      · exact Or.inl unsent

/-! ## What no run changes -/

/-- Local storage, the chain and the capabilities. -/
def backdrop (host : Host χ) : Capabilities × OffchainDb × χ :=
  (host.capabilities, host.localStorage, host.chain)

theorem useApiKey_backdrop
    {client : HttpClient (Chain frame)} (documented : client.Documented)
    (blockNumber : BlockNumber width) (apiKey : String) :
    Preserves backdrop (useApiKey client blockNumber apiKey) := by
  have fetched (request : HttpRequest) :
      Preserves backdrop (OffchainFetcher.fetch client request) := by
    intro host
    have same := fetch_surroundings documented request host
    simp only [Host.surroundings, Prod.mk.injEq] at same
    simp only [backdrop, same]
  apply respects_bind
  · apply respects_bind (fetched _)
    intro result
    cases result with
    | error error =>
        exact respects_pure _
    | ok bytes =>
        simp only
        cases Utf8.decode bytes <;> exact respects_pure _
  · intro result
    apply respects_bind (HostM.log_preserves _ _ _ _ fun _ _ => rfl)
    intro _
    apply respects_bind
    · exact respects_read _
    · intro record
      exact HostM.log_preserves _ _ _ _ fun _ _ => rfl

/-- A run of the hook, however it ends, changes neither local storage nor the
chain. -/
theorem offchainWorker_backdrop
    {client : HttpClient (Chain frame)} (documented : client.Documented)
    (blockNumber : BlockNumber width) :
    Preserves backdrop (offchainWorker client blockNumber) := by
  apply respects_bind (HostM.log_preserves _ _ _ _ fun _ _ => rfl)
  intro _
  apply respects_bind (getApiKey_preserves backdrop fun _ _ _ => rfl)
  intro found
  cases found with
  | ok apiKey =>
      apply respects_bind (HostM.log_preserves _ _ _ _ fun _ _ => rfl)
      intro _
      exact useApiKey_backdrop documented blockNumber apiKey
  | error e =>
      exact HostM.log_preserves _ _ _ _ fun _ _ => rfl

end ConfidentialWorker.OffchainWorker
