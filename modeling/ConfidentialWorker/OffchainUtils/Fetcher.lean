import ConfidentialWorker.Host.ClientRuns

/-!
# `offchain-utils`: HTTP requests

`OffchainFetcher` sends a GET request with the headers of an `HttpRequest`,
waits for the response and reads its body.  Either the request does not go out,
or it does and the result is the one that `Exchange.fetched` reads off the
host's answers.
-/

namespace ConfidentialWorker

/-- A struct representing an HTTP request configuration. -/
structure HttpRequest where
  url : String
  headers : List (String × String)
  deriving DecidableEq, Repr

namespace HttpRequest

def new (url : String) : HttpRequest :=
  ⟨url, []⟩

def addHeader (request : HttpRequest) (key value : String) : HttpRequest :=
  { request with headers := request.headers ++ [(key, value)] }

end HttpRequest

namespace OffchainFetcher

open Program Http

variable {χ : Type}

def sendFailed : String := "Failed to send HTTP request"

def noResponse : String := "No response received"

def non200 : String := "Non-200 response code received"

def notUtf8 : String := "Failed to parse response as UTF-8"

def timeout : Duration := 2000

/-- Send an HTTP request and return the response body. -/
def fetch (client : HttpClient χ) (request : HttpRequest) :
    HostM χ (Except String Bytes) := do
  let requestBuilder :=
    request.headers.foldl
      (fun builder header => client.addHeader builder header.1 header.2)
      (client.get request.url)
  let deadline := (← HostM.timestamp).add timeout
  match ← client.send (client.deadline requestBuilder deadline) with
  | .error _ => pure (.error sendFailed)
  | .ok pending =>
      match ← client.wait pending with
      | .error _ => pure (.error noResponse)
      | .ok response =>
          if response.code ≠ 200 then
            pure (.error non200)
          else
            -- `collect` keeps the bytes and drops the iterator, and with it
            -- the error the iterator may have recorded.
            let (bytes, _) ← client.collect (client.body response)
            pure (.ok bytes)

/-- Send an HTTP request and return the response as a UTF-8 string. -/
def fetchString (client : HttpClient χ) (request : HttpRequest) :
    HostM χ (Except String String) := do
  match ← fetch client request with
  | .error error => pure (.error error)
  | .ok bytes =>
      match Utf8.decode bytes with
      | some text => pure (.ok text)
      | none => pure (.error notUtf8)

/-! ## The request that is built -/

/-- The request the fetcher hands to the client. -/
def built (request : HttpRequest) (deadline : Timestamp) : Request :=
  ⟨"GET", request.url, request.headers, some deadline⟩

/-- The loop over the headers keeps all of them, in their order. -/
private theorem foldl_addHeader
    {client : HttpClient χ} (documented : client.Documented) :
    ∀ (headers : List (String × String)) (builder : Request),
      headers.foldl
          (fun builder header => client.addHeader builder header.1 header.2)
          builder =
        { builder with headers := builder.headers ++ headers }
  | [], builder => by
      simp
  | header :: rest, builder => by
      rw [List.foldl_cons, foldl_addHeader documented rest,
        documented.addHeader_eq]
      simp

private theorem builder_eq
    {client : HttpClient χ} (documented : client.Documented)
    (request : HttpRequest) (deadline : Timestamp) :
    client.deadline
        (request.headers.foldl
          (fun builder header => client.addHeader builder header.1 header.2)
          (client.get request.url))
        deadline =
      built request deadline := by
  rw [foldl_addHeader documented, documented.get_eq, documented.deadline_eq]
  rfl

end OffchainFetcher

/-! ## One run -/

/-- The result of an exchange whose request goes out. -/
def Exchange.fetched (exchange : Exchange) : Except String Bytes :=
  match exchange.wait.value with
  | .ioError => .error OffchainFetcher.noResponse
  | .invalid => .error OffchainFetcher.noResponse
  | .finished code =>
      if code ≠ 200 then
        .error OffchainFetcher.non200
      else
        .ok exchange.body.chunks.flatten

namespace OffchainFetcher

open Program Http

variable {χ : Type}

/-- The deadline of an exchange that starts on this host. -/
def deadlineFrom (host : Host χ) : Timestamp :=
  host.clock.add timeout

/-- The host lets the request of this exchange go out. -/
def RequestGoesOut (request : HttpRequest) (host : Host χ) : Prop :=
  host.exchange.Sends request.headers.length (some (deadlineFrom host))

/-- Without the HTTP capability a fetch is stopped at the start of its
request. -/
theorem fetch_of_missing
    {client : HttpClient χ} (documented : client.Documented)
    (request : HttpRequest) {host : Host χ}
    (missing : host.capabilities.http = false) :
    fetch client request host =
      (.error .missingCapability,
        { host with
          calls :=
            host.calls ++
              [.timestamp, .httpRequestStart "GET" request.url] }) := by
  have clockRun := HostM.timestamp_apply host
  generalize clocked :
    { host with calls := host.calls ++ [HostCall.timestamp] } = started
      at clockRun
  have startedMissing : started.capabilities.http = false := by
    rw [← clocked]
    exact missing
  have startRun :
      HostM.httpRequestStart "GET" request.url started =
        (.error .missingCapability,
          { started with
            calls :=
              started.calls ++ [.httpRequestStart "GET" request.url] }) :=
    bind_of_error (HostM.call_apply_of_missing rfl startedMissing) _
  have sendRun :
      sendCalls (built request (deadlineFrom host)) started = _ :=
    bind_of_error startRun _
  rw [← documented.send_eq, ← builder_eq documented] at sendRun
  calc
    fetch client request host = _ := bind_of_ok clockRun _
    _ = _ := bind_of_error sendRun _
    _ = _ := by
      rw [← clocked]
      simp

/-- The host accepts the sending call of this exchange at the given place. -/
def Accepts (request : HttpRequest) (host : Host χ) (index : ℕ) : Prop :=
  host.exchange.accepts request.headers.length (some (deadlineFrom host))
      index =
    true

/-- A fetch whose request does not go out ends with the first sending call
that the host refuses. -/
theorem fetch_of_refused
    {client : HttpClient χ} (documented : client.Documented)
    (request : HttpRequest) {host : Host χ}
    (permits : host.capabilities.http = true)
    (unsent : ¬ RequestGoesOut request host) :
    ∃ id reached count,
      fetch client request host = (.ok (.error sendFailed), reached) ∧
        reached.calls =
            host.calls ++
              .timestamp ::
                ((built request (deadlineFrom host)).plannedCalls id).take
                  (count + 1) ∧
          count < ((built request (deadlineFrom host)).plannedCalls id).length ∧
            (∀ index < count, Accepts request host index) ∧
              ¬ Accepts request host count ∧
                reached.readFrame = host.readFrame := by
  have clockRun := HostM.timestamp_apply host
  generalize clocked :
    { host with calls := host.calls ++ [HostCall.timestamp] } = started
      at clockRun
  have startedPermits : started.capabilities.http = true := by
    rw [← clocked]
    exact permits
  have startedUnsent :
      ¬ started.exchange.Sends request.headers.length
          (some (deadlineFrom host)) := by
    rw [← clocked]
    exact unsent
  obtain ⟨error, id, reached, count, sendRun, sendCalled, bound, before, here,
      sameSent⟩ :=
    sendCalls_apply_unsent (built request (deadlineFrom host)) startedPermits
      startedUnsent
  have kept := (sendCalls_kept _).of_apply_eq sendRun
  rw [← clocked] at before here
  refine ⟨id, reached, count, ?_, ?_, bound, before, ?_, ?_⟩
  · rw [← documented.send_eq, ← builder_eq documented] at sendRun
    calc
      fetch client request host = _ := bind_of_ok clockRun _
      _ = _ := bind_of_ok sendRun _
  · rw [sendCalled, ← clocked]
    simp
  · intro accepted
    exact Bool.false_ne_true (here.symm.trans accepted)
  · have surroundings : reached.surroundings = started.surroundings :=
      congrArg Prod.fst kept
    rw [Host.readFrame, Host.readFrame, surroundings, sameSent, ← clocked]
    rfl

theorem fetch_of_unsent
    {client : HttpClient χ} (documented : client.Documented)
    (request : HttpRequest) {host : Host χ}
    (permits : host.capabilities.http = true)
    (unsent : ¬ RequestGoesOut request host) :
    ∃ id reached made,
      fetch client request host = (.ok (.error sendFailed), reached) ∧
        reached.calls =
            host.calls ++
              .timestamp :: .httpRequestStart "GET" request.url :: made ∧
          (.httpRequestStart "GET" request.url :: made) <+:
              (built request (deadlineFrom host)).plannedCalls id ∧
            reached.readFrame = host.readFrame := by
  obtain ⟨id, reached, count, run, called, _, _, _, frame⟩ :=
    fetch_of_refused documented request permits unsent
  have planned :=
    List.take_prefix (count + 1)
      ((built request (deadlineFrom host)).plannedCalls id)
  exact ⟨id, reached, _, run, called, planned, frame⟩

/-- What is left of a fetch once the request is out. -/
def awaitBody (client : HttpClient χ) (pending : PendingRequest) :
    HostM χ (Except String Bytes) := do
  match ← client.wait pending with
  | .error _ => pure (.error noResponse)
  | .ok response =>
      if response.code ≠ 200 then
        pure (.error non200)
      else
        let (bytes, _) ← client.collect (client.body response)
        pure (.ok bytes)

/-- Sending leaves what the host will answer as it was. -/
private theorem fetch_sends
    {client : HttpClient χ} (documented : client.Documented)
    (request : HttpRequest) {host : Host χ}
    (permits : host.capabilities.http = true)
    (goesOut : RequestGoesOut request host) :
    ∃ id sent,
      fetch client request host = awaitBody client ⟨id⟩ sent ∧
        sent.calls =
            host.calls ++
              .timestamp ::
                (built request (deadlineFrom host)).plannedCalls id ∧
          sent.kept = host.kept ∧
            sent.sentRequests =
              host.sentRequests ++ [⟨"GET", request.url, request.headers⟩] := by
  have clockRun := HostM.timestamp_apply host
  generalize clocked :
    { host with calls := host.calls ++ [HostCall.timestamp] } = started
      at clockRun
  have startedPermits : started.capabilities.http = true := by
    rw [← clocked]
    exact permits
  have startedSends :
      started.exchange.Sends request.headers.length
          (some (deadlineFrom host)) := by
    rw [← clocked]
    exact goesOut
  obtain ⟨id, sent, sendRun, sendCalled, sendWire⟩ :=
    sendCalls_apply_sent (built request (deadlineFrom host)) startedPermits
      startedSends
  have sentKept : sent.kept = started.kept :=
    (sendCalls_kept _).of_apply_eq sendRun
  refine ⟨id, sent, ?_, ?_, ?_, ?_⟩
  · rw [← documented.send_eq, ← builder_eq documented] at sendRun
    calc
      fetch client request host = _ := bind_of_ok clockRun _
      _ = _ := bind_of_ok sendRun _
  · rw [sendCalled, ← clocked]
    simp
  · rw [sentKept, ← clocked]
    rfl
  · rw [sendWire, ← clocked]
    rfl

/-- Once the request is out, the result is read off the host's answers. -/
private theorem awaitBody_apply
    {client : HttpClient χ} (documented : client.Documented)
    (id : RequestId) {host : Host χ}
    (permits : host.capabilities.http = true) :
    ∃ reached made,
      awaitBody client ⟨id⟩ host = (.ok host.exchange.fetched, reached) ∧
        reached.calls = host.calls ++ .httpResponseWait id none :: made ∧
          (∀ call ∈ made, call = .httpResponseReadBody id none) ∧
            reached.readFrame = host.readFrame := by
  obtain ⟨waited, waitRun, waitCalled⟩ := waitCalls_apply ⟨id⟩ permits
  have waitFrame :
      (waited.readFrame, waited.exchange) = (host.readFrame, host.exchange) :=
    (waitCalls_readFrame ⟨id⟩).of_apply_eq waitRun
  simp only [Prod.mk.injEq] at waitFrame
  obtain ⟨waitedFrame, waitedExchange⟩ := waitFrame
  rw [← documented.wait_eq] at waitRun
  have awaitRun : awaitBody client ⟨id⟩ host = _ := bind_of_ok waitRun _
  cases status : host.exchange.wait.value with
  | ioError | invalid =>
      refine ⟨waited, [], ?_, waitCalled, by simp, waitedFrame⟩
      rw [awaitRun, Exchange.fetched, status]
      rfl
  | finished code =>
      rw [status] at awaitRun
      by_cases accepted : code = 200
      · have waitedPermits : waited.capabilities.http = true := by
          rw [show waited.capabilities = host.capabilities from
            congrArg (fun frame => frame.1.1) waitedFrame]
          exact permits
        obtain ⟨reached, made, collectRun, collectCalled, reads, frame⟩ :=
          collect_apply documented id waitedPermits
        rw [waitedExchange] at collectRun
        refine
          ⟨reached, .httpResponseReadBody id none :: made, ?_, ?_, ?_,
            frame.trans waitedFrame⟩
        · have collected :
              awaitBody client ⟨id⟩ host =
                (client.collect ⟨id, none⟩ >>= fun result =>
                  pure (.ok result.1)) waited := by
            rw [awaitRun]
            simp [WaitStatus.response, accepted, documented.body_eq]
          rw [collected, bind_of_ok collectRun, Exchange.fetched, status]
          simp [accepted]
        · rw [collectCalled, waitCalled]
          simp
        · intro call member
          rcases List.mem_cons.mp member with first | later
          · exact first
          · exact reads call later
      · refine ⟨waited, [], ?_, waitCalled, by simp, waitedFrame⟩
        rw [awaitRun, Exchange.fetched, status]
        simp [WaitStatus.response, accepted]

/-- A fetch whose request goes out is given the host's answers, and neither
waiting nor reading is given a deadline. -/
theorem fetch_of_sent
    {client : HttpClient χ} (documented : client.Documented)
    (request : HttpRequest) {host : Host χ}
    (permits : host.capabilities.http = true)
    (goesOut : RequestGoesOut request host) :
    ∃ id reached made,
      fetch client request host = (.ok host.exchange.fetched, reached) ∧
        reached.calls =
            host.calls ++
              .timestamp ::
                ((built request (deadlineFrom host)).plannedCalls id ++
                  .httpResponseWait id none :: made) ∧
          (∀ call ∈ made, call = .httpResponseReadBody id none) ∧
            reached.surroundings = host.surroundings ∧
              reached.sentRequests =
                host.sentRequests ++ [⟨"GET", request.url, request.headers⟩] := by
  obtain ⟨id, sent, sendRun, sendCalled, sentKept, sentWire⟩ :=
    fetch_sends documented request permits goesOut
  have sentSurroundings : sent.surroundings = host.surroundings :=
    congrArg Prod.fst sentKept
  have sameReply : sent.reply = host.reply :=
    congrArg Prod.snd sentKept
  have sentPermits : sent.capabilities.http = true := by
    rw [Host.capabilities_of_kept sentKept]
    exact permits
  have sameFetched : sent.exchange.fetched = host.exchange.fetched := by
    have sameWait : sent.exchange.wait = host.exchange.wait :=
      congrArg Prod.fst sameReply
    have sameBody : sent.exchange.body = host.exchange.body :=
      congrArg Prod.snd sameReply
    rw [Exchange.fetched, Exchange.fetched, sameWait, sameBody]
  obtain ⟨reached, made, awaitRun, awaitCalled, reads, frame⟩ :=
    awaitBody_apply documented id sentPermits
  refine ⟨id, reached, made, ?_, ?_, reads, ?_, ?_⟩
  · rw [sendRun, awaitRun, sameFetched]
  · rw [awaitCalled, sendCalled]
    simp
  · exact (congrArg Prod.fst frame).trans sentSurroundings
  · exact (congrArg Prod.snd frame).trans sentWire

end OffchainFetcher

end ConfidentialWorker
