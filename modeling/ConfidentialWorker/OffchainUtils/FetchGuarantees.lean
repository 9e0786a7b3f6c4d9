import ConfidentialWorker.OffchainUtils.Fetcher

/-!
# What a fetch promises

Two promises a caller may expect of `fetch`, with the exact inputs on which
the code keeps them:

* only a complete response is returned.  The iterator over the body also ends
  when a read fails, so a body that is cut off is returned as a shorter one;
* the deadline covers the whole exchange.  Only the sending calls carry it, so
  it covers an exchange exactly when the request does not go out.
-/

namespace ConfidentialWorker.OffchainFetcher

open Program Http

variable {χ : Type}

/-! ## Complete responses -/

/-- The host delivers a whole response with the given body. -/
structure DeliversWhole
    (request : HttpRequest) (host : Host χ) (bytes : Bytes) : Prop where
  goesOut : RequestGoesOut request host
  accepted : host.exchange.wait.value = .finished 200
  ended : host.exchange.body.failure = none
  whole : host.exchange.body.chunks.flatten = bytes

/-- The response is accepted, but a read fails before its body ends. -/
structure BodyCutOff (request : HttpRequest) (host : Host χ) : Prop where
  goesOut : RequestGoesOut request host
  accepted : host.exchange.wait.value = .finished 200
  cut : host.exchange.body.failure ≠ none

/-- Every run returns, and it returns a body or a text only if that is the
whole of what the host delivers. -/
structure ResponseComplete
    (client : HttpClient χ) (request : HttpRequest) (host : Host χ) :
    Prop where
  fetchReturns : ∃ result, (fetch client request).outcome host = .ok result
  fetch_ok_iff :
    ∀ bytes,
      (fetch client request).outcome host = .ok (.ok bytes) ↔
        DeliversWhole request host bytes
  stringReturns :
    ∃ result, (fetchString client request).outcome host = .ok result
  string_ok_iff :
    ∀ text,
      (fetchString client request).outcome host = .ok (.ok text) ↔
        ∃ bytes,
          (fetch client request).outcome host = .ok (.ok bytes) ∧
            Utf8.WellFormed bytes ∧ Utf8.decode bytes = some text

theorem fetch_outcome
    {client : HttpClient χ} (documented : client.Documented)
    (request : HttpRequest) {host : Host χ}
    (permits : host.capabilities.http = true) :
    (RequestGoesOut request host ∧
        (fetch client request).outcome host = .ok host.exchange.fetched) ∨
      (¬ RequestGoesOut request host ∧
        (fetch client request).outcome host = .ok (.error sendFailed)) := by
  by_cases goesOut : RequestGoesOut request host
  · obtain ⟨_, _, _, run, _⟩ :=
      fetch_of_sent documented request permits goesOut
    exact Or.inl ⟨goesOut, congrArg Prod.fst run⟩
  · obtain ⟨_, _, _, run, _⟩ :=
      fetch_of_unsent documented request permits goesOut
    exact Or.inr ⟨goesOut, congrArg Prod.fst run⟩

/-- The text of a fetched body. -/
def textOf : Except String Bytes → Except String String
  | .error error => .error error
  | .ok bytes =>
      match Utf8.decode bytes with
      | some text => .ok text
      | none => .error notUtf8

theorem fetchString_apply
    {client : HttpClient χ} {request : HttpRequest} {host reached : Host χ}
    {result : Except String Bytes}
    (run : fetch client request host = (.ok result, reached)) :
    fetchString client request host = (.ok (textOf result), reached) := by
  rw [fetchString, bind_of_ok run]
  cases result with
  | error error =>
      rfl
  | ok bytes =>
      simp only [textOf]
      cases Utf8.decode bytes <;> rfl

theorem fetchString_outcome
    {client : HttpClient χ} {request : HttpRequest} {host : Host χ}
    {result : Except String Bytes}
    (fetched : (fetch client request).outcome host = .ok result) :
    (fetchString client request).outcome host = .ok (textOf result) := by
  have run :
      fetch client request host =
        (.ok result, (fetch client request).final host) :=
    Prod.ext fetched rfl
  exact congrArg Prod.fst (fetchString_apply run)

theorem fetched_ok_iff (exchange : Exchange) (bytes : Bytes) :
    exchange.fetched = .ok bytes ↔
      exchange.wait.value = .finished 200 ∧
        exchange.body.chunks.flatten = bytes := by
  unfold Exchange.fetched
  cases status : exchange.wait.value with
  | ioError | invalid =>
      simp
  | finished code =>
      by_cases accepted : code = 200
      · simp [accepted]
      · simp [accepted]

/-- A body that is cut off is returned like a whole one. -/
theorem fetch_ok_of_cutOff
    {client : HttpClient χ} (documented : client.Documented)
    {request : HttpRequest} {host : Host χ}
    (permits : host.capabilities.http = true)
    (cutOff : BodyCutOff request host) :
    (fetch client request).outcome host =
      .ok (.ok host.exchange.body.chunks.flatten) := by
  rcases fetch_outcome documented request permits with
    ⟨_, fetched⟩ | ⟨unsent, _⟩
  · rw [fetched]
    exact
      congrArg Except.ok
        ((fetched_ok_iff _ _).mpr ⟨cutOff.accepted, rfl⟩)
  · exact False.elim (unsent cutOff.goesOut)

theorem not_responseComplete_of_cutOff
    {client : HttpClient χ} (documented : client.Documented)
    {request : HttpRequest} {host : Host χ}
    (permits : host.capabilities.http = true)
    (cutOff : BodyCutOff request host) :
    ¬ ResponseComplete client request host := by
  intro complete
  have returned := fetch_ok_of_cutOff documented permits cutOff
  have delivered := (complete.fetch_ok_iff _).mp returned
  exact cutOff.cut delivered.ended

private theorem fetch_ok_iff_of_notCutOff
    {client : HttpClient χ} (documented : client.Documented)
    {request : HttpRequest} {host : Host χ}
    (permits : host.capabilities.http = true)
    (notCutOff : ¬ BodyCutOff request host) (bytes : Bytes) :
    (fetch client request).outcome host = .ok (.ok bytes) ↔
      DeliversWhole request host bytes := by
  rcases fetch_outcome documented request permits with
    ⟨goesOut, fetched⟩ | ⟨unsent, failed⟩
  · rw [fetched, Except.ok.injEq, fetched_ok_iff]
    constructor
    · rintro ⟨accepted, whole⟩
      have ended : host.exchange.body.failure = none := by
        by_contra cut
        exact notCutOff ⟨goesOut, accepted, cut⟩
      exact ⟨goesOut, accepted, ended, whole⟩
    · intro delivered
      exact ⟨delivered.accepted, delivered.whole⟩
  · rw [failed]
    constructor
    · intro impossible
      cases impossible
    · intro delivered
      exact False.elim (unsent delivered.goesOut)

private theorem string_ok_iff_fetch_ok
    {client : HttpClient χ} {request : HttpRequest} {host : Host χ}
    {result : Except String Bytes}
    (fetched : (fetch client request).outcome host = .ok result)
    (text : String) :
    (fetchString client request).outcome host = .ok (.ok text) ↔
      ∃ bytes,
        (fetch client request).outcome host = .ok (.ok bytes) ∧
          Utf8.WellFormed bytes ∧ Utf8.decode bytes = some text := by
  rw [fetchString_outcome fetched, fetched]
  cases result with
  | error error =>
      simp [textOf]
  | ok bytes =>
      cases decoded : Utf8.decode bytes with
      | none =>
          simp [textOf, decoded]
      | some found =>
          have wellFormed : Utf8.WellFormed bytes := by
            rw [← Utf8.decode_eq_some_iff.mp decoded]
            exact Utf8.wellFormed_encode found
          simp [textOf, decoded, wellFormed]

/-- A fetch keeps its promise on exactly those hosts that do not cut off the
body of an accepted response. -/
theorem responseComplete_iff
    {client : HttpClient χ} (documented : client.Documented)
    (request : HttpRequest) {host : Host χ}
    (permits : host.capabilities.http = true) :
    ResponseComplete client request host ↔ ¬ BodyCutOff request host := by
  constructor
  · intro complete cutOff
    exact not_responseComplete_of_cutOff documented permits cutOff complete
  · intro notCutOff
    obtain ⟨result, fetched⟩ :
        ∃ result, (fetch client request).outcome host = .ok result := by
      rcases fetch_outcome documented request permits with
        ⟨_, fetched⟩ | ⟨_, failed⟩
      · exact ⟨_, fetched⟩
      · exact ⟨_, failed⟩
    exact
      { fetchReturns := ⟨result, fetched⟩
        fetch_ok_iff :=
          fetch_ok_iff_of_notCutOff documented permits notCutOff
        stringReturns := ⟨_, fetchString_outcome fetched⟩
        string_ok_iff := string_ok_iff_fetch_ok fetched }

/-- A host that accepts every call and answers with the given body. -/
def answeringExchange (body : BodyReads) : Exchange where
  start := .ok 7
  addHeader := fun _ => .ok ()
  finalise := ⟨.ok (), 0⟩
  wait := ⟨.finished 200, 0⟩
  body := body

theorem answeringExchange_sends
    (body : BodyReads) (headers : ℕ) (deadline : Option Timestamp) :
    (answeringExchange body).Sends headers deadline where
  started := ⟨7, rfl⟩
  headersAdded _ _ := rfl
  finalised := by
    cases deadline with
    | none =>
        rfl
    | some limit =>
        simp [answeringExchange, Timed.answer, Expires]

/-- The host loses the connection after the first chunk of the body. -/
def cutOffHost : Host Unit :=
  Host.atStart ⟨true⟩ (fun _ _ => none) 0
    (answeringExchange (.chunk 0x68 [0x69] 0 (.failed .ioError 0))) ()

private theorem cutOffHost_bodyCutOff (request : HttpRequest) :
    BodyCutOff request cutOffHost where
  goesOut := answeringExchange_sends _ _ _
  accepted := rfl
  cut := by simp [cutOffHost, Host.atStart, answeringExchange, BodyReads.failure]

theorem responseComplete_fails_on_cutOffHost :
    ¬ ResponseComplete (HttpClient.reference Unit)
        (HttpRequest.new "https://postman-echo.com/basic-auth") cutOffHost :=
  not_responseComplete_of_cutOff HttpClient.reference_documented rfl
    (cutOffHost_bodyCutOff _)

theorem responseComplete_iff_on_cutOffHost :
    ResponseComplete (HttpClient.reference Unit)
        (HttpRequest.new "https://postman-echo.com/basic-auth") cutOffHost ↔
      ¬ BodyCutOff (HttpRequest.new "https://postman-echo.com/basic-auth")
        cutOffHost :=
  responseComplete_iff HttpClient.reference_documented _ rfl

/-! ## The deadline -/

/-- When the parts of the response are delivered: the head, then each chunk. -/
def deliveries (exchange : Exchange) : List Timestamp :=
  exchange.wait.available :: exchange.body.deliveries

/-- Some part of the response comes after the deadline of the exchange. -/
def DeliveredLate (host : Host χ) : Prop :=
  ∃ time ∈ deliveries host.exchange, deadlineFrom host < time

/-- A late response is never returned. -/
def LateFails
    (client : HttpClient χ) (request : HttpRequest) (host : Host χ) : Prop :=
  DeliveredLate host →
    ∃ error, (fetch client request).outcome host = .ok (.error error)

/-- Every blocking call of the exchange carries its deadline, and a late
response is never returned. -/
structure DeadlineCovers
    (client : HttpClient χ) (request : HttpRequest) (host : Host χ) :
    Prop where
  carried :
    ∀ call ∈ HostM.issued (fetch client request) host,
      ∀ deadline,
        call.blockingDeadline = some deadline →
          deadline = some (deadlineFrom host)
  lateFails : LateFails client request host

/-- The sending calls are the ones the deadline reaches. -/
private theorem plannedCalls_carry_deadline
    {request : Request} {id : RequestId} {call : HostCall}
    (planned : call ∈ request.plannedCalls id) {deadline : Option Timestamp}
    (blocks : call.blockingDeadline = some deadline) :
    deadline = request.deadline := by
  rcases List.mem_cons.mp planned with start | later
  · rw [start] at blocks
    cases blocks
  · rcases List.mem_append.mp later with header | write
    · obtain ⟨pair, _, equality⟩ := List.mem_map.mp header
      rw [← equality] at blocks
      cases blocks
    · rw [List.mem_singleton.mp write] at blocks
      cases blocks
      rfl

theorem deadlineCovers_of_unsent
    {client : HttpClient χ} (documented : client.Documented)
    {request : HttpRequest} {host : Host χ}
    (permits : host.capabilities.http = true)
    (unsent : ¬ RequestGoesOut request host) :
    DeadlineCovers client request host := by
  obtain ⟨id, reached, made, run, called, planned, _⟩ :=
    fetch_of_unsent documented request permits unsent
  constructor
  · intro call member deadline blocks
    rw [HostM.issued_of_apply_eq run called] at member
    rcases List.mem_cons.mp member with clock | sending
    · rw [clock] at blocks
      cases blocks
    · exact plannedCalls_carry_deadline (planned.subset sending) blocks
  · intro _
    exact ⟨sendFailed, congrArg Prod.fst run⟩

/-- Waiting for the response is a blocking call without a deadline. -/
private theorem wait_issued_of_sent
    {client : HttpClient χ} (documented : client.Documented)
    {request : HttpRequest} {host : Host χ}
    (permits : host.capabilities.http = true)
    (goesOut : RequestGoesOut request host) :
    ∃ id, .httpResponseWait id none ∈
      HostM.issued (fetch client request) host := by
  obtain ⟨id, reached, made, run, called, _⟩ :=
    fetch_of_sent documented request permits goesOut
  refine ⟨id, ?_⟩
  rw [HostM.issued_of_apply_eq run called]
  simp

theorem not_deadlineCovers_of_sent
    {client : HttpClient χ} (documented : client.Documented)
    {request : HttpRequest} {host : Host χ}
    (permits : host.capabilities.http = true)
    (goesOut : RequestGoesOut request host) :
    ¬ DeadlineCovers client request host := by
  intro covers
  obtain ⟨id, member⟩ := wait_issued_of_sent documented permits goesOut
  have carried := covers.carried _ member none rfl
  cases carried

theorem lateFails_iff_of_permits
    {client : HttpClient χ} (documented : client.Documented)
    {request : HttpRequest} {host : Host χ}
    (permits : host.capabilities.http = true) :
    LateFails client request host ↔
      ¬ (RequestGoesOut request host ∧
          host.exchange.wait.value = .finished 200 ∧ DeliveredLate host) := by
  rcases fetch_outcome documented request permits with
    ⟨goesOut, fetched⟩ | ⟨unsent, failed⟩
  · constructor
    · rintro lateFails ⟨_, accepted, late⟩
      obtain ⟨error, refused⟩ := lateFails late
      have returned :=
        (fetched_ok_iff host.exchange _).mpr ⟨accepted, rfl⟩
      rw [fetched, returned] at refused
      cases refused
    · intro notAccepted late
      cases result : host.exchange.fetched with
      | error error =>
          exact ⟨error, by rw [fetched, result]⟩
      | ok bytes =>
          have accepted := ((fetched_ok_iff _ _).mp result).1
          exact False.elim (notAccepted ⟨goesOut, accepted, late⟩)
  · constructor
    · rintro _ ⟨goesOut, _⟩
      exact unsent goesOut
    · intro _ _
      exact ⟨sendFailed, failed⟩

/-- The deadline covers an exchange exactly when the request does not go out;
and a late response is returned exactly when it is accepted. -/
theorem deadlineCovers_iff
    {client : HttpClient χ} (documented : client.Documented)
    (request : HttpRequest) {host : Host χ}
    (permits : host.capabilities.http = true) :
    (DeadlineCovers client request host ↔ ¬ RequestGoesOut request host) ∧
      (LateFails client request host ↔
        ¬ (RequestGoesOut request host ∧
            host.exchange.wait.value = .finished 200 ∧
              DeliveredLate host)) := by
  refine ⟨⟨?_, deadlineCovers_of_unsent documented permits⟩,
    lateFails_iff_of_permits documented permits⟩
  intro covers goesOut
  exact not_deadlineCovers_of_sent documented permits goesOut covers

/-- A host whose only chunk comes an hour after the request. -/
def tricklingHost : Host Unit :=
  Host.atStart ⟨true⟩ (fun _ _ => none) 0
    (answeringExchange (.chunk 0x68 [0x69] 3600000 (.endOfBody 3600000))) ()

theorem deadlineCovers_fails_on_tricklingHost :
    ¬ DeadlineCovers (HttpClient.reference Unit)
        (HttpRequest.new "https://postman-echo.com/basic-auth")
        tricklingHost ∧
      ¬ LateFails (HttpClient.reference Unit)
        (HttpRequest.new "https://postman-echo.com/basic-auth")
        tricklingHost := by
  have goesOut :
      RequestGoesOut (HttpRequest.new "https://postman-echo.com/basic-auth")
        tricklingHost :=
    answeringExchange_sends _ _ _
  have late : DeliveredLate tricklingHost :=
    ⟨3600000, by decide, by decide⟩
  constructor
  · exact
      not_deadlineCovers_of_sent HttpClient.reference_documented rfl goesOut
  · rw [lateFails_iff_of_permits HttpClient.reference_documented rfl]
    intro notAccepted
    exact notAccepted ⟨goesOut, rfl, late⟩

theorem deadlineCovers_iff_on_tricklingHost :
    (DeadlineCovers (HttpClient.reference Unit)
        (HttpRequest.new "https://postman-echo.com/basic-auth")
        tricklingHost ↔
      ¬ RequestGoesOut (HttpRequest.new "https://postman-echo.com/basic-auth")
        tricklingHost) ∧
      (LateFails (HttpClient.reference Unit)
          (HttpRequest.new "https://postman-echo.com/basic-auth")
          tricklingHost ↔
        ¬ (RequestGoesOut
              (HttpRequest.new "https://postman-echo.com/basic-auth")
              tricklingHost ∧
            tricklingHost.exchange.wait.value = .finished 200 ∧
              DeliveredLate tricklingHost)) :=
  deadlineCovers_iff HttpClient.reference_documented _ rfl

end ConfidentialWorker.OffchainFetcher
