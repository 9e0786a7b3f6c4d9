import ConfidentialWorker.Host.Evaluation

/-!
# Runs of the HTTP client

Sending issues the calls of `Request.plannedCalls` in order.  Either the host
accepts all of them and the request is on the wire, or the calls end with the
first one that the host refuses and nothing is on the wire.  Collecting a body makes one read for each chunk and one
more, and gives the chunks whether the last read ends the body or fails.
-/

namespace ConfidentialWorker

open Program Http

variable {χ : Type}

namespace Http

def Request.wire (request : Request) : WireRequest :=
  ⟨request.method, request.url, request.headers⟩

def headerPlan (id : RequestId) (headers : List (String × String)) :
    List HostCall :=
  headers.map fun header => .httpRequestAddHeader id header.1 header.2

@[simp]
theorem headerPlan_length
    (id : RequestId) (headers : List (String × String)) :
    (headerPlan id headers).length = headers.length :=
  List.length_map _

/-- The calls of a request that is sent whole. -/
def Request.plannedCalls (request : Request) (id : RequestId) :
    List HostCall :=
  .httpRequestStart request.method request.url ::
    (headerPlan id request.headers ++
      [.httpRequestWriteBody id [] request.deadline])

@[simp]
theorem Request.plannedCalls_length (request : Request) (id : RequestId) :
    (request.plannedCalls id).length = request.headers.length + 2 := by
  simp [plannedCalls]

end Http

/-- The host lets a request with the given number of headers go out. -/
structure Exchange.Sends
    (exchange : Exchange) (headers : ℕ) (deadline : Option Timestamp) :
    Prop where
  started : ∃ id, exchange.start = .ok id
  headersAdded : ∀ index < headers, exchange.addHeader index = .ok ()
  finalised :
    exchange.finalise.answer deadline (.error .deadlineReached) = .ok ()

/-- The host accepts the sending call at this place in the sequence: the start,
then each header, then the finalising write. -/
def Exchange.accepts
    (exchange : Exchange) (headers : ℕ) (deadline : Option Timestamp) :
    ℕ → Bool
  | 0 => exchange.start.isOk
  | index + 1 =>
      if index < headers then
        (exchange.addHeader index).isOk
      else
        (exchange.finalise.answer deadline (.error .deadlineReached)).isOk

section Accepts

variable {exchange : Exchange} {headers : ℕ} {deadline : Option Timestamp}

private theorem accepts_start {id : RequestId}
    (started : exchange.start = .ok id) :
    exchange.accepts headers deadline 0 = true := by
  simp [Exchange.accepts, started, Except.isOk, Except.toBool]

private theorem accepts_header {index : ℕ} (header : index < headers)
    (added : exchange.addHeader index = .ok ()) :
    exchange.accepts headers deadline (index + 1) = true := by
  simp [Exchange.accepts, header, added, Except.isOk, Except.toBool]

/-- With the start and the first headers accepted, all calls so far are. -/
private theorem accepts_of_headers {id : RequestId} {count : ℕ}
    (started : exchange.start = .ok id) (bound : count ≤ headers)
    (added : ∀ index < count, exchange.addHeader index = .ok ()) :
    ∀ index < count + 1, exchange.accepts headers deadline index = true := by
  intro index earlier
  cases index with
  | zero =>
      exact accepts_start started
  | succ index =>
      have before : index < count := by omega
      exact accepts_header (by omega) (added index before)

end Accepts

theorem Exchange.Sends.accepts
    {exchange : Exchange} {headers : ℕ} {deadline : Option Timestamp}
    (sends : exchange.Sends headers deadline) (index : ℕ) :
    exchange.accepts headers deadline index = true := by
  cases index with
  | zero =>
      obtain ⟨id, started⟩ := sends.started
      exact accepts_start started
  | succ index =>
      by_cases header : index < headers
      · exact accepts_header header (sends.headersAdded index header)
      · simp [Exchange.accepts, header, sends.finalised, Except.isOk,
          Except.toBool]

/-- The sending functions change neither the surroundings of an exchange nor
its reply. -/
def Host.kept (host : Host χ) :
    (Capabilities × OffchainDb × List LogRecord × χ) ×
      Timed WaitStatus × BodyReads :=
  (host.surroundings, host.reply)

theorem Host.capabilities_of_kept
    {host reached : Host χ} (kept : reached.kept = host.kept) :
    reached.capabilities = host.capabilities :=
  congrArg (fun view => view.1.1) kept

theorem headerCalls_preserves
    {υ : Type} (view : Host χ → υ) (id : RequestId)
    (ignores :
      ∀ host issued requests headerAnswers,
        view
          { host with
            calls := issued
            openRequests := requests
            exchange := { host.exchange with addHeader := headerAnswers } } =
          view host) :
    ∀ headers : List (String × String),
      Preserves view (headerCalls id headers : HostM χ _)
  | [] => respects_pure _
  | (name, value) :: rest => by
      apply respects_bind
      · exact HostM.httpRequestAddHeader_preserves view id name value ignores
      · intro answer
        cases answer with
        | error _ =>
            exact respects_pure _
        | ok _ =>
            exact headerCalls_preserves view id ignores rest

theorem sendCalls_kept (request : Request) :
    Preserves Host.kept (sendCalls request : HostM χ _) := by
  apply respects_bind
  · exact HostM.httpRequestStart_preserves _ _ _ fun _ _ _ => rfl
  · intro started
    cases started with
    | error _ =>
        exact respects_pure _
    | ok id =>
        apply
          respects_bind
            (headerCalls_preserves _ id (fun _ _ _ _ => rfl)
              request.headers)
        intro added
        cases added with
        | error _ =>
            exact respects_pure _
        | ok _ =>
            apply respects_bind
            · exact
                HostM.httpRequestWriteBody_preserves _ _ _ _
                  fun _ _ _ _ => rfl
            · intro finalised
              cases finalised <;> exact respects_pure _

/-! ## Adding headers -/

theorem headerCalls_apply_ok
    (id : RequestId) :
    ∀ (headers : List (String × String)) {host : Host χ}
      {request : WireRequest},
      host.capabilities.http = true →
        host.openRequests id = some request →
          (∀ index < headers.length, host.exchange.addHeader index = .ok ()) →
            ∃ reached,
              headerCalls id headers host = (.ok (.ok ()), reached) ∧
                reached.calls = host.calls ++ headerPlan id headers ∧
                  reached.openRequests id =
                    some { request with headers := request.headers ++ headers }
  | [], host, request, _, isOpen, _ => by
      refine ⟨host, rfl, ?_, ?_⟩
      · simp [headerPlan]
      · simpa using isOpen
  | (name, value) :: rest, host, request, permits, isOpen, accepted => by
      obtain ⟨middle, run, called, opened, shifted⟩ :=
        HostM.httpRequestAddHeader_apply_ok permits id name value
          (accepted 0 (by simp)) isOpen
      have middleKept : middle.kept = host.kept :=
        (HostM.httpRequestAddHeader_preserves Host.kept id name value
          fun _ _ _ _ => rfl).of_apply_eq run
      have middlePermits : middle.capabilities.http = true := by
        rw [Host.capabilities_of_kept middleKept]
        exact permits
      have restAccepted :
          ∀ index < rest.length, middle.exchange.addHeader index = .ok () := by
        intro index bound
        rw [shifted]
        exact accepted (index + 1) (by simpa using bound)
      obtain ⟨reached, restRun, restCalled, restOpened⟩ :=
        headerCalls_apply_ok id rest middlePermits opened restAccepted
      refine ⟨reached, ?_, ?_, ?_⟩
      · rw [headerCalls, bind_of_ok run]
        exact restRun
      · rw [restCalled, called]
        simp [headerPlan]
      · simpa using restOpened

/-- The first refused header ends the sequence of calls. -/
theorem headerCalls_apply_error
    (id : RequestId) :
    ∀ (headers : List (String × String)) {host : Host χ}
      {request : WireRequest},
      host.capabilities.http = true →
        host.openRequests id = some request →
          (¬ ∀ index < headers.length,
              host.exchange.addHeader index = .ok ()) →
            ∃ reached count,
              headerCalls id headers host = (.ok (.error .ioError), reached) ∧
                count < headers.length ∧
                  (∀ index < count, host.exchange.addHeader index = .ok ()) ∧
                    host.exchange.addHeader count ≠ .ok () ∧
                      reached.calls =
                        host.calls ++ (headerPlan id headers).take (count + 1)
  | [], host, request, _, _, refused => by
      exfalso
      apply refused
      intro index bound
      simp at bound
  | (name, value) :: rest, host, request, permits, isOpen, refused => by
      cases first : host.exchange.addHeader 0 with
      | error reason =>
          obtain ⟨reached, run, called⟩ :=
            HostM.httpRequestAddHeader_apply_error permits id name value first
          refine ⟨reached, 0, ?_, by simp, by simp, by simp [first], ?_⟩
          · rw [headerCalls, bind_of_ok run]
            rfl
          · rw [called]
            simp [headerPlan]
      | ok _ =>
          obtain ⟨middle, run, called, opened, shifted⟩ :=
            HostM.httpRequestAddHeader_apply_ok permits id name value first
              isOpen
          have middleKept : middle.kept = host.kept :=
            (HostM.httpRequestAddHeader_preserves Host.kept id name value
              fun _ _ _ _ => rfl).of_apply_eq run
          have middlePermits : middle.capabilities.http = true := by
            rw [Host.capabilities_of_kept middleKept]
            exact permits
          have restRefused :
              ¬ ∀ index < rest.length,
                middle.exchange.addHeader index = .ok () := by
            intro accepted
            apply refused
            intro index bound
            cases index with
            | zero =>
                exact first
            | succ index =>
                have shiftedAccepted :=
                  accepted index (by simpa using bound)
                rwa [shifted] at shiftedAccepted
          obtain ⟨reached, count, restRun, bound, before, here, restCalled⟩ :=
            headerCalls_apply_error id rest middlePermits opened restRefused
          rw [shifted] at before here
          refine ⟨reached, count + 1, ?_, by simpa using bound, ?_, here, ?_⟩
          · rw [headerCalls, bind_of_ok run]
            exact restRun
          · intro index earlier
            cases index with
            | zero =>
                exact first
            | succ index =>
                exact before index (by omega)
          · rw [restCalled, called]
            simp [headerPlan]

/-! ## Sending -/

/-- What adding headers leaves for the last step of sending. -/
private theorem headerCalls_finalise
    {id : RequestId} {headers : List (String × String)} {host reached : Host χ}
    {result : Except Trap (Except Http.Error Unit)}
    (run : headerCalls id headers host = (result, reached)) :
    reached.exchange.finalise = host.exchange.finalise ∧
      reached.sentRequests = host.sentRequests ∧
        reached.capabilities = host.capabilities := by
  have kept :
      (reached.exchange.finalise, reached.sentRequests,
          reached.capabilities) =
        (host.exchange.finalise, host.sentRequests, host.capabilities) :=
    (headerCalls_preserves
      (fun host : Host χ =>
        (host.exchange.finalise, host.sentRequests, host.capabilities))
      id (fun _ _ _ _ => rfl) headers).of_apply_eq run
  simpa only [Prod.mk.injEq] using kept

/-- A request that the host lets go out is sent whole. -/
theorem sendCalls_apply_sent
    (request : Request) {host : Host χ}
    (permits : host.capabilities.http = true)
    (sends : host.exchange.Sends request.headers.length request.deadline) :
    ∃ id reached,
      sendCalls request host = (.ok (.ok ⟨id⟩), reached) ∧
        reached.calls = host.calls ++ request.plannedCalls id ∧
          reached.sentRequests = host.sentRequests ++ [request.wire] := by
  obtain ⟨id, started⟩ := sends.started
  obtain ⟨opened, startRun, startCalled, isOpen, sameExchange, startSent,
      startCapabilities⟩ :=
    HostM.httpRequestStart_apply_ok permits request.method request.url started
  have openedPermits : opened.capabilities.http = true := by
    rw [startCapabilities]
    exact permits
  obtain ⟨added, addRun, addCalled, addOpened⟩ :=
    headerCalls_apply_ok id request.headers openedPermits isOpen
      (by rw [sameExchange]; exact sends.headersAdded)
  obtain ⟨sameFinalise, addSent, addCapabilities⟩ := headerCalls_finalise addRun
  obtain ⟨reached, writeRun, writeCalled, writeSent⟩ :=
    HostM.httpRequestWriteBody_apply_ok
      (by rw [addCapabilities]; exact openedPermits) id request.deadline
      (by rw [sameFinalise, sameExchange]; exact sends.finalised) addOpened
  refine ⟨id, reached, ?_, ?_, ?_⟩
  · calc
      sendCalls request host = _ := bind_of_ok startRun _
      _ = _ := bind_of_ok addRun _
      _ = _ := bind_of_ok writeRun _
  · rw [writeCalled, addCalled, startCalled]
    simp [Request.plannedCalls]
  · rw [writeSent, addSent, startSent]
    rfl

/-- The calls made end with the first one that the host refuses, and nothing
is on the wire. -/
structure EndsAtRefused
    (request : Request) (host : Host χ) (error : Http.Error) (id : RequestId)
    (reached : Host χ) (count : ℕ) : Prop where
  run : sendCalls request host = (.ok (.error error), reached)
  calls :
    reached.calls = host.calls ++ (request.plannedCalls id).take (count + 1)
  bound : count < (request.plannedCalls id).length
  before :
    ∀ index < count,
      host.exchange.accepts request.headers.length request.deadline index =
        true
  here :
    host.exchange.accepts request.headers.length request.deadline count = false
  wire : reached.sentRequests = host.sentRequests

section Refused

variable (request : Request) {host : Host χ}
  (permits : host.capabilities.http = true)
include permits

private theorem endsAtRefused_of_start {reason : Unit}
    (started : host.exchange.start = .error reason) :
    ∃ reached, EndsAtRefused request host .ioError 0 reached 0 := by
  obtain ⟨reached, startRun, startCalled, startSent⟩ :=
    HostM.httpRequestStart_apply_error permits request.method request.url
      started
  refine
    ⟨reached,
      { run := bind_of_ok startRun _
        calls := ?_
        bound := by simp
        before := by simp
        here := ?_
        wire := startSent }⟩
  · rw [startCalled]
    simp [Request.plannedCalls]
  · simp [Exchange.accepts, started, Except.isOk, Except.toBool]

private theorem endsAtRefused_of_header {id : RequestId}
    (started : host.exchange.start = .ok id)
    (refused :
      ¬ ∀ index < request.headers.length,
        host.exchange.addHeader index = .ok ()) :
    ∃ reached count,
      EndsAtRefused request host .ioError id reached count := by
  obtain ⟨opened, startRun, startCalled, isOpen, sameExchange, startSent,
      startCapabilities⟩ :=
    HostM.httpRequestStart_apply_ok permits request.method request.url started
  rw [← startCapabilities] at permits
  rw [← sameExchange] at refused
  obtain ⟨added, count, addRun, bound, before, here, addCalled⟩ :=
    headerCalls_apply_error id request.headers permits isOpen refused
  rw [sameExchange] at before here
  obtain ⟨_, addSent, _⟩ := headerCalls_finalise addRun
  refine
    ⟨added, count + 1,
      { run := ?_
        calls := ?_
        bound := ?_
        before := accepts_of_headers started (by omega) before
        here := ?_
        wire := addSent.trans startSent }⟩
  · calc
      sendCalls request host = _ := bind_of_ok startRun _
      _ = _ := bind_of_ok addRun _
  · have withinHeaders :
        count + 1 ≤ (headerPlan id request.headers).length := by
      rw [headerPlan_length]
      exact bound
    rw [addCalled, startCalled, Request.plannedCalls, List.take_succ_cons,
      List.take_append_of_le_length withinHeaders]
    simp
  · rw [Request.plannedCalls_length]
    omega
  · cases answer : host.exchange.addHeader count with
    | ok _ =>
        exact absurd answer here
    | error _ =>
        simp [Exchange.accepts, bound, answer, Except.isOk, Except.toBool]

private theorem endsAtRefused_of_finalise {id : RequestId}
    (started : host.exchange.start = .ok id)
    (accepted :
      ∀ index < request.headers.length,
        host.exchange.addHeader index = .ok ())
    {error : HttpError}
    (answered :
      host.exchange.finalise.answer request.deadline
          (.error .deadlineReached) =
        .error error) :
    ∃ reached,
      EndsAtRefused request host (Error.ofHost error) id reached
        (request.headers.length + 1) := by
  obtain ⟨opened, startRun, startCalled, isOpen, sameExchange, startSent,
      startCapabilities⟩ :=
    HostM.httpRequestStart_apply_ok permits request.method request.url started
  rw [← startCapabilities] at permits
  obtain ⟨added, addRun, addCalled, addOpened⟩ :=
    headerCalls_apply_ok id request.headers permits isOpen
      (by rw [sameExchange]; exact accepted)
  obtain ⟨sameFinalise, addSent, addCapabilities⟩ :=
    headerCalls_finalise addRun
  obtain ⟨reached, writeRun, writeCalled, writeSent⟩ :=
    HostM.httpRequestWriteBody_apply_error
      (by rw [addCapabilities]; exact permits) id [] request.deadline
      (by rw [sameFinalise, sameExchange]; exact answered)
  refine
    ⟨reached,
      { run := ?_
        calls := ?_
        bound := by simp
        before := accepts_of_headers started (Nat.le_refl _) accepted
        here := ?_
        wire := ?_ }⟩
  · calc
      sendCalls request host = _ := bind_of_ok startRun _
      _ = _ := bind_of_ok addRun _
      _ = _ := bind_of_ok writeRun _
  · rw [writeCalled, addCalled, startCalled, List.take_of_length_le]
    · simp [Request.plannedCalls]
    · simp
  · simp [Exchange.accepts, answered, Except.isOk, Except.toBool]
  · rw [writeSent, addSent, startSent]

/-- A request that the host does not let go out is not sent at all. -/
theorem sendCalls_apply_unsent
    (unsent : ¬ host.exchange.Sends request.headers.length request.deadline) :
    ∃ error id reached count,
      EndsAtRefused request host error id reached count := by
  cases started : host.exchange.start with
  | error reason =>
      obtain ⟨reached, ends⟩ := endsAtRefused_of_start request permits started
      exact ⟨.ioError, 0, reached, 0, ends⟩
  | ok id =>
      by_cases accepted :
          ∀ index < request.headers.length,
            host.exchange.addHeader index = .ok ()
      · cases answered :
            host.exchange.finalise.answer request.deadline
              (.error .deadlineReached) with
        | ok _ =>
            -- Every step went through, so the request was sent after all.
            exact absurd ⟨⟨id, started⟩, accepted, answered⟩ unsent
        | error error =>
            obtain ⟨reached, ends⟩ :=
              endsAtRefused_of_finalise request permits started accepted
                answered
            exact ⟨_, id, reached, _, ends⟩
      · obtain ⟨reached, count, ends⟩ :=
          endsAtRefused_of_header request permits started accepted
        exact ⟨.ioError, id, reached, count, ends⟩

end Refused

/-! ## Waiting and reading -/

/-- What waiting without a deadline gives. -/
def WaitStatus.response (id : RequestId) : WaitStatus → Except Http.Error Response
  | .ioError => .error .ioError
  | .invalid => .error .unknown
  | .finished code => .ok ⟨id, code⟩

theorem waitCalls_apply
    (pending : PendingRequest) {host : Host χ}
    (permits : host.capabilities.http = true) :
    ∃ reached,
      waitCalls pending host =
          (.ok (host.exchange.wait.value.response pending.id), reached) ∧
        reached.calls = host.calls ++ [.httpResponseWait pending.id none] := by
  obtain ⟨reached, run, called⟩ :=
    HostM.httpResponseWait_apply_none permits pending.id
  refine ⟨reached, ?_, called⟩
  rw [waitCalls, bind_of_ok run]
  cases host.exchange.wait.value <;> rfl

/-- The parts of the host that reading a body leaves alone. -/
def Host.readFrame (host : Host χ) :
    (Capabilities × OffchainDb × List LogRecord × χ) × List WireRequest :=
  (host.surroundings, host.sentRequests)

theorem waitCalls_readFrame (pending : PendingRequest) :
    Preserves (fun host : Host χ => (host.readFrame, host.exchange))
      (waitCalls pending) := by
  apply respects_bind
  · exact HostM.httpResponseWait_preserves _ _ _ fun _ _ _ => rfl
  · intro status
    cases status with
    | deadlineReached =>
        exact respects_stop _
    | ioError | invalid | finished code =>
        exact respects_pure _

/-- The iterator over a body without a deadline yields every chunk, and ends
in the same way whether the last read ends the body or fails: only the
recorded error tells the two apart. -/
theorem collect_apply
    {client : HttpClient χ} (documented : client.Documented) (id : RequestId) :
    ∀ {host : Host χ},
      host.capabilities.http = true →
        ∃ reached made,
          client.collect ⟨id, none⟩ host =
              (.ok
                (host.exchange.body.chunks.flatten,
                  host.exchange.body.failure.map Error.ofHost),
                reached) ∧
            reached.calls =
                host.calls ++ .httpResponseReadBody id none :: made ∧
              (∀ call ∈ made, call = .httpResponseReadBody id none) ∧
                reached.readFrame = host.readFrame := by
  intro host
  generalize reads : host.exchange.body = body
  induction body generalizing host with
  | endOfBody available =>
      intro permits
      obtain ⟨reached, run, called, _⟩ :=
        HostM.httpResponseReadBody_apply_none permits id
      rw [reads] at run
      refine ⟨reached, [], ?_, called, by simp, ?_⟩
      · rw [documented.collect_eq]
        exact bind_of_ok run _
      · exact
          (HostM.httpResponseReadBody_preserves Host.readFrame id none
            fun _ _ _ _ => rfl).of_apply_eq run
  | failed error available =>
      intro permits
      obtain ⟨reached, run, called, _⟩ :=
        HostM.httpResponseReadBody_apply_none permits id
      rw [reads] at run
      refine ⟨reached, [], ?_, called, by simp, ?_⟩
      · rw [documented.collect_eq]
        exact bind_of_ok run _
      · exact
          (HostM.httpResponseReadBody_preserves Host.readFrame id none
            fun _ _ _ _ => rfl).of_apply_eq run
  | chunk head tail available rest inductionHypothesis =>
      intro permits
      obtain ⟨middle, run, called, remaining⟩ :=
        HostM.httpResponseReadBody_apply_none permits id
      rw [reads] at run remaining
      have middleFrame : middle.readFrame = host.readFrame :=
        (HostM.httpResponseReadBody_preserves Host.readFrame id none
          fun _ _ _ _ => rfl).of_apply_eq run
      have middlePermits : middle.capabilities.http = true := by
        rw [show middle.capabilities = host.capabilities from
          congrArg (fun frame => frame.1.1) middleFrame]
        exact permits
      obtain ⟨reached, made, restRun, restCalled, restMade, restFrame⟩ :=
        inductionHypothesis remaining middlePermits
      refine
        ⟨reached, .httpResponseReadBody id none :: made, ?_, ?_, ?_,
          restFrame.trans middleFrame⟩
      · rw [documented.collect_eq]
        calc
          collectStep ⟨id, none⟩ (client.collect ⟨id, none⟩) host = _ :=
            bind_of_ok run _
          _ = _ := bind_of_ok restRun _
      · rw [restCalled, called]
        simp
      · intro call member
        rcases List.mem_cons.mp member with first | later
        · exact first
        · exact restMade call later

/-! ## The reference client -/

/-- Only a chunk gives bytes, and it is then taken from the body. -/
private theorem readBody_took_chunk
    {id : RequestId} {deadline : Option Timestamp} {host reached : Host χ}
    {bytes : Bytes}
    (run :
      HostM.httpResponseReadBody id deadline host = (.ok (.ok bytes), reached))
    (nonempty : bytes ≠ []) :
    ∃ head tail available rest,
      host.exchange.body = .chunk head tail available rest ∧
        reached.exchange.body = rest := by
  cases permits : host.capabilities.http with
  | false =>
      unfold HostM.httpResponseReadBody at run
      rw [bind_of_error (HostM.call_apply_of_missing rfl permits)] at run
      cases run
  | true =>
      have evaluated : HostM.httpResponseReadBody id deadline host = _ :=
        HostM.call_answer_apply (fun _ => permits) _
      rw [evaluated] at run
      simp only [Prod.mk.injEq, Except.ok.injEq] at run
      obtain ⟨answered, sameHost⟩ := run
      split at answered
      · cases answered
      · rename_i inTime
        rw [if_neg inTime] at sameHost
        cases reads : host.exchange.body with
        | endOfBody available =>
            simp only [reads, BodyReads.next, Except.ok.injEq] at answered
            exact False.elim (nonempty answered.symm)
        | failed error available =>
            simp [reads, BodyReads.next] at answered
        | chunk head tail available rest =>
            refine ⟨head, tail, available, rest, rfl, ?_⟩
            rw [← sameHost]
            simp [reads, BodyReads.rest]

/-- One turn of the iterator depends on the rest of the loop only where a
chunk was read. -/
private theorem collectStep_congr
    (body : ResponseBody) {host : Host χ}
    {more other : HostM χ (Bytes × Option Http.Error)}
    (agree :
      ∀ bytes reached,
        HostM.httpResponseReadBody body.id body.deadline host =
            (.ok (.ok bytes), reached) →
          bytes ≠ [] → more reached = other reached) :
    collectStep body more host = collectStep body other host := by
  unfold collectStep
  rw [bind_apply, bind_apply]
  rcases run : HostM.httpResponseReadBody body.id body.deadline host with
    ⟨result, reached⟩
  cases result with
  | error trap =>
      rfl
  | ok answer =>
      cases answer with
      | error error =>
          rfl
      | ok bytes =>
          cases bytes with
          | nil =>
              rfl
          | cons head tail =>
              have same := agree (head :: tail) reached run (by simp)
              simp only [bind_apply, same]

theorem HttpClient.reference_documented :
    (HttpClient.reference χ).Documented where
  get_eq _ := rfl
  addHeader_eq _ _ _ := rfl
  deadline_eq _ _ := rfl
  send_eq _ := rfl
  wait_eq _ := rfl
  body_eq _ := rfl
  collect_eq body := by
    funext host
    change
      HttpClient.collectReads body host.exchange.body host =
        collectStep body
          (fun host => HttpClient.collectReads body host.exchange.body host)
          host
    cases reads : host.exchange.body with
    | chunk head tail available rest =>
        apply collectStep_congr
        intro bytes reached run nonempty
        obtain ⟨_, _, _, taken, sameReads, remaining⟩ :=
          readBody_took_chunk run nonempty
        rw [reads] at sameReads
        cases sameReads
        rw [remaining]
    | endOfBody available | failed error available =>
        apply collectStep_congr
        intro bytes reached run nonempty
        obtain ⟨_, _, _, _, sameReads, _⟩ := readBody_took_chunk run nonempty
        rw [reads] at sameReads
        cases sameReads

end ConfidentialWorker
