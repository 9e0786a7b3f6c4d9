import ConfidentialWorker.Host.Http
import Mathlib.Tactic.Common

/-!
# Running the host calls

Every host function is one noted call followed by one answer.  This file
evaluates each of them on a host that permits HTTP, and states once and for
all which parts of the host they leave alone:

* `Host.surroundings` is what the HTTP functions never change;
* `Host.reply` is what the sending functions leave for later.
-/

namespace ConfidentialWorker

open Program Http

variable {χ : Type} {α : Type}

def Host.surroundings (host : Host χ) :
    Capabilities × OffchainDb × List LogRecord × χ :=
  (host.capabilities, host.localStorage, host.log, host.chain)

def Host.reply (host : Host χ) : Timed WaitStatus × BodyReads :=
  (host.exchange.wait, host.exchange.body)

namespace HostM

theorem issued_of_apply_eq
    {program : HostM χ α} {host reached : Host χ} {result : Except Trap α}
    {made : List HostCall}
    (run : program host = (result, reached))
    (called : reached.calls = host.calls ++ made) :
    issued program host = made := by
  unfold issued final
  rw [run, called]
  simp

theorem call_apply
    {issued : HostCall} {host : Host χ}
    (allowed : issued.needsHttp = true → host.capabilities.http = true) :
    call issued host =
      (.ok ⟨⟩, { host with calls := host.calls ++ [issued] }) := by
  unfold call
  rw [if_neg]
  rintro ⟨needs, missing⟩
  exact missing (allowed needs)

theorem call_apply_of_missing
    {issued : HostCall} {host : Host χ}
    (needs : issued.needsHttp = true)
    (missing : host.capabilities.http = false) :
    call issued host =
      (.error .missingCapability,
        { host with calls := host.calls ++ [issued] }) := by
  unfold call
  rw [if_pos]
  simp [needs, missing]

theorem call_answer_apply
    {issued : HostCall} {host : Host χ}
    (allowed : issued.needsHttp = true → host.capabilities.http = true)
    (respond : Host χ → α × Host χ) :
    (call issued >>= fun _ => answer respond) host =
      (.ok (respond { host with calls := host.calls ++ [issued] }).1,
        (respond { host with calls := host.calls ++ [issued] }).2) := by
  rw [bind_of_ok (call_apply allowed)]
  rfl

theorem log_apply
    (level : LogLevel) (target message : String) (host : Host χ) :
    log level target message host =
      (.ok ⟨⟩, host.logged ⟨level, target, message⟩) :=
  rfl

/-! ## Frames -/

/-- A noted call followed by an answer changes only what the answer changes. -/
theorem preserves_call_answer
    {υ : Type} {view : Host χ → υ} {issued : HostCall}
    {respond : Host χ → α × Host χ}
    (ignoresCalls :
      ∀ host, view { host with calls := host.calls ++ [issued] } = view host)
    (ignoresAnswer : ∀ host, view (respond host).2 = view host) :
    Preserves view (call issued >>= fun _ => answer respond : HostM χ α) := by
  apply respects_bind
  · intro host
    unfold final call
    simp only
    split
    · exact ignoresCalls host
    · exact ignoresCalls host
  · intro _
    exact ignoresAnswer

theorem log_preserves
    {υ : Type} (view : Host χ → υ) (level : LogLevel) (target message : String)
    (ignoresLog : ∀ host records, view { host with log := records } = view host) :
    Preserves view (log level target message : HostM χ PUnit) :=
  respects_modify fun host => ignoresLog host _

theorem httpRequestStart_preserves
    {υ : Type} (view : Host χ → υ) (method uri : String)
    (ignores :
      ∀ host issued requests,
        view { host with calls := issued, openRequests := requests } =
          view host) :
    Preserves view
      (httpRequestStart method uri : HostM χ (Except Unit RequestId)) := by
  apply preserves_call_answer
  · intro host
    exact ignores host _ host.openRequests
  · intro host
    cases host.exchange.start with
    | error _ =>
        rfl
    | ok id =>
        exact ignores host host.calls _

theorem httpRequestAddHeader_preserves
    {υ : Type} (view : Host χ → υ) (id : RequestId) (name value : String)
    (ignores :
      ∀ host issued requests headerAnswers,
        view
          { host with
            calls := issued
            openRequests := requests
            exchange := { host.exchange with addHeader := headerAnswers } } =
          view host) :
    Preserves view
      (httpRequestAddHeader id name value : HostM χ (Except Unit Unit)) := by
  apply preserves_call_answer
  · intro host
    exact ignores host _ host.openRequests host.exchange.addHeader
  · intro host
    simp only
    cases host.exchange.addHeader 0 with
    | error _ =>
        exact ignores host host.calls host.openRequests _
    | ok _ =>
        exact ignores host host.calls _ _

theorem httpRequestWriteBody_preserves
    {υ : Type} (view : Host χ → υ)
    (id : RequestId) (chunk : Bytes) (deadline : Option Timestamp)
    (ignores :
      ∀ host issued time sent,
        view
          { host with calls := issued, clock := time, sentRequests := sent } =
          view host) :
    Preserves view
      (httpRequestWriteBody id chunk deadline :
        HostM χ (Except HttpError Unit)) := by
  apply preserves_call_answer
  · intro host
    exact ignores host _ host.clock host.sentRequests
  · intro host
    simp only
    split
    · exact ignores host host.calls _ host.sentRequests
    · exact ignores host host.calls _ _

theorem httpResponseWait_preserves
    {υ : Type} (view : Host χ → υ)
    (id : RequestId) (deadline : Option Timestamp)
    (ignores :
      ∀ host issued time,
        view { host with calls := issued, clock := time } = view host) :
    Preserves view
      (httpResponseWait id deadline : HostM χ HttpRequestStatus) := by
  apply preserves_call_answer
  · intro host
    exact ignores host _ host.clock
  · intro host
    exact ignores host host.calls _

theorem httpResponseReadBody_preserves
    {υ : Type} (view : Host χ → υ)
    (id : RequestId) (deadline : Option Timestamp)
    (ignores :
      ∀ host issued time reads,
        view
          { host with
            calls := issued
            clock := time
            exchange := { host.exchange with body := reads } } =
          view host) :
    Preserves view
      (httpResponseReadBody id deadline : HostM χ (Except HttpError Bytes)) := by
  apply preserves_call_answer
  · intro host
    exact ignores host _ host.clock host.exchange.body
  · intro host
    simp only
    split
    · exact ignores host host.calls _ host.exchange.body
    · exact ignores host host.calls _ _

theorem timestamp_apply (host : Host χ) :
    timestamp host =
      (.ok host.clock, { host with calls := host.calls ++ [.timestamp] }) :=
  call_answer_apply (fun needs => by cases needs) _

/-! ## Answers on a host that permits HTTP -/

section Permitted

variable {host : Host χ} (permits : host.capabilities.http = true)
include permits

theorem httpRequestStart_apply_error
    (method uri : String) {reason : Unit}
    (refused : host.exchange.start = .error reason) :
    ∃ reached,
      httpRequestStart method uri host = (.ok (.error ()), reached) ∧
        reached.calls = host.calls ++ [.httpRequestStart method uri] ∧
          reached.sentRequests = host.sentRequests := by
  have run : httpRequestStart method uri host = _ :=
    call_answer_apply (fun _ => permits) _
  simp only [refused] at run
  exact ⟨_, run, rfl, rfl⟩

theorem httpRequestStart_apply_ok
    (method uri : String) {id : RequestId}
    (started : host.exchange.start = .ok id) :
    ∃ reached,
      httpRequestStart method uri host = (.ok (.ok id), reached) ∧
        reached.calls = host.calls ++ [.httpRequestStart method uri] ∧
          reached.openRequests id = some ⟨method, uri, []⟩ ∧
            reached.exchange = host.exchange ∧
              reached.sentRequests = host.sentRequests ∧
                reached.capabilities = host.capabilities := by
  have run : httpRequestStart method uri host = _ :=
    call_answer_apply (fun _ => permits) _
  simp only [started] at run
  exact ⟨_, run, rfl, by simp, rfl, rfl, rfl⟩

theorem httpRequestAddHeader_apply_error
    (id : RequestId) (name value : String) {reason : Unit}
    (refused : host.exchange.addHeader 0 = .error reason) :
    ∃ reached,
      httpRequestAddHeader id name value host = (.ok (.error ()), reached) ∧
        reached.calls =
          host.calls ++ [.httpRequestAddHeader id name value] := by
  have run : httpRequestAddHeader id name value host = _ :=
    call_answer_apply (fun _ => permits) _
  simp only [refused] at run
  exact ⟨_, run, rfl⟩

theorem httpRequestAddHeader_apply_ok
    (id : RequestId) (name value : String) {request : WireRequest}
    (accepted : host.exchange.addHeader 0 = .ok ())
    (isOpen : host.openRequests id = some request) :
    ∃ reached,
      httpRequestAddHeader id name value host = (.ok (.ok ()), reached) ∧
        reached.calls =
            host.calls ++ [.httpRequestAddHeader id name value] ∧
          reached.openRequests id =
              some { request with headers := request.headers ++ [(name, value)] } ∧
            reached.exchange.addHeader =
              fun index => host.exchange.addHeader (index + 1) := by
  have run : httpRequestAddHeader id name value host = _ :=
    call_answer_apply (fun _ => permits) _
  simp only [accepted, isOpen] at run
  exact ⟨_, run, rfl, by simp, rfl⟩

theorem httpRequestWriteBody_apply_error
    (id : RequestId) (chunk : Bytes) (deadline : Option Timestamp)
    {error : HttpError}
    (refused :
      host.exchange.finalise.answer deadline (.error .deadlineReached) =
        .error error) :
    ∃ reached,
      httpRequestWriteBody id chunk deadline host =
          (.ok (.error error), reached) ∧
        reached.calls =
            host.calls ++ [.httpRequestWriteBody id chunk deadline] ∧
          reached.sentRequests = host.sentRequests := by
  have run : httpRequestWriteBody id chunk deadline host = _ :=
    call_answer_apply (fun _ => permits) _
  simp only [refused] at run
  exact ⟨_, run, rfl, rfl⟩

theorem httpRequestWriteBody_apply_ok
    (id : RequestId) (deadline : Option Timestamp) {request : WireRequest}
    (accepted :
      host.exchange.finalise.answer deadline (.error .deadlineReached) =
        .ok ())
    (isOpen : host.openRequests id = some request) :
    ∃ reached,
      httpRequestWriteBody id [] deadline host = (.ok (.ok ()), reached) ∧
        reached.calls =
            host.calls ++ [.httpRequestWriteBody id [] deadline] ∧
          reached.sentRequests = host.sentRequests ++ [request] := by
  have run : httpRequestWriteBody id [] deadline host = _ :=
    call_answer_apply (fun _ => permits) _
  simp only [accepted, isOpen] at run
  exact ⟨_, run, rfl, rfl⟩

theorem httpResponseWait_apply_none (id : RequestId) :
    ∃ reached,
      httpResponseWait id none host =
          (.ok host.exchange.wait.value.toRequestStatus, reached) ∧
        reached.calls = host.calls ++ [.httpResponseWait id none] := by
  have run : httpResponseWait id none host = _ :=
    call_answer_apply (fun _ => permits) _
  simp only [Timed.answer_none] at run
  exact ⟨_, run, rfl⟩

theorem httpResponseReadBody_apply_none (id : RequestId) :
    ∃ reached,
      httpResponseReadBody id none host =
          (.ok host.exchange.body.next, reached) ∧
        reached.calls = host.calls ++ [.httpResponseReadBody id none] ∧
          reached.exchange.body = host.exchange.body.rest := by
  have run : httpResponseReadBody id none host = _ :=
    call_answer_apply (fun _ => permits) _
  simp only [not_expires_none, if_false] at run
  exact ⟨_, run, rfl, rfl⟩

end Permitted

end HostM

end ConfidentialWorker
