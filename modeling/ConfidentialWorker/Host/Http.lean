import ConfidentialWorker.Host.Interface

/-!
# `sp_runtime::offchain::http`

The HTTP client library is not part of the repository.  Its functions are a
parameter of the model, `HttpClient`, and `HttpClient.Documented` states what
the library documents about them: which host calls they issue, in which order
and with which deadline.

* A request keeps the headers added to it in order; sending it starts it, adds
  the headers in that order and finalises it, stopping at the first failure.
* The deadline of a request reaches the sending calls only.  Waiting for the
  response has no deadline.
* Iterating over a response body yields the bytes of each read.  The iteration
  ends at a read of size zero, and also at a read that fails; in the second
  case the error is recorded in the iterator.

`reference` is one implementation with this behaviour.
-/

namespace ConfidentialWorker

namespace Http

inductive Error where
  | deadlineReached
  | ioError
  | unknown
  deriving DecidableEq, Repr

def Error.ofHost : HttpError → Error
  | .deadlineReached => .deadlineReached
  | .ioError => .ioError
  | .invalid => .unknown

structure Request where
  method : String
  url : String
  headers : List (String × String)
  deadline : Option Timestamp
  deriving DecidableEq, Repr

structure PendingRequest where
  id : RequestId
  deriving DecidableEq, Repr

structure Response where
  id : RequestId
  code : UInt16
  deriving DecidableEq, Repr

structure ResponseBody where
  id : RequestId
  deadline : Option Timestamp
  deriving DecidableEq, Repr

end Http

open Http

/-- The functions of the library that the repository calls.  `collect` runs the
iterator to its end: the bytes it yields, and the error it has recorded. -/
structure HttpClient (χ : Type) where
  get : String → Request
  addHeader : Request → String → String → Request
  deadline : Request → Timestamp → Request
  send : Request → HostM χ (Except Error PendingRequest)
  wait : PendingRequest → HostM χ (Except Error Response)
  body : Response → ResponseBody
  collect : ResponseBody → HostM χ (Bytes × Option Error)

namespace Http

variable {χ : Type}

def headerCalls (id : RequestId) :
    List (String × String) → HostM χ (Except Error Unit)
  | [] => pure (.ok ())
  | (name, value) :: rest => do
      match ← HostM.httpRequestAddHeader id name value with
      | .error _ => pure (.error .ioError)
      | .ok _ => headerCalls id rest

/-- The host calls of `Request::send`. -/
def sendCalls (request : Request) :
    HostM χ (Except Error PendingRequest) := do
  match ← HostM.httpRequestStart request.method request.url with
  | .error _ => pure (.error .ioError)
  | .ok id =>
      match ← headerCalls id request.headers with
      | .error error => pure (.error error)
      | .ok _ =>
          match ← HostM.httpRequestWriteBody id [] request.deadline with
          | .error error => pure (.error (Error.ofHost error))
          | .ok _ => pure (.ok ⟨id⟩)

/-- The host call of `PendingRequest::wait`, which never sees a deadline. -/
def waitCalls (pending : PendingRequest) :
    HostM χ (Except Error Response) := do
  match ← HostM.httpResponseWait pending.id none with
  | .deadlineReached =>
      HostM.panic
        "Since `None` is passed we will never get a deadline error; qed"
  | .ioError => pure (.error .ioError)
  | .invalid => pure (.error .unknown)
  | .finished code => pure (.ok ⟨pending.id, code⟩)

/-- One turn of the iterator's loop: a read, then `more` if it gave bytes. -/
def collectStep (body : ResponseBody) (more : HostM χ (Bytes × Option Error)) :
    HostM χ (Bytes × Option Error) := do
  match ← HostM.httpResponseReadBody body.id body.deadline with
  | .error error => pure ([], some (Error.ofHost error))
  | .ok [] => pure ([], none)
  | .ok chunk => do
      let (bytes, error) ← more
      pure (chunk ++ bytes, error)

end Http

namespace HttpClient

variable {χ : Type}

/-- The documented behaviour of the library. -/
structure Documented (client : HttpClient χ) : Prop where
  get_eq : ∀ url, client.get url = ⟨"GET", url, [], none⟩
  addHeader_eq : ∀ request name value,
    client.addHeader request name value =
      { request with headers := request.headers ++ [(name, value)] }
  deadline_eq : ∀ request limit,
    client.deadline request limit = { request with deadline := some limit }
  send_eq : ∀ request, client.send request = sendCalls request
  wait_eq : ∀ pending, client.wait pending = waitCalls pending
  body_eq : ∀ response, client.body response = ⟨response.id, none⟩
  collect_eq : ∀ body, client.collect body = collectStep body (client.collect body)

/-- Run the iterator over a list of reads that is known in advance. -/
def collectReads (body : ResponseBody) :
    BodyReads → HostM χ (Bytes × Option Error)
  | .chunk _ _ _ rest => collectStep body (collectReads body rest)
  | .endOfBody _ => collectStep body (pure ([], none))
  | .failed _ _ => collectStep body (pure ([], none))

/-- An implementation of the library over the host calls. -/
def reference (χ : Type) : HttpClient χ where
  get url := ⟨"GET", url, [], none⟩
  addHeader request name value :=
    { request with headers := request.headers ++ [(name, value)] }
  deadline request limit := { request with deadline := some limit }
  send := sendCalls
  wait := waitCalls
  body response := ⟨response.id, none⟩
  collect body := fun host => collectReads body host.exchange.body host

end HttpClient

end ConfidentialWorker
