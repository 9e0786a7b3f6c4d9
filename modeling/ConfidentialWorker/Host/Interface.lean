import ConfidentialWorker.Library.Program
import ConfidentialWorker.Library.Utf8
import Mathlib.Logic.Function.Basic

/-!
# The host under an off-chain run

The runtime reaches the outside world through the host functions of
`sp_io::offchain` and `sp_io::logging`.  The host is the environment of the
repository's code, so its answers are data: an `Exchange` lists what the host
answers to the calls of one HTTP exchange, and every statement about the code
is about every exchange.

Each answer of a blocking call carries the time at which it is available.  A
call issued with a deadline answers in time or reports the deadline; a call
issued without one waits as long as needed.

Names follow `sp_core::offchain`: times are milliseconds in a `u64`, whose
addition saturates, and local storage maps byte strings to byte strings, once
for each of its two kinds.  `χ` is the type of the on-chain state, which the
host functions never touch.
-/

namespace ConfidentialWorker

abbrev Timestamp := UInt64

abbrev Duration := UInt64

def Timestamp.add (time : Timestamp) (duration : Duration) : Timestamp :=
  if time.toNat + duration.toNat < UInt64.size then
    time + duration
  else
    0xFFFFFFFFFFFFFFFF

inductive StorageKind where
  | persistent
  | «local»
  deriving DecidableEq, Repr

abbrev OffchainDb := StorageKind → Bytes → Option Bytes

def OffchainDb.set
    (db : OffchainDb) (kind : StorageKind) (key value : Bytes) :
    OffchainDb :=
  fun askedKind asked =>
    if askedKind = kind ∧ asked = key then some value else db askedKind asked

inductive LogLevel where
  | error
  | warn
  | info
  | debug
  | trace
  deriving DecidableEq, Repr

structure LogRecord where
  level : LogLevel
  target : String
  message : String
  deriving DecidableEq, Repr

abbrev RequestId := UInt16

inductive HttpError where
  | deadlineReached
  | ioError
  | invalid
  deriving DecidableEq, Repr

inductive HttpRequestStatus where
  | deadlineReached
  | ioError
  | invalid
  | finished (code : UInt16)
  deriving DecidableEq, Repr

/-- How waiting for a response ends when no deadline cuts it short. -/
inductive WaitStatus where
  | ioError
  | invalid
  | finished (code : UInt16)
  deriving DecidableEq, Repr

def WaitStatus.toRequestStatus : WaitStatus → HttpRequestStatus
  | .ioError => .ioError
  | .invalid => .invalid
  | .finished code => .finished code

structure Timed (α : Type) where
  value : α
  available : Timestamp
  deriving DecidableEq, Repr

def Expires (deadline : Option Timestamp) (available : Timestamp) : Prop :=
  ∃ limit, deadline = some limit ∧ limit < available

instance (deadline : Option Timestamp) (available : Timestamp) :
    Decidable (Expires deadline available) :=
  match deadline with
  | none => isFalse (by rintro ⟨_, equality, _⟩; cases equality)
  | some limit =>
      decidable_of_iff (limit < available)
        ⟨fun late => ⟨limit, rfl, late⟩,
          fun ⟨_, equality, late⟩ => by cases equality; exact late⟩

@[simp]
theorem not_expires_none (available : Timestamp) :
    ¬ Expires none available := by
  rintro ⟨limit, equality, _⟩
  cases equality

def Timed.answer {α : Type} (event : Timed α) (deadline : Option Timestamp)
    (late : α) : α :=
  if Expires deadline event.available then late else event.value

@[simp]
theorem Timed.answer_none {α : Type} (event : Timed α) (late : α) :
    event.answer none late = event.value := by
  simp [Timed.answer]

/-- The reads of a response body, each a non-empty chunk, until the body ends
or a read fails. -/
inductive BodyReads where
  | chunk (head : UInt8) (tail : Bytes) (available : Timestamp)
      (rest : BodyReads)
  | endOfBody (available : Timestamp)
  | failed (error : HttpError) (available : Timestamp)
  deriving DecidableEq, Repr

namespace BodyReads

def available : BodyReads → Timestamp
  | .chunk _ _ available _ => available
  | .endOfBody available => available
  | .failed _ available => available

/-- What the next read gives when it is waited for. -/
def next : BodyReads → Except HttpError Bytes
  | .chunk head tail _ _ => .ok (head :: tail)
  | .endOfBody _ => .ok []
  | .failed error _ => .error error

/-- The reads after the next one; an ended or failed body stays so. -/
def rest : BodyReads → BodyReads
  | .chunk _ _ _ rest => rest
  | .endOfBody available => .endOfBody available
  | .failed error available => .failed error available

def chunks : BodyReads → List Bytes
  | .chunk head tail _ rest => (head :: tail) :: rest.chunks
  | .endOfBody _ => []
  | .failed _ _ => []

/-- The error of the read that cuts the body off, if one does. -/
def failure : BodyReads → Option HttpError
  | .chunk _ _ _ rest => rest.failure
  | .endOfBody _ => none
  | .failed error _ => some error

/-- When each chunk is delivered. -/
def deliveries : BodyReads → List Timestamp
  | .chunk _ _ available rest => available :: rest.deliveries
  | .endOfBody _ => []
  | .failed _ _ => []

end BodyReads

/-- What the host answers to the calls of one HTTP exchange: `addHeader i` is
the answer to the next header call but `i`. -/
structure Exchange where
  start : Except Unit RequestId
  addHeader : ℕ → Except Unit Unit
  finalise : Timed (Except HttpError Unit)
  wait : Timed WaitStatus
  body : BodyReads

structure WireRequest where
  method : String
  uri : String
  headers : List (String × String)
  deriving DecidableEq, Repr

inductive HostCall where
  | localStorageGet (kind : StorageKind) (key : Bytes)
  | localStorageSet (kind : StorageKind) (key value : Bytes)
  | timestamp
  | httpRequestStart (method uri : String)
  | httpRequestAddHeader (id : RequestId) (name value : String)
  | httpRequestWriteBody
      (id : RequestId) (chunk : Bytes) (deadline : Option Timestamp)
  | httpResponseWait (id : RequestId) (deadline : Option Timestamp)
  | httpResponseReadBody (id : RequestId) (deadline : Option Timestamp)
  deriving DecidableEq, Repr

namespace HostCall

/-- The calls that read or write local storage. -/
def isStorage : HostCall → Bool
  | .localStorageGet _ _ => true
  | .localStorageSet _ _ _ => true
  | _ => false

/-- The calls guarded by the HTTP capability.  The time has a capability of its
own. -/
def needsHttp : HostCall → Bool
  | .localStorageGet _ _ => false
  | .localStorageSet _ _ _ => false
  | .timestamp => false
  | _ => true

/-- The calls that start a request, add to it or finalise it. -/
def buildsRequest : HostCall → Bool
  | .httpRequestStart _ _ => true
  | .httpRequestAddHeader _ _ _ => true
  | .httpRequestWriteBody _ _ _ => true
  | _ => false

/-- The deadline a blocking call is issued with; `none` for a call that does
not block. -/
def blockingDeadline : HostCall → Option (Option Timestamp)
  | .httpRequestWriteBody _ _ deadline => some deadline
  | .httpResponseWait _ deadline => some deadline
  | .httpResponseReadBody _ deadline => some deadline
  | _ => none

end HostCall

/-- The capabilities of a run.  Those for storage and for the time are given to
every run of an off-chain worker. -/
structure Capabilities where
  http : Bool
  deriving DecidableEq, Repr

structure Host (χ : Type) where
  capabilities : Capabilities
  localStorage : OffchainDb
  clock : Timestamp
  exchange : Exchange
  openRequests : RequestId → Option WireRequest
  sentRequests : List WireRequest
  calls : List HostCall
  log : List LogRecord
  chain : χ

/-- The host at the start of a run: no request is open and nothing is noted. -/
def Host.atStart {χ : Type} (capabilities : Capabilities) (db : OffchainDb)
    (clock : Timestamp) (exchange : Exchange) (chain : χ) : Host χ where
  capabilities := capabilities
  localStorage := db
  clock := clock
  exchange := exchange
  openRequests := fun _ => none
  sentRequests := []
  calls := []
  log := []
  chain := chain

/-- Why a run ends before the end of its code: a Rust panic, or the host
stopping the run at a call it may not make. -/
inductive Trap where
  | panic (message : String)
  | missingCapability
  deriving DecidableEq, Repr

abbrev HostM (χ : Type) (α : Type) := Program (Host χ) Trap α

/-- The host after waiting for an answer: until it is available, or until the
deadline if that comes first. -/
def Host.waited {χ : Type} (host : Host χ)
    (deadline : Option Timestamp) (available : Timestamp) : Host χ :=
  { host with clock := max host.clock (min available (deadline.getD available)) }

def Host.logged {χ : Type} (host : Host χ) (record : LogRecord) : Host χ :=
  { host with log := host.log ++ [record] }

namespace HostM

variable {χ : Type} {α : Type}

/-- The calls a run issues. -/
def issued (program : HostM χ α) (host : Host χ) : List HostCall :=
  (program.final host).calls.drop host.calls.length

/-- Note the call, then check the capability it needs. -/
def call (issued : HostCall) : HostM χ PUnit := fun host =>
  let noted := { host with calls := host.calls ++ [issued] }
  if issued.needsHttp ∧ ¬ host.capabilities.http then
    (.error .missingCapability, noted)
  else
    (.ok ⟨⟩, noted)

/-- The answer of the host to a call it has noted, and the host after it. -/
def answer (respond : Host χ → α × Host χ) : HostM χ α := fun host =>
  (.ok (respond host).1, (respond host).2)

def panic (message : String) : HostM χ α :=
  Program.stop (.panic message)

def log (level : LogLevel) (target message : String) : HostM χ PUnit :=
  Program.modify fun host => host.logged ⟨level, target, message⟩

def localStorageGet (kind : StorageKind) (key : Bytes) :
    HostM χ (Option Bytes) := do
  call (.localStorageGet kind key)
  answer fun host => (host.localStorage kind key, host)

def localStorageSet (kind : StorageKind) (key value : Bytes) :
    HostM χ PUnit := do
  call (.localStorageSet kind key value)
  answer fun host =>
    (⟨⟩, { host with localStorage := host.localStorage.set kind key value })

def timestamp : HostM χ Timestamp := do
  call .timestamp
  answer fun host => (host.clock, host)

def httpRequestStart (method uri : String) :
    HostM χ (Except Unit RequestId) := do
  call (.httpRequestStart method uri)
  answer fun host =>
    match host.exchange.start with
    | .error _ => (.error (), host)
    | .ok id =>
        (.ok id,
          { host with
            openRequests :=
              Function.update host.openRequests id (some ⟨method, uri, []⟩) })

def httpRequestAddHeader (id : RequestId) (name value : String) :
    HostM χ (Except Unit Unit) := do
  call (.httpRequestAddHeader id name value)
  answer fun host =>
    let left :=
      { host.exchange with
        addHeader := fun index => host.exchange.addHeader (index + 1) }
    match host.exchange.addHeader 0 with
    | .error _ => (.error (), { host with exchange := left })
    | .ok _ =>
        (.ok (),
          { host with
            exchange := left
            openRequests :=
              Function.update host.openRequests id <|
                (host.openRequests id).map fun request =>
                  { request with
                    headers := request.headers ++ [(name, value)] } })

/-- An empty chunk finalises the request, which then goes out. -/
def httpRequestWriteBody
    (id : RequestId) (chunk : Bytes) (deadline : Option Timestamp) :
    HostM χ (Except HttpError Unit) := do
  call (.httpRequestWriteBody id chunk deadline)
  answer fun host =>
    let event := host.exchange.finalise
    let waited := host.waited deadline event.available
    match event.answer deadline (.error .deadlineReached) with
    | .error error => (.error error, waited)
    | .ok _ =>
        (.ok (),
          { waited with
            sentRequests :=
              if chunk = [] then
                host.sentRequests ++ (host.openRequests id).toList
              else
                host.sentRequests })

def httpResponseWait (id : RequestId) (deadline : Option Timestamp) :
    HostM χ HttpRequestStatus := do
  call (.httpResponseWait id deadline)
  answer fun host =>
    let event := host.exchange.wait
    (Timed.answer ⟨event.value.toRequestStatus, event.available⟩ deadline
        .deadlineReached,
      host.waited deadline event.available)

/-- One read of the body; the empty read marks its end. -/
def httpResponseReadBody (id : RequestId) (deadline : Option Timestamp) :
    HostM χ (Except HttpError Bytes) := do
  call (.httpResponseReadBody id deadline)
  answer fun host =>
    let reads := host.exchange.body
    let waited := host.waited deadline reads.available
    if Expires deadline reads.available then
      -- What comes too late is still there for the next read.
      (.error .deadlineReached, waited)
    else
      (reads.next,
        { waited with exchange := { host.exchange with body := reads.rest } })

end HostM

end ConfidentialWorker
