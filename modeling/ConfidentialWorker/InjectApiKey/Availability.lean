import ConfidentialWorker.InjectApiKey.Script
import ConfidentialWorker.Pallets.HookRuns

/-!
# Does an injected key reach the worker?

The script reports success whenever the node answers both calls.  The key is
then available to the worker if the node accepted the write and `echo` printed
the key, or if the node refused the write of a key that was there already.
-/

namespace ConfidentialWorker.InjectApiKey

open Program OffchainWorker

variable {χ : Type}

theorem getApiKey_ok_iff (host : Host χ) (key : String) :
    (getApiKey : HostM χ (Except String String)).outcome host =
        .ok (.ok key) ↔
      storedKey host.localStorage = some (Utf8.encode key) := by
  rcases OffchainApiKey.stored_cases host.localStorage apiKeyName with
    absent | ⟨found, present⟩ | ⟨bytes, present, illFormed⟩
  · obtain ⟨_, run, _⟩ := getApiKey_of_absent absent
    have stored : storedKey host.localStorage = none := absent
    simp [outcome, run, stored]
  · have run := getApiKey_of_text present
    have stored :
        storedKey host.localStorage = some (Utf8.encode found) :=
      present
    rw [outcome, run, stored]
    constructor
    · intro same
      cases same
      rfl
    · intro same
      rw [Utf8.encode_injective (Option.some.inj same)]
  · have run := getApiKey_of_illFormed present illFormed
    have stored : storedKey host.localStorage = some bytes := present
    rw [outcome, run, stored]
    constructor
    · intro impossible
      cases impossible
    · intro same
      rw [Option.some.inj same] at illFormed
      exact False.elim (illFormed (Utf8.wellFormed_encode key))

/-- If the script reports success, the worker's next lookup gives the key. -/
def MakesAvailable (endpoint : RpcEndpoint) (nodeUrl : Option String)
    (shell : Shell) (host : Host χ) (key : String) : Prop :=
  ReportsSuccess (injectApiKey endpoint (some key) nodeUrl) shell →
    (getApiKey : HostM χ (Except String String)).outcome
        { host with
          localStorage :=
            ((injectApiKey endpoint (some key) nodeUrl).final
              shell).nodeStorage } =
      .ok (.ok key)

/-- A call fails, so that no success is reported; or the node accepts the write
of a key that `echo` prints; or it refuses the write of the key it stores. -/
inductive KeyGetsThrough (endpoint : RpcEndpoint) (nodeUrl : Option String)
    (db : OffchainDb) (key : String) : Prop where
  | setFails (exitStatus : ℕ) (after : OffchainDb) :
      setCall endpoint (some key) nodeUrl db = (.failed exitStatus, after) →
        KeyGetsThrough endpoint nodeUrl db key
  | getFails (response : RpcResponse) (written : OffchainDb)
      (exitStatus : ℕ) (after : OffchainDb) :
      setCall endpoint (some key) nodeUrl db = (.answered response, written) →
      getCall endpoint nodeUrl written = (.failed exitStatus, after) →
        KeyGetsThrough endpoint nodeUrl db key
  | accepted (response : RpcResponse) (written : OffchainDb) :
      setCall endpoint (some key) nodeUrl db = (.answered response, written) →
      response.isError = false →
      isEchoOption key = false →
        KeyGetsThrough endpoint nodeUrl db key
  | refused (response : RpcResponse) (written : OffchainDb) :
      setCall endpoint (some key) nodeUrl db = (.answered response, written) →
      response.isError = true →
      storedKey db = some (Utf8.encode key) →
        KeyGetsThrough endpoint nodeUrl db key

section Documented

variable {endpoint : RpcEndpoint} (documented : endpoint.Documented)
  {nodeUrl : Option String} {key : String}

include documented in
/-- What an answered write leaves under the worker's key. -/
theorem storedKey_of_setCall
    {argument : Option String} {db written : OffchainDb}
    {response : RpcResponse}
    (set :
      setCall endpoint argument nodeUrl db = (.answered response, written)) :
    storedKey written =
      if response.isError then
        storedKey db
      else
        some (echoN (apiKeyOf argument)) := by
  have plainName : echoN storageKey = Utf8.encode apiKeyName :=
    echoN_of_not_option (by decide)
  have written_eq :=
    documented.localStorageSet _ _ _ _ _ db response written
      (decode_hexOf storageKey) (decode_hexOf _) set
  rw [plainName] at written_eq
  cases refused : response.isError with
  | true =>
      rw [written_eq, refused]
      rfl
  | false =>
      rw [written_eq, refused]
      simp [storedKey, OffchainApiKey.stored, OffchainDb.set]

include documented in
private theorem storedKey_of_set
    (nonempty : key ≠ "") {db written : OffchainDb} {response : RpcResponse}
    (set :
      setCall endpoint (some key) nodeUrl db = (.answered response, written)) :
    storedKey written =
      if response.isError then storedKey db else some (echoN key) := by
  have stored := storedKey_of_setCall documented set
  rw [apiKeyOf, orDefault_of_nonempty nonempty] at stored
  exact stored

/-- `echo` prints a key that is not empty unless it takes it for an option. -/
private theorem echoN_eq_encode_iff (nonempty : key ≠ "") :
    echoN key = Utf8.encode key ↔ isEchoOption key = false := by
  constructor
  · intro same
    by_contra isOption
    have swallowed : echoN key = Utf8.encode "" := by
      simp [echoN, isOption, Utf8.encode]
    exact nonempty (Utf8.encode_injective (same.symm.trans swallowed))
  · exact echoN_of_not_option

include documented in
/-- With both calls answered, the promise comes down to what is stored. -/
private theorem makesAvailable_iff_of_answered
    {shell : Shell} (host : Host χ)
    {setResponse getResponse : RpcResponse} {written after : OffchainDb}
    (set :
      setCall endpoint (some key) nodeUrl shell.nodeStorage =
        (.answered setResponse, written))
    (get : getCall endpoint nodeUrl written = (.answered getResponse, after)) :
    MakesAvailable endpoint nodeUrl shell host key ↔
      storedKey written = some (Utf8.encode key) := by
  obtain ⟨reported, storage⟩ := reportsSuccess_of_answered set get
  have unchanged : after = written :=
    documented.localStorageGet _ _ _ written getResponse after
      (decode_hexOf storageKey) get
  unfold MakesAvailable
  rw [storage, unchanged, getApiKey_ok_iff]
  constructor
  · intro available
    exact available reported
  · intro stored _
    exact stored

include documented in
private theorem keyGetsThrough_iff_of_answered
    (nonempty : key ≠ "") {db : OffchainDb}
    {setResponse getResponse : RpcResponse} {written after : OffchainDb}
    (set :
      setCall endpoint (some key) nodeUrl db =
        (.answered setResponse, written))
    (get : getCall endpoint nodeUrl written = (.answered getResponse, after)) :
    KeyGetsThrough endpoint nodeUrl db key ↔
      storedKey written = some (Utf8.encode key) := by
  have stored := storedKey_of_set documented nonempty set
  constructor
  · intro through
    cases through with
    | setFails exitStatus other failed =>
        rw [set] at failed
        cases failed
    | getFails response other exitStatus later answered failed =>
        rw [set] at answered
        cases answered
        rw [get] at failed
        cases failed
    | accepted response other answered ok plain =>
        rw [set] at answered
        cases answered
        rw [stored, ok, echoN_of_not_option plain]
        rfl
    | refused response other answered refused present =>
        rw [set] at answered
        cases answered
        rw [stored, refused]
        exact present
  · intro present
    rw [stored] at present
    cases refused : setResponse.isError with
    | true =>
        rw [refused] at present
        exact .refused setResponse written set refused present
    | false =>
        rw [refused] at present
        have printed : echoN key = Utf8.encode key := Option.some.inj present
        exact
          .accepted setResponse written set refused
            ((echoN_eq_encode_iff nonempty).mp printed)

/-- The script makes a key available exactly when the key gets through. -/
theorem makesAvailable_iff
    {endpoint : RpcEndpoint} (documented : endpoint.Documented)
    (nodeUrl : Option String) {key : String} (nonempty : key ≠ "")
    (shell : Shell) (host : Host χ) :
    MakesAvailable endpoint nodeUrl shell host key ↔
      KeyGetsThrough endpoint nodeUrl shell.nodeStorage key := by
  rcases set : setCall endpoint (some key) nodeUrl shell.nodeStorage with
    ⟨exitStatus | response, written⟩
  · have notReported := not_reportsSuccess_of_set_failed set
    exact
      iff_of_true (fun reported => False.elim (notReported reported))
        (.setFails exitStatus written set)
  · rcases get : getCall endpoint nodeUrl written with
      ⟨exitStatus | getResponse, after⟩
    · have notReported := not_reportsSuccess_of_get_failed set get
      exact
        iff_of_true (fun reported => False.elim (notReported reported))
          (.getFails response written exitStatus after set get)
    · exact
        (makesAvailable_iff_of_answered documented host set get).trans
          (keyGetsThrough_iff_of_answered documented nonempty set get).symm

end Documented

/-- A node that refuses unsafe calls from outside. -/
def refusingNode : RpcEndpoint where
  post _ _ db :=
    (.answered ⟨true, "RPC call is unsafe to be called externally"⟩, db)

theorem refusingNode_documented : refusingNode.Documented where
  localStorageSet _ _ _ _ _ db response after _ _ answered := by
    simp only [refusingNode, Prod.mk.injEq, Posted.answered.injEq] at answered
    obtain ⟨response_eq, after_eq⟩ := answered
    rw [← response_eq, ← after_eq]
    rfl
  localStorageGet _ _ _ db response after _ answered := by
    simp only [refusingNode, Prod.mk.injEq] at answered
    exact answered.2.symm

def freshShell : Shell :=
  ⟨fun _ _ => none, []⟩

/-- The host of a node that stores nothing. -/
def freshHost : Host Unit :=
  Host.atStart ⟨true⟩ (fun _ _ => none) 0
    { start := .error ()
      addHeader := fun _ => .error ()
      finalise := ⟨.error .ioError, 0⟩
      wait := ⟨.ioError, 0⟩
      body := .endOfBody 0 } ()

theorem makesAvailable_fails_on_refusingNode :
    ReportsSuccess (injectApiKey refusingNode (some "secret") none)
        freshShell ∧
      ¬ MakesAvailable refusingNode none freshShell freshHost "secret" := by
  have set :
      setCall refusingNode (some "secret") none freshShell.nodeStorage =
        (.answered _, freshShell.nodeStorage) :=
    rfl
  have get :
      getCall refusingNode none freshShell.nodeStorage =
        (.answered _, freshShell.nodeStorage) :=
    rfl
  refine ⟨(reportsSuccess_of_answered set get).1, ?_⟩
  rw [makesAvailable_iff_of_answered refusingNode_documented freshHost set get]
  intro present
  cases present

theorem makesAvailable_iff_on_refusingNode :
    MakesAvailable refusingNode none freshShell freshHost "secret" ↔
      KeyGetsThrough refusingNode none freshShell.nodeStorage "secret" :=
  makesAvailable_iff refusingNode_documented none (by decide) freshShell
    freshHost

end ConfidentialWorker.InjectApiKey
