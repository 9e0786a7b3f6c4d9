import ConfidentialWorker.System.World

/-!
# Rotating the key

Over a whole history of a node, local storage holds under every name the value
stored last under that name.  A run of the hook therefore uses the key that was
stored last, however many stores and runs came in between, and leaves local
storage as it was.

Raw writes are left out: they may put bytes there that are no text.
-/

namespace ConfidentialWorker

open Program OffchainWorker

variable {width : ℕ} {frame : FrameSystem width}

namespace Operation

/-- The value that an operation stores under a name on this node. -/
def stores (name : String) : Operation frame → Option String
  | .storeApiKey environment key value =>
      if key = name ∧ environment.elsewhere.isNone then some value else none
  | _ => none

def isRawWrite : Operation frame → Bool
  | .localStorageSet _ _ _ => true
  | _ => false

end Operation

namespace World

/-- One step changes what is stored under a name only by storing there. -/
theorem step_stored
    {client : HttpClient (Chain frame)} (documented : client.Documented)
    (world : World frame) {operation : Operation frame}
    (notRaw : operation.isRawWrite = false) (name : String) :
    OffchainApiKey.stored (step client world operation).2.localStorage name =
      ((operation.stores name).map Utf8.encode).or
        (OffchainApiKey.stored world.localStorage name) := by
  cases operation with
  | dispatch origin call | systemStep change =>
      rfl
  | offchainWorker environment blockNumber =>
      have kept :=
        runOffchain_localStorage
          (offchainWorker_keepsStorage documented blockNumber) environment world
      simp only [step, kept]
      rfl
  | storeApiKey environment key value =>
      cases place : environment.elsewhere with
      | none =>
          have reached :
              (step client world
                (.storeApiKey environment key value)).2.localStorage =
                world.localStorage.set .persistent (Utf8.encode key)
                  (Utf8.encode value) := by
            simp only [step, runOffchain_own _ place, final,
              OffchainApiKey.storeApiKey_apply]
            rfl
          rw [reached, OffchainApiKey.stored_set]
          by_cases same : name = key
          · simp [Operation.stores, same, place]
          · have other : ¬ key = name :=
              fun equality => same equality.symm
            simp [Operation.stores, same, other]
      | some other =>
          simp [Operation.stores, step, runOffchain, place]
  | localStorageSet kind key value =>
      cases notRaw

/-- Under every name lies what was stored there last. -/
theorem reach_stored
    {client : HttpClient (Chain frame)} (documented : client.Documented)
    {start : World frame} (empty : start.localStorage = fun _ _ => none)
    (operations : List (Operation frame))
    (noRawWrites :
      ∀ operation ∈ operations, operation.isRawWrite = false)
    (name : String) :
    OffchainApiKey.stored
        (History.reach (step client) start operations).localStorage name =
      (History.latest (Operation.stores name) operations).map Utf8.encode := by
  refine
    History.reach_induction
      (fun before (world : World frame) =>
        (∀ operation ∈ before, operation.isRawWrite = false) →
          OffchainApiKey.stored world.localStorage name =
            (History.latest (Operation.stores name) before).map Utf8.encode)
      ?_ ?_ operations noRawWrites
  · intro _
    rw [empty]
    rfl
  · intro before operation world _ inductionHypothesis noRaw
    have beforeNoRaw :
        ∀ earlier ∈ before, earlier.isRawWrite = false :=
      fun earlier member => noRaw earlier (List.mem_append_left _ member)
    have notRaw : operation.isRawWrite = false :=
      noRaw operation (by simp)
    rw [step_stored documented world notRaw, inductionHypothesis beforeNoRaw,
      History.latest_snoc]
    cases operation.stores name <;> rfl

/-- What a run of the hook does after the given operations: without a key it
makes no HTTP call, with a key it builds and sends its one request with the
bytes of the key stored last. -/
structure UsesLatestKey
    (before : List (Operation frame)) (reached : Host (Chain frame)) :
    Prop where
  withoutKey :
    (∀ operation ∈ before, operation.stores apiKeyName = none) →
      ∀ call ∈ reached.calls, call.isStorage = true
  withKey :
    ∀ earlier store value later,
      before = earlier ++ store :: later →
      store.stores apiKeyName = some value →
      (∀ operation ∈ later, operation.stores apiKeyName = none) →
        BuildsKeyed value reached.calls ∧
          ∀ request ∈ reached.sentRequests,
            ∃ w,
              request = ⟨"GET", url, [("Authorization", w)]⟩ ∧
                Utf8.encode w = Utf8.encode value

theorem UsesLatestKey.of_none
    {before : List (Operation frame)} {reached : Host (Chain frame)}
    (noneStored : History.latest (Operation.stores apiKeyName) before = none)
    (localOnly : ∀ call ∈ reached.calls, call.isStorage = true) :
    UsesLatestKey before reached := by
  constructor
  · intro _
    exact localOnly
  · intro earlier store value later split stored unstored
    rw [split, History.latest_of_split stored earlier unstored] at noneStored
    cases noneStored

theorem UsesLatestKey.of_some
    {before : List (Operation frame)} {reached : Host (Chain frame)}
    {apiKey : String}
    (latest :
      History.latest (Operation.stores apiKeyName) before = some apiKey)
    (built : BuildsKeyed apiKey reached.calls)
    (wire :
      reached.sentRequests = [] ∨ reached.sentRequests = [keyedWire apiKey]) :
    UsesLatestKey before reached := by
  constructor
  · intro unstored
    rw [History.latest_of_none unstored] at latest
    cases latest
  · intro earlier store value later split stored unstored
    rw [split, History.latest_of_split stored earlier unstored] at latest
    cases latest
    refine ⟨built, ?_⟩
    intro request member
    rcases wire with unsent | sent
    · rw [unsent] at member
      cases member
    · rw [sent] at member
      exact ⟨apiKey, List.mem_singleton.mp member, rfl⟩

private theorem usesLatestKey_of_absent
    (client : HttpClient (Chain frame)) (blockNumber : BlockNumber width)
    {before : List (Operation frame)} {environment : Environment frame}
    {world : World frame}
    (noneStored : History.latest (Operation.stores apiKeyName) before = none)
    (absent : storedKey world.localStorage = none) :
    UsesLatestKey before
      ((offchainWorker client blockNumber).final (world.host environment)) := by
  have hostAbsent :
      storedKey (world.host environment).localStorage = none :=
    absent
  obtain ⟨reached, run, called, _⟩ :=
    offchainWorker_of_absent client blockNumber hostAbsent
  rw [final, run]
  refine UsesLatestKey.of_none noneStored ?_
  intro call member
  rw [called] at member
  rw [List.mem_singleton.mp member]
  rfl

private theorem usesLatestKey_of_text
    {client : HttpClient (Chain frame)} (documented : client.Documented)
    (blockNumber : BlockNumber width)
    {before : List (Operation frame)} {environment : Environment frame}
    {world : World frame} {apiKey : String}
    (latest :
      History.latest (Operation.stores apiKeyName) before = some apiKey)
    (present : storedKey world.localStorage = some (Utf8.encode apiKey)) :
    UsesLatestKey before
      ((offchainWorker client blockNumber).final (world.host environment)) := by
  have hostPresent :
      storedKey (world.host environment).localStorage =
        some (Utf8.encode apiKey) :=
    present
  obtain ⟨result, reached, made, run, called, built, wire⟩ :=
    offchainWorker_requests documented blockNumber hostPresent
  have calls : reached.calls = made := called
  rw [final, run]
  exact UsesLatestKey.of_some latest (by rw [calls]; exact built) wire

/-- In every history without raw writes each run of the hook uses the key that
was stored last before it, and changes nothing in local storage. -/
theorem worker_usesLatestKey
    {client : HttpClient (Chain frame)} (documented : client.Documented)
    {start : World frame} (empty : start.localStorage = fun _ _ => none)
    {before : List (Operation frame)}
    (noRawWrites : ∀ operation ∈ before, operation.isRawWrite = false)
    {environment : Environment frame} (own : environment.elsewhere = none)
    (blockNumber : BlockNumber width) :
    ∃ result reached after,
      step client (History.reach (step client) start before)
          (.offchainWorker environment blockNumber) =
          (.ran result reached, after) ∧
        UsesLatestKey before reached ∧
          after.localStorage =
            (History.reach (step client) start before).localStorage := by
  have stored := reach_stored documented empty before noRawWrites apiKeyName
  generalize History.reach (step client) start before = world at stored ⊢
  have run :
      step client world (.offchainWorker environment blockNumber) = _ :=
    runOffchain_own (offchainWorker client blockNumber) own world
  refine ⟨_, _, _, run, ?_, ?_⟩
  · cases latest : History.latest (Operation.stores apiKeyName) before with
    | none =>
        rw [latest] at stored
        exact usesLatestKey_of_absent client blockNumber latest stored
    | some apiKey =>
        rw [latest] at stored
        exact usesLatestKey_of_text documented blockNumber latest stored
  · exact
      (offchainWorker_keepsStorage documented blockNumber).final_eq
        (world.host environment)

end World

/-! A node that stores a key, rotates it and stores another name's key. -/

/-- The node's own runs, on a host that accepts every call. -/
def ownEnvironment : Environment (FrameSystem.listing 32) where
  capabilities := ⟨true⟩
  clock := 0
  exchange := OffchainFetcher.answeringExchange (.endOfBody 0)
  elsewhere := none

def rotation : List (Operation (FrameSystem.listing 32)) :=
  [.offchainWorker ownEnvironment 1,
    .storeApiKey ownEnvironment "api_key" "alpha",
    .storeApiKey ownEnvironment "api_key" "omega",
    .storeApiKey ownEnvironment "other" "delta"]

theorem worker_usesLatestKey_after_rotation :
    ∃ result reached after,
      World.step (HttpClient.reference _)
          (History.reach (World.step (HttpClient.reference _)) emptyWorld
            rotation)
          (.offchainWorker ownEnvironment 2) =
          (.ran result reached, after) ∧
        World.UsesLatestKey rotation reached ∧
          after.localStorage =
            (History.reach (World.step (HttpClient.reference _)) emptyWorld
              rotation).localStorage :=
  World.worker_usesLatestKey HttpClient.reference_documented rfl
    (by decide) rfl 2

end ConfidentialWorker
