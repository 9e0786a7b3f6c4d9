import ConfidentialWorker.Library.Overlapping
import ConfidentialWorker.System.KeyRotation

/-!
# Overlapping runs of the hook

The node runs the hook for every block it imports, each run in a task of its
own on the state of its block.  A run that waits for its response is still
under way when the next block arrives, and keys may be stored meanwhile.

A run reads local storage once, in its lookup.  It is therefore split there:
up to the lookup, and from it on.  The second part meets local storage as it
is by then.
-/

namespace ConfidentialWorker

open Program

variable {width : ℕ} {frame : FrameSystem width}

namespace OffchainWorker

variable {χ : Type}

def lookUp : HostM χ (Except String String) := do
  HostM.log .trace "logger" "Ping from offchain workers!"
  getApiKey

def carryOn (client : HttpClient (Chain frame))
    (blockNumber : BlockNumber width) :
    Except String String → HostM (Chain frame) PUnit
  | .ok apiKey => do
      HostM.log .info target ("API key retrieved: " ++ apiKey)
      useApiKey client blockNumber apiKey
  | .error e =>
      HostM.log .error target ("Offchain worker error: " ++ debug e)

theorem offchainWorker_eq (client : HttpClient (Chain frame))
    (blockNumber : BlockNumber width) :
    offchainWorker client blockNumber =
      lookUp >>= carryOn client blockNumber := by
  rw [lookUp, bind_assoc]
  rfl

theorem lookUp_apply (host : Host χ) :
    lookUp host = getApiKey (host.logged pingRecord) :=
  bind_of_ok (HostM.log_apply _ _ _ host) _

theorem lookUp_keepsStorage :
    Preserves Host.localStorage (lookUp : HostM χ (Except String String)) := by
  apply respects_bind (HostM.log_preserves _ _ _ _ fun _ _ => rfl)
  intro _
  exact getApiKey_preserves Host.localStorage fun _ _ _ => rfl

/-! ## From the lookup on -/

/-- What can be seen of a run outside its host. -/
def shown (host : Host χ) : List LogRecord × List WireRequest :=
  (host.log, host.sentRequests)

section Documented

variable {client : HttpClient (Chain frame)} (documented : client.Documented)
include documented

theorem carryOn_keepsStorage (blockNumber : BlockNumber width)
    (found : Except String String) :
    Preserves Host.localStorage (carryOn client blockNumber found) := by
  cases found with
  | ok apiKey =>
      apply respects_bind (HostM.log_preserves _ _ _ _ fun _ _ => rfl)
      intro _ host
      have kept :=
        (useApiKey_backdrop documented blockNumber apiKey).final_eq host
      exact congrArg (fun backdrop => backdrop.2.1) kept
  | error e =>
      exact HostM.log_preserves _ _ _ _ fun _ _ => rfl

/-- With its key in hand, a run does not look at local storage again. -/
theorem useApiKey_ignoresStorage
    (blockNumber : BlockNumber width) (apiKey : String)
    (host : Host (Chain frame)) (db : OffchainDb) :
    (useApiKey client blockNumber apiKey).outcome
          { host with localStorage := db } =
        (useApiKey client blockNumber apiKey).outcome host ∧
      shown
          ((useApiKey client blockNumber apiKey).final
            { host with localStorage := db }) =
        shown ((useApiKey client blockNumber apiKey).final host) := by
  cases permits : host.capabilities.http with
  | false =>
      have changedPermits :
          ({ host with localStorage := db } :
            Host (Chain frame)).capabilities.http = false :=
        permits
      rw [outcome, outcome, final, final,
        useApiKey_of_missing documented blockNumber apiKey permits,
        useApiKey_of_missing documented blockNumber apiKey changedPermits]
      exact ⟨rfl, rfl⟩
  | true =>
      have changedPermits :
          ({ host with localStorage := db } :
            Host (Chain frame)).capabilities.http = true :=
        permits
      obtain ⟨result, reached, _, run, _, _, fetched, logged, wire⟩ :=
        useApiKey_of_permits documented blockNumber apiKey permits
      obtain ⟨result', reached', _, run', _, _, fetched', logged', wire'⟩ :=
        useApiKey_of_permits documented blockNumber apiKey changedPermits
      have sameResult : result' = result := fetchResult_unique fetched' fetched
      have sameLog : reached'.log = reached.log := by
        rw [logged, logged', sameResult]
      have sameSent : reached'.sentRequests = reached.sentRequests :=
        sendsKeyed_unique wire' wire
      rw [outcome, outcome, final, final, run, run']
      exact ⟨rfl, Prod.ext sameLog sameSent⟩

theorem carryOn_ignoresStorage
    (blockNumber : BlockNumber width) (found : Except String String)
    (host : Host (Chain frame)) (db : OffchainDb) :
    (carryOn client blockNumber found).outcome
          { host with localStorage := db } =
        (carryOn client blockNumber found).outcome host ∧
      shown
          ((carryOn client blockNumber found).final
            { host with localStorage := db }) =
        shown ((carryOn client blockNumber found).final host) := by
  cases found with
  | ok apiKey =>
      exact
        useApiKey_ignoresStorage documented blockNumber apiKey
          (host.logged (keyRecord apiKey)) db
  | error e =>
      exact ⟨rfl, rfl⟩

end Documented

/-! ## What a run comes to -/

/-- How a run ends that looks up its key on the given host, with all that it
has then asked of the host, logged and sent. -/
inductive RunsTo (blockNumber : BlockNumber width) (start : Host (Chain frame)) :
    Except Trap PUnit → Host (Chain frame) → Prop where
  | withoutKey {reached : Host (Chain frame)}
      (absent : storedKey start.localStorage = none)
      (called : reached.calls = start.calls ++ [lookupCall])
      (logged : reached.log = start.log ++ missingKeyRecords)
      (unsent : reached.sentRequests = start.sentRequests) :
      RunsTo blockNumber start (.ok ⟨⟩) reached
  | withoutText {reached : Host (Chain frame)} {bytes : Bytes}
      (present : storedKey start.localStorage = some bytes)
      (illFormed : ¬ Utf8.WellFormed bytes)
      (called : reached.calls = start.calls ++ [lookupCall])
      (logged : reached.log = start.log ++ [pingRecord])
      (unsent : reached.sentRequests = start.sentRequests) :
      RunsTo blockNumber start (.error (.panic "Invalid UTF-8")) reached
  | forbidden {reached : Host (Chain frame)} {apiKey : String}
      (present : storedKey start.localStorage = some (Utf8.encode apiKey))
      (missing : start.capabilities.http = false)
      (called :
        reached.calls =
          start.calls ++
            [lookupCall, .timestamp, .httpRequestStart "GET" url])
      (logged : reached.log = start.log ++ [pingRecord, keyRecord apiKey])
      (unsent : reached.sentRequests = start.sentRequests) :
      RunsTo blockNumber start (.error .missingCapability) reached
  | permitted {reached : Host (Chain frame)} {apiKey : String}
      {result : Except String String} {made : List HostCall}
      (present : storedKey start.localStorage = some (Utf8.encode apiKey))
      (permits : start.capabilities.http = true)
      (called :
        reached.calls =
          start.calls ++
            lookupCall :: .timestamp :: .httpRequestStart "GET" url :: made)
      (built : BuildsKeyed apiKey (.httpRequestStart "GET" url :: made))
      (fetched : FetchResult start result)
      (logged :
        reached.log =
          start.log ++
            [pingRecord, keyRecord apiKey, responseRecord result,
              blockRecord start.chain blockNumber])
      (wire : SendsKeyed apiKey start reached) :
      RunsTo blockNumber start (.ok ⟨⟩) reached

end OffchainWorker

open OffchainWorker Overlapping

/-- A run of the hook for a block, with the state of that block. -/
structure HookRun (frame : FrameSystem width) where
  capabilities : Capabilities
  clock : Timestamp
  exchange : Exchange
  chain : Chain frame
  blockNumber : BlockNumber width

/-- A run that has looked up its key. -/
structure Underway (frame : FrameSystem width) where
  blockNumber : BlockNumber width
  found : Except Trap (Except String String)
  host : Host (Chain frame)

namespace HookRun

/-- The host on which the run starts. -/
def host (run : HookRun frame) (world : World frame) : Host (Chain frame) :=
  Host.atStart run.capabilities world.localStorage run.clock run.exchange
    run.chain

def begin (run : HookRun frame) (world : World frame) : Underway frame :=
  let (found, host) := lookUp (run.host world)
  ⟨run.blockNumber, found, host⟩

/-- The same run as one operation on the state of its block. -/
def operation (run : HookRun frame) (world : World frame) : Operation frame :=
  .offchainWorker
    ⟨run.capabilities, run.clock, run.exchange,
      some ⟨run.chain, world.localStorage⟩⟩
    run.blockNumber

end HookRun

def Underway.finish (client : HttpClient (Chain frame))
    (underway : Underway frame) (world : World frame) :
    Report frame × World frame :=
  let host := { underway.host with localStorage := world.localStorage }
  match underway.found with
  | .error trap => (.ran (.error trap) host, world)
  | .ok found =>
      let (result, reached) :=
        carryOn client underway.blockNumber found host
      (.ran result reached, { world with localStorage := reached.localStorage })

/-- What can be seen of a report. -/
inductive Observed where
  | dispatched (result : Except DispatchError PUnit)
  | ran (result : Except Trap PUnit)
      (shown : List LogRecord × List WireRequest)
  | done

def Report.observed : Report frame → Observed
  | .dispatched result => .dispatched result
  | .ran result reached => .ran result (shown reached)
  | .done => .done

namespace World

/-- The node with runs of the hook that overlap. -/
def overlapping (client : HttpClient (Chain frame)) :
    Phased (World frame) (Operation frame) (HookRun frame) (Underway frame)
      (Report frame) where
  step := step client
  start := fun world run => run.begin world
  finish := fun underway world => underway.finish client world

section Documented

variable {client : HttpClient (Chain frame)} (documented : client.Documented)
include documented

/-- A run in two parts with nothing between them is the run as one operation. -/
theorem atOnce_eq_step (world : World frame) (run : HookRun frame) :
    (overlapping client).atOnce world (.inr run) =
      step client world (run.operation world) := by
  rcases looked : lookUp (run.host world) with ⟨found, host⟩
  have keptStorage : host.localStorage = world.localStorage :=
    lookUp_keepsStorage.of_apply_eq looked
  have sameHost : { host with localStorage := world.localStorage } = host := by
    rw [← keptStorage]
  have begun : run.begin world = ⟨run.blockNumber, found, host⟩ := by
    rw [HookRun.begin, looked]
  have whole :
      step client world (run.operation world) =
        let (result, reached) :=
          offchainWorker client run.blockNumber (run.host world)
        (.ran result reached, world) :=
    rfl
  change (run.begin world).finish client world = _
  rw [whole, begun, offchainWorker_eq, Underway.finish, sameHost]
  cases found with
  | error trap =>
      rw [bind_of_error looked]
  | ok found =>
      have kept :=
        (carryOn_keepsStorage documented run.blockNumber found).final_eq host
      rw [bind_of_ok looked]
      change
        (_, (⟨world.chain,
          ((carryOn client run.blockNumber found).final host).localStorage⟩ :
            World frame)) = _
      rw [kept, keptStorage]
      rfl

/-- From its lookup on, a run neither changes the node nor shows what local
storage has become. -/
theorem overlapping_detached :
    (overlapping client).Detached Report.observed where
  finish_state := by
    intro underway world
    change (underway.finish client world).2 = world
    unfold Underway.finish
    cases underway.found with
    | error trap =>
        rfl
    | ok found =>
        have kept :=
          (carryOn_keepsStorage documented underway.blockNumber found).final_eq
            { underway.host with localStorage := world.localStorage }
        change
          (⟨world.chain,
            ((carryOn client underway.blockNumber found).final
              { underway.host with
                localStorage := world.localStorage }).localStorage⟩ :
              World frame) = world
        rw [kept]
  finish_observed := by
    intro underway world other
    change
      (underway.finish client world).1.observed =
        (underway.finish client other).1.observed
    unfold Underway.finish
    cases underway.found with
    | error trap =>
        rfl
    | ok found =>
        obtain ⟨sameOutcome, sameShown⟩ :=
          carryOn_ignoresStorage documented underway.blockNumber found
            underway.host world.localStorage
        obtain ⟨sameOutcome', sameShown'⟩ :=
          carryOn_ignoresStorage documented underway.blockNumber found
            underway.host other.localStorage
        have both :
            Observed.ran _ _ = Observed.ran _ _ :=
          congr
            (congrArg Observed.ran (sameOutcome.trans sameOutcome'.symm))
            (sameShown.trans sameShown'.symm)
        exact both

/-! ## Histories of overlapping runs -/

omit documented

/-- A history of the node in which every run of the hook is one operation. -/
def inOnePiece (client : HttpClient (Chain frame)) (world : World frame) :
    List (Operation frame ⊕ HookRun frame) → List (Operation frame)
  | [] => []
  | .inl operation :: rest =>
      operation :: inOnePiece client (step client world operation).2 rest
  | .inr run :: rest =>
      run.operation world ::
        inOnePiece client (step client world (run.operation world)).2 rest

include documented

theorem reach_inOnePiece (world : World frame)
    (history : List (Operation frame ⊕ HookRun frame)) :
    History.reach (overlapping client).atOnce world history =
      History.reach (step client) world (inOnePiece client world history) := by
  induction history generalizing world with
  | nil =>
      rfl
  | cons first rest inductionHypothesis =>
      cases first with
      | inl operation =>
          exact inductionHypothesis (step client world operation).2
      | inr run =>
          have later :=
            inductionHypothesis (step client world (run.operation world)).2
          change
            History.reach _ ((overlapping client).atOnce world (.inr run)).2
              rest = _
          rw [atOnce_eq_step documented]
          exact later

theorem observed_inOnePiece (world : World frame)
    (history : List (Operation frame ⊕ HookRun frame)) :
    (overlapping client).observedAtOnce Report.observed world history =
      (History.trace (step client) world
        (inOnePiece client world history)).map fun entry =>
          entry.2.observed := by
  induction history generalizing world with
  | nil =>
      rfl
  | cons first rest inductionHypothesis =>
      cases first with
      | inl operation =>
          exact
            congrArg (List.cons _)
              (inductionHypothesis (step client world operation).2)
      | inr run =>
          have later :=
            inductionHypothesis (step client world (run.operation world)).2
          unfold Phased.observedAtOnce History.trace
          rw [atOnce_eq_step documented]
          exact congrArg (List.cons _) later

/-- Runs of the hook may overlap in any way: the node ends as it does, and shows
what it shows, in a history of whole runs.  In it each run that finishes stands
where it looked up its key. -/
theorem overlappingRuns_serial (world : World frame)
    (events : List (Event (Operation frame) (HookRun frame))) :
    (History.reach (overlapping client).overlapped
          ⟨world, fun _ => none⟩ events).state =
        History.reach (step client) world
          (inOnePiece client world (serial events)) ∧
      ((overlapping client).observed Report.observed
            ⟨world, fun _ => none⟩ events).Perm
        ((History.trace (step client) world
          (inOnePiece client world (serial events))).map fun entry =>
            entry.2.observed) := by
  have detached := overlapping_detached documented
  constructor
  · rw [Phased.reach_overlapped_state detached,
      ← reach_inOnePiece documented, Phased.reach_serial detached]
  · rw [← observed_inOnePiece documented]
    exact Phased.observed_perm_serial detached world events

/-! ## The key of a run in flight -/

private theorem finish_of_text
    (run : HookRun frame) {world : World frame} {apiKey : String}
    (looked :
      lookUp (run.host world) =
        (.ok (.ok apiKey),
          { (run.host world).logged pingRecord with calls := [lookupCall] }))
    (present : storedKey world.localStorage = some (Utf8.encode apiKey))
    (now : World frame) :
    ∃ result reached,
      ((run.begin world).finish client now).1 = .ran result reached ∧
        RunsTo run.blockNumber (run.host world) result reached := by
  let resumed : Host (Chain frame) :=
    { keyLogged apiKey (run.host world) with
      localStorage := now.localStorage }
  have finished :
      ((run.begin world).finish client now).1 =
        .ran (useApiKey client run.blockNumber apiKey resumed).1
          (useApiKey client run.blockNumber apiKey resumed).2 := by
    rw [HookRun.begin, looked]
    rfl
  cases permits : run.capabilities.http with
  | false =>
      have resumedMissing : resumed.capabilities.http = false := permits
      have stopped :=
        useApiKey_of_missing documented run.blockNumber apiKey resumedMissing
      rw [stopped] at finished
      exact ⟨_, _, finished, .forbidden present permits rfl rfl rfl⟩
  | true =>
      have resumedPermits : resumed.capabilities.http = true := permits
      obtain ⟨_, reached, made, used, called, built, fetched, logged, wire⟩ :=
        useApiKey_of_permits documented run.blockNumber apiKey resumedPermits
      rw [used] at finished
      exact
        ⟨_, reached, finished,
          .permitted present permits called built fetched logged wire⟩

/-- A run comes to what it comes to on the host it started on, whatever local
storage holds when it goes on. -/
theorem finish_runsTo (run : HookRun frame) (world now : World frame) :
    ∃ result reached,
      ((run.begin world).finish client now).1 = .ran result reached ∧
        RunsTo run.blockNumber (run.host world) result reached := by
  rcases OffchainApiKey.stored_cases world.localStorage apiKeyName with
    absent | ⟨apiKey, present⟩ | ⟨bytes, present, illFormed⟩
  · have stillAbsent :
        storedKey ((run.host world).logged pingRecord).localStorage = none :=
      absent
    obtain ⟨asked, found, called, logged⟩ := getApiKey_of_absent stillAbsent
    have looked : lookUp (run.host world) = _ :=
      (lookUp_apply _).trans found
    have sent : asked.sentRequests = [] :=
      (getApiKey_preserves Host.sentRequests fun _ _ _ => rfl).of_apply_eq found
    refine ⟨_, _, by rw [HookRun.begin, looked, Underway.finish], ?_⟩
    refine .withoutKey absent called ?_ sent
    change asked.log ++ [_] = _
    rw [logged]
    rfl
  · have stillPresent :
        storedKey ((run.host world).logged pingRecord).localStorage =
          some (Utf8.encode apiKey) :=
      present
    have found := getApiKey_of_text stillPresent
    have looked : lookUp (run.host world) = _ :=
      (lookUp_apply _).trans found
    exact finish_of_text documented run looked present now
  · have stillPresent :
        storedKey ((run.host world).logged pingRecord).localStorage =
          some bytes :=
      present
    have found := getApiKey_of_illFormed stillPresent illFormed
    have looked : lookUp (run.host world) = _ :=
      (lookUp_apply _).trans found
    refine ⟨_, _, by rw [HookRun.begin, looked, Underway.finish], ?_⟩
    exact .withoutText present illFormed rfl rfl rfl

/-- A run under way ends as it would have ended alone, on the node as it was when
it looked up its key: whatever is stored, and whichever runs start or finish,
before it ends.  If the node began with nothing stored and nobody wrote raw
bytes, the key it found is the key stored last before it started. -/
theorem inFlight_usesLatestKey
    (start : World frame)
    (before : List (Event (Operation frame) (HookRun frame)))
    (run : HookRun frame) {ticket : ℕ}
    {during : List (Event (Operation frame) (HookRun frame))}
    (unconcerned : ∀ event ∈ during, event.concerns ticket = false) :
    ∃ lookedAt last result reached after,
      lookedAt =
          History.reach (step client) start
            (before.filterMap Event.asShort) ∧
        last =
            History.reach (overlapping client).overlapped
              ⟨start, fun _ => none⟩ (before ++ .start ticket run :: during) ∧
          (overlapping client).overlapped last (.finish ticket) =
              (some (.ran result reached), after) ∧
            RunsTo run.blockNumber (run.host lookedAt) result reached ∧
              after.state = last.state ∧
                (start.localStorage = (fun _ _ => none) →
                  (∀ operation ∈ before.filterMap Event.asShort,
                    operation.isRawWrite = false) →
                  storedKey lookedAt.localStorage =
                    (History.latest (Operation.stores apiKeyName)
                      (before.filterMap Event.asShort)).map Utf8.encode) := by
  obtain ⟨last, after, reachedLast, ended, sameState⟩ :=
    Phased.overlapped_finish_of_started (overlapping_detached documented)
      ⟨start, fun _ => none⟩ before run unconcerned
  obtain ⟨result, reached, ran, outcome⟩ :=
    finish_runsTo documented run
      (History.reach (step client) start (before.filterMap Event.asShort))
      last.state
  have reported :
      (overlapping client).overlapped last (.finish ticket) =
        (some (.ran result reached), after) :=
    ended.trans (Prod.ext (congrArg some ran) rfl)
  refine
    ⟨_, last, result, reached, after, rfl, reachedLast, reported, outcome,
      sameState, ?_⟩
  intro empty noRawWrites
  exact reach_stored documented empty _ noRawWrites apiKeyName

end Documented

end World

/-! A run that is under way while the key is rotated and the next block's run
passes it. -/

def blockRun (blockNumber : BlockNumber 32) : HookRun (FrameSystem.listing 32) where
  capabilities := ⟨true⟩
  clock := 0
  exchange := OffchainFetcher.answeringExchange (.endOfBody 0)
  chain := emptyWorld.chain
  blockNumber := blockNumber

def passing : List (Event (Operation (FrameSystem.listing 32))
    (HookRun (FrameSystem.listing 32))) :=
  [.short (.storeApiKey ownEnvironment "api_key" "omega"),
    .start 1 (blockRun 2), .finish 1]

theorem overlappingRuns_serial_passing :
    (History.reach (World.overlapping (HttpClient.reference _)).overlapped
          ⟨emptyWorld, fun _ => none⟩
          (.start 0 (blockRun 1) :: passing ++ [.finish 0])).state =
        History.reach (World.step (HttpClient.reference _)) emptyWorld
          (World.inOnePiece (HttpClient.reference _) emptyWorld
            (serial (.start 0 (blockRun 1) :: passing ++ [.finish 0]))) ∧
      ((World.overlapping (HttpClient.reference _)).observed Report.observed
            ⟨emptyWorld, fun _ => none⟩
            (.start 0 (blockRun 1) :: passing ++ [.finish 0])).Perm
        ((History.trace (World.step (HttpClient.reference _)) emptyWorld
          (World.inOnePiece (HttpClient.reference _) emptyWorld
            (serial (.start 0 (blockRun 1) :: passing ++ [.finish 0])))).map
              fun entry => entry.2.observed) :=
  World.overlappingRuns_serial HttpClient.reference_documented _ _

theorem inFlight_usesLatestKey_passing :
    ∃ lookedAt last result reached after,
      lookedAt =
          History.reach (World.step (HttpClient.reference _)) emptyWorld
            [.storeApiKey ownEnvironment "api_key" "alpha"] ∧
        last =
            History.reach
              (World.overlapping (HttpClient.reference _)).overlapped
              ⟨emptyWorld, fun _ => none⟩
              ([.short (.storeApiKey ownEnvironment "api_key" "alpha")] ++
                .start 0 (blockRun 1) :: passing) ∧
          (World.overlapping (HttpClient.reference _)).overlapped last
                (.finish 0) =
              (some (.ran result reached), after) ∧
            RunsTo 1 ((blockRun 1).host lookedAt) result reached ∧
              after.state = last.state ∧
                (emptyWorld.localStorage = (fun _ _ => none) →
                  (∀ operation ∈
                      [Operation.storeApiKey ownEnvironment "api_key" "alpha"],
                    operation.isRawWrite = false) →
                  storedKey lookedAt.localStorage =
                    (History.latest (Operation.stores apiKeyName)
                      [.storeApiKey ownEnvironment "api_key" "alpha"]).map
                        Utf8.encode) :=
  World.inFlight_usesLatestKey HttpClient.reference_documented emptyWorld
    [.short (.storeApiKey ownEnvironment "api_key" "alpha")] (blockRun 1)
    (by decide)

end ConfidentialWorker
