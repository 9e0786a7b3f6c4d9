import ConfidentialWorker.System.World

/-!
# What decides the on-chain state

Over a whole history of a node, the two pallet values are functions of the
successful dispatches alone.  The chain refines the abstract registers along
every history, and off-chain runs and storage writes may be erased from it.
-/

namespace ConfidentialWorker

open Program ConfidentialWorker.Runtime

variable {width : ℕ} {frame : FrameSystem width}

/-- The operations that may touch the chain. -/
def Operation.isOnChain : Operation frame → Bool
  | .dispatch _ _ => true
  | .systemStep _ => true
  | _ => false

namespace World

/-- The calls of a trace that were dispatched with success. -/
def successfulCall : Operation frame × Report frame → Option RuntimeCall
  | (.dispatch _ call, .dispatched (.ok _)) => some call
  | _ => none

def successfulCalls (trace : List (Operation frame × Report frame)) :
    List RuntimeCall :=
  trace.filterMap successfulCall

def AtGenesis (world : World frame) : Prop :=
  templateValue world.chain = none ∧ ocwValue world.chain = none

/-! ## Off the chain -/

theorem step_chain_of_offChain
    {client : HttpClient (Chain frame)} (documented : client.Documented)
    (world : World frame) {operation : Operation frame}
    (offChain : operation.isOnChain = false) :
    (step client world operation).2.chain = world.chain := by
  cases operation with
  | dispatch origin call | systemStep change =>
      cases offChain
  | offchainWorker environment blockNumber =>
      exact
        runOffchain_chain (offchainWorker_keepsChain documented blockNumber)
          environment world
  | storeApiKey environment key value =>
      exact
        runOffchain_chain (storeApiKey_keepsChain key value) environment world
  | localStorageSet kind key value =>
      rfl

private theorem step_chain_congr
    (client : HttpClient (Chain frame)) {left right : World frame}
    {operation : Operation frame} (onChain : operation.isOnChain = true)
    (same : left.chain = right.chain) :
    (step client left operation).2.chain =
      (step client right operation).2.chain := by
  cases operation with
  | dispatch origin call =>
      simp only [step, same]
  | systemStep change =>
      simp only [step, same]
  | offchainWorker _ _ | storeApiKey _ _ _ | localStorageSet _ _ _ =>
      cases onChain

/-- Two histories with the same operations on the chain reach the same one. -/
theorem reach_chain_filter
    {client : HttpClient (Chain frame)} (documented : client.Documented)
    (start : World frame) (operations : List (Operation frame)) :
    (History.reach (step client) start operations).chain =
      (History.reach (step client) start
        (operations.filter Operation.isOnChain)).chain := by
  apply History.view_reach_filter World.chain
  · intro world operation offChain
    exact step_chain_of_offChain documented world offChain
  · intro left right operation onChain same
    exact step_chain_congr client onChain same

/-! ## The chain refines the registers -/

variable (frameDocumented : frame.Documented)

include frameDocumented in
/-- One step moves the registers by its call, if it dispatches one with
success. -/
theorem step_registers
    {client : HttpClient (Chain frame)} (documented : client.Documented)
    (wide : 32 ≤ width) (world : World frame) (operation : Operation frame) :
    registers (step client world operation).2.chain =
      (successfulCall (operation, (step client world operation).1)).elim
        (registers world.chain) (registers world.chain).apply := by
  cases operation with
  | dispatch origin call =>
      have cases := dispatch_cases frameDocumented wide origin world.chain call
      simp only [step]
      generalize call.dispatch origin world.chain = dispatched at cases ⊢
      cases cases with
      | failed error _ =>
          rfl
      | succeeded after _ moved =>
          exact moved
  | systemStep change =>
      rfl
  | offchainWorker _ _ | storeApiKey _ _ _ | localStorageSet _ _ _ =>
      rw [step_chain_of_offChain documented world rfl]
      rfl

include frameDocumented in
theorem reach_registers
    {client : HttpClient (Chain frame)} (documented : client.Documented)
    (wide : 32 ≤ width) {start : World frame} (genesis : start.AtGenesis)
    (operations : List (Operation frame)) :
    registers (History.reach (step client) start operations).chain =
      Registers.after
        (successfulCalls (History.trace (step client) start operations)) := by
  refine
    History.reach_induction
      (fun before (world : World frame) =>
        registers world.chain =
          Registers.after
            (successfulCalls (History.trace (step client) start before)))
      ?_ ?_ operations
  · simp only [registers, genesis.1, genesis.2]
    rfl
  · intro before operation world reached inductionHypothesis
    rw [step_registers frameDocumented documented wide, inductionHypothesis,
      History.trace_snoc, ← reached]
    unfold successfulCalls
    rw [List.filterMap_append]
    cases report :
        successfulCall (operation, (step client world operation).1) with
    | none =>
        simp [report]
    | some call =>
        simp [report, Registers.after_snoc]

/-! ## What every history promises -/

/-- The two values, read off the successful calls. -/
structure StoredByCalls (calls : List RuntimeCall) (chain : Chain frame) :
    Prop where
  ocwNone :
    (∀ bn, .ocwDoSomething bn ∉ calls) → ocwValue chain = none
  ocwLatest :
    ∀ earlier bn later,
      calls = earlier ++ .ocwDoSomething bn :: later →
      (∀ other, .ocwDoSomething other ∉ later) →
        ∃ stored, ocwValue chain = some stored ∧
          stored.blockNumber.toNat = bn.toNat
  templateNone :
    (∀ bn, .templateDoSomething bn ∉ calls) → templateValue chain = none
  templateLatest :
    ∀ earlier bn later,
      calls = earlier ++ .templateDoSomething bn :: later →
      (∀ other, .templateDoSomething other ∉ later) →
        ∃ stored, templateValue chain = some stored ∧
          stored.blockNumber.toNat =
            bn.toNat + later.count .templateCauseError

private theorem storedByCalls_of_registers
    {calls : List RuntimeCall} {chain : Chain frame}
    (refines : registers chain = Registers.after calls) :
    StoredByCalls calls chain := by
  have template :
      (templateValue chain).map (fun stored => stored.blockNumber.toNat) =
        (Registers.after calls).template :=
    congrArg Registers.template refines
  have ocw :
      (ocwValue chain).map (fun stored => stored.blockNumber.toNat) =
        (Registers.after calls).ocw :=
    congrArg Registers.ocw refines
  constructor
  · intro unset
    rw [Registers.after_ocw_of_unset unset] at ocw
    exact Option.map_eq_none_iff.mp ocw
  · intro earlier bn later split unset
    rw [split, Registers.after_ocw_of_latest earlier bn unset] at ocw
    exact Option.map_eq_some_iff.mp ocw
  · intro unset
    rw [Registers.after_template_of_unset unset] at template
    exact Option.map_eq_none_iff.mp template
  · intro earlier bn later split unset
    rw [split, Registers.after_template_of_latest earlier bn unset] at template
    exact Option.map_eq_some_iff.mp template

/-- When the dispatches fail on a chain, and with which error. -/
structure FailsExactly (chain : Chain frame) (origin : frame.Origin) :
    Prop where
  templateDoSomething :
    ∀ bn error,
      ((RuntimeCall.templateDoSomething bn).dispatch origin).outcome chain =
          .error error ↔
        error = .badOrigin ∧ frame.Unsigned origin
  ocwDoSomething :
    ∀ bn error,
      ((RuntimeCall.ocwDoSomething bn).dispatch origin).outcome chain =
          .error error ↔
        error = .badOrigin ∧ frame.Unsigned origin
  causeError :
    ∀ error,
      (RuntimeCall.templateCauseError.dispatch origin).outcome chain =
          .error error ↔
        (error = .badOrigin ∧ frame.Unsigned origin) ∨
          (¬ frame.Unsigned origin ∧
            ((error = Template.Error.noneValue.dispatch templatePallet ∧
                templateValue chain = none) ∨
              (error = Template.Error.storageOverflow.dispatch templatePallet ∧
                ∃ stored, templateValue chain = some stored ∧
                  stored.blockNumber.toNat = 2 ^ width - 1)))

private theorem fails_unique
    {origin : frame.Origin} {chain : Chain frame} {call : RuntimeCall}
    {first second : DispatchError}
    (firstFails : Fails origin chain call first)
    (secondFails : Fails origin chain call second) :
    first = second := by
  cases firstFails with
  | badOrigin _ unsigned =>
      cases secondFails with
      | badOrigin _ _ =>
          rfl
      | noneValue signed _ | storageOverflow _ signed _ _ =>
          exact False.elim (signed unsigned)
  | noneValue signed empty =>
      cases secondFails with
      | badOrigin _ unsigned =>
          exact False.elim (signed unsigned)
      | noneValue _ _ =>
          rfl
      | storageOverflow stored _ found _ =>
          rw [empty] at found
          cases found
  | storageOverflow stored signed found _ =>
      cases secondFails with
      | badOrigin _ unsigned =>
          exact False.elim (signed unsigned)
      | noneValue _ empty =>
          rw [empty] at found
          cases found
      | storageOverflow _ _ _ _ =>
          rfl

include frameDocumented in
/-- A dispatch fails exactly for a reason to fail. -/
theorem dispatch_error_iff
    (wide : 32 ≤ width) (origin : frame.Origin) (chain : Chain frame)
    (call : RuntimeCall) (error : DispatchError) :
    (call.dispatch origin).outcome chain = .error error ↔
      Fails origin chain call error := by
  have cases := dispatch_cases frameDocumented wide origin chain call
  unfold outcome
  generalize call.dispatch origin chain = dispatched at cases ⊢
  cases cases with
  | failed found fails =>
      constructor
      · intro same
        cases same
        exact fails
      · intro asked
        rw [fails_unique asked fails]
  | succeeded after succeeds _ =>
      constructor
      · intro impossible
        cases impossible
      · intro fails
        exact False.elim (succeeds error fails)

include frameDocumented in
theorem failsExactly
    (wide : 32 ≤ width) (chain : Chain frame) (origin : frame.Origin) :
    FailsExactly chain origin := by
  constructor
  · intro bn error
    rw [dispatch_error_iff frameDocumented wide]
    exact fails_storing_iff (by simp) error
  · intro bn error
    rw [dispatch_error_iff frameDocumented wide]
    exact fails_storing_iff (by simp) error
  · intro error
    rw [dispatch_error_iff frameDocumented wide]
    constructor
    · intro fails
      cases fails with
      | badOrigin _ unsigned =>
          exact Or.inl ⟨rfl, unsigned⟩
      | noneValue signed empty =>
          exact Or.inr ⟨signed, Or.inl ⟨rfl, empty⟩⟩
      | storageOverflow stored signed found greatest =>
          exact Or.inr ⟨signed, Or.inr ⟨rfl, stored, found, greatest⟩⟩
    · rintro (⟨rfl, unsigned⟩ |
        ⟨signed, ⟨rfl, empty⟩ | ⟨rfl, stored, found, greatest⟩⟩)
      · exact .badOrigin _ unsigned
      · exact .noneValue signed empty
      · exact .storageOverflow stored signed found greatest

include frameDocumented in
/-- A failed dispatch changes nothing: neither the values nor the events. -/
theorem step_of_failed
    {client : HttpClient (Chain frame)} (wide : 32 ≤ width)
    {world after : World frame} {origin : frame.Origin} {call : RuntimeCall}
    {error : DispatchError}
    (failed :
      step client world (.dispatch origin call) =
        (.dispatched (.error error), after)) :
    after = world := by
  have cases := dispatch_cases frameDocumented wide origin world.chain call
  simp only [step] at failed
  generalize call.dispatch origin world.chain = dispatched at cases failed
  cases cases with
  | failed found _ =>
      exact (congrArg Prod.snd failed).symm
  | succeeded reached _ _ =>
      cases failed

/-- The promises about the chain that a history of a node has reached. -/
structure DecidedByDispatches (client : HttpClient (Chain frame))
    (start : World frame) (operations : List (Operation frame)) : Prop where
  stored :
    StoredByCalls
      (successfulCalls (History.trace (step client) start operations))
      (History.reach (step client) start operations).chain
  failsExactly :
    ∀ origin,
      FailsExactly (History.reach (step client) start operations).chain origin
  failedUnchanged :
    ∀ origin call error after,
      step client (History.reach (step client) start operations)
          (.dispatch origin call) =
          (.dispatched (.error error), after) →
        after = History.reach (step client) start operations
  offChainUnchanged :
    ∀ operation,
      operation.isOnChain = false →
        (step client (History.reach (step client) start operations)
            operation).2.chain =
          (History.reach (step client) start operations).chain
  erased :
    (History.reach (step client) start operations).chain =
      (History.reach (step client) start
        (operations.filter Operation.isOnChain)).chain

theorem decidedByDispatches
    (wide : 32 ≤ width) (frameDocumented : frame.Documented)
    {client : HttpClient (Chain frame)} (documented : client.Documented)
    {start : World frame} (genesis : start.AtGenesis)
    (operations : List (Operation frame)) :
    DecidedByDispatches client start operations where
  stored :=
    storedByCalls_of_registers
      (reach_registers frameDocumented documented wide genesis operations)
  failsExactly origin :=
    World.failsExactly frameDocumented wide _ origin
  failedUnchanged _ _ _ _ failed :=
    step_of_failed frameDocumented wide failed
  offChainUnchanged _ offChain :=
    step_chain_of_offChain documented _ offChain
  erased :=
    reach_chain_filter documented start operations

end World

/-! A history with a failing dispatch and a run on another node. -/

def mixedHistory : List (Operation (FrameSystem.listing 32)) :=
  [.dispatch (.signed 1) .templateCauseError,
    .dispatch (.signed 1) (.templateDoSomething 41),
    .offchainWorker
      { capabilities := ⟨true⟩
        clock := 0
        exchange := OffchainFetcher.answeringExchange (.endOfBody 0)
        elsewhere := some emptyWorld } 1,
    .localStorageSet .persistent [0x61] [0xFF],
    .dispatch (.signed 2) .templateCauseError,
    .dispatch .root (.ocwDoSomething 7)]

theorem decidedByDispatches_in_mixedHistory :
    World.DecidedByDispatches (HttpClient.reference _) emptyWorld
      mixedHistory :=
  World.decidedByDispatches (by decide) (FrameSystem.listing_documented 32)
    HttpClient.reference_documented ⟨rfl, rfl⟩ mixedHistory

end ConfidentialWorker
