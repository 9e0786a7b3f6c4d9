import ConfidentialWorker.Xcm.Executor

/-!
# The configuration of XCM

`Barrier` decides which messages this chain executes, and `XcmConfig` is the
configuration of the executor.  Only what decides about the execution of a
message is here; assets, fees and dispatch are left out.

`Admission` lists the ways past the part of the barrier that allows messages:
by weight credit, by paying, or as one of the few origins with free execution.
Only paying changes the message.
-/

namespace ConfidentialWorker

variable {V : Vocabulary}

/-- `Parachain(ParachainInfo::parachain_id())`. -/
def universalLocation (parachainId : UInt32) : Junctions :=
  Junctions.single (.parachain parachainId)

/-- The parent and its executive plurality. -/
def parentOrParentsExecutivePlurality : Contains Location :=
  fun location =>
    decide (location.parents = 1) &&
      match location.interior.items with
      | [] => true
      | [.plurality .executive _] => true
      | _ => false

/-- Execution is paid for, or free. -/
def paidOrFree (lib : XcmBuilder V) : ShouldExecute V :=
  lib.tuple
    [lib.allowTopLevelPaidExecutionFrom everything,
      lib.allowExplicitUnpaidExecutionFrom parentOrParentsExecutivePlurality]

/-- The part of the barrier after its denials. -/
def allowed (lib : XcmBuilder V) (parachainId : UInt32) : ShouldExecute V :=
  lib.tuple
    [lib.takeWeightCredit,
      lib.withComputedOrigin (paidOrFree lib) (universalLocation parachainId) 8]

def barrier (lib : XcmBuilder V) (parachainId : UInt32) : ShouldExecute V :=
  lib.trailingSetTopicAsId
    (lib.denyThenTry lib.denyReserveTransferToRelayChain
      (allowed lib parachainId))

def xcmConfig (lib : XcmBuilder V) (parachainId : UInt32) :
    ExecutorConfig V where
  barrier := barrier lib parachainId
  universalLocation := universalLocation parachainId
  universalAliases := nothing
  aliasers := nothing

/-- The paid alternative of the barrier on its own. -/
def paidBarrier (lib : XcmBuilder V) (parachainId : UInt32) :
    ShouldExecute V :=
  lib.trailingSetTopicAsId
    (lib.withComputedOrigin (lib.allowTopLevelPaidExecutionFrom everything)
      (universalLocation parachainId) 8)

/-! ## The origins with free execution -/

theorem free_iff {location : Location} :
    parentOrParentsExecutivePlurality location = true ↔
      location.parents = 1 ∧
        (location.interior.items = [] ∨
          ∃ part,
            location.interior.items = [.plurality .executive part]) := by
  rw [parentOrParentsExecutivePlurality, Bool.and_eq_true, decide_eq_true_eq]
  constructor
  · intro free
    obtain ⟨parents, shape⟩ := free
    refine ⟨parents, ?_⟩
    split at shape
    · rename_i here
      exact Or.inl here
    · rename_i part plurality
      exact Or.inr ⟨part, plurality⟩
    · cases shape
  · intro shape
    rcases shape with ⟨parents, here | ⟨part, plurality⟩⟩
    · rw [here]
      exact ⟨parents, rfl⟩
    · rw [plurality]
      exact ⟨parents, rfl⟩

/-- No origin gets free execution by descending. -/
theorem free_closedOutwards :
    Location.ClosedOutwards parentOrParentsExecutivePlurality := by
  intro location ancestor within free
  obtain ⟨sameParents, initial⟩ := within
  obtain ⟨parents, here | ⟨part, plurality⟩⟩ := free_iff.mp free
  · rw [here, List.prefix_nil] at initial
    exact free_iff.mpr ⟨sameParents.symm.trans parents, Or.inl initial⟩
  · rw [plurality, List.prefix_cons_iff] at initial
    apply free_iff.mpr
    refine ⟨sameParents.symm.trans parents, ?_⟩
    rcases initial with here | ⟨rest, items, none⟩
    · exact Or.inl here
    · rw [List.prefix_nil.mp none] at items
      exact Or.inr ⟨part, items⟩

/-- A location with free execution is the relay chain or its executive. -/
theorem not_free
    {origin : Location} (notRelay : origin ≠ Location.parent)
    (notExecutive :
      ∀ part, origin ≠ ⟨1, Junctions.single (.plurality .executive part)⟩) :
    parentOrParentsExecutivePlurality origin = false := by
  rw [← Bool.not_eq_true]
  intro free
  obtain ⟨parents, ⟨items, fits⟩⟩ := origin
  obtain ⟨one, here | ⟨part, plurality⟩⟩ := free_iff.mp free
  · cases one
    cases here
    exact notRelay rfl
  · cases one
    cases plurality
    exact notExecutive part rfl

/-! ## Ways past the barrier -/

/-- How a message is allowed, and what is left of it then. -/
inductive Admission (lib : XcmBuilder V) (parachainId : UInt32)
    (origin : Location) (weight : Weight) (inspection reached : Inspection V) :
    Prop
  | credit :
      inspection.properties.weightCredit.allGte weight = true →
      reached.instructions = inspection.instructions →
      Admission lib parachainId origin weight inspection reached
  | paid {computed : Computed V} {innerReached : Inspection V} :
      computeOrigin (universalLocation parachainId) 8 origin
          inspection.instructions =
        some computed →
      lib.allowTopLevelPaidExecutionFrom everything computed.origin weight
          (inspection.enter computed) =
        (.ok ⟨⟩, innerReached) →
      reached = inspection.leave computed innerReached →
      Admission lib parachainId origin weight inspection reached
  | unpaid {computed : Computed V} :
      computeOrigin (universalLocation parachainId) 8 origin
          inspection.instructions =
        some computed →
      parentOrParentsExecutivePlurality computed.origin = true →
      startsUnpaid weight computed.rest = true →
      reached = inspection →
      Admission lib parachainId origin weight inspection reached

section Admission

variable {lib : XcmBuilder V} (documented : lib.Documented)
  {parachainId : UInt32} {origin : Location} {weight : Weight}
  {inspection reached : Inspection V}
include documented

private theorem paidOrFree_atomic (origin : Location) (weight : Weight) :
    (paidOrFree lib origin weight).Atomic :=
  tuple_pair_atomic documented
    (allowTopLevelPaid_atomic documented everything origin weight)
    (allowExplicitUnpaid_atomic documented _ origin weight)

private theorem paidOrFree_finishes_iff :
    (paidOrFree lib origin weight).Finishes inspection ↔
      (lib.allowTopLevelPaidExecutionFrom everything origin weight).Finishes
          inspection ∨
        (lib.allowExplicitUnpaidExecutionFrom
            parentOrParentsExecutivePlurality origin weight).Finishes
          inspection :=
  tuple_pair_finishes_iff documented
    (allowTopLevelPaid_atomic documented everything origin weight)
    (allowExplicitUnpaid_atomic documented _ origin weight)

private theorem computed_atomic
    (parachainId : UInt32) (origin : Location) (weight : Weight) :
    (lib.withComputedOrigin (paidOrFree lib) (universalLocation parachainId) 8
        origin weight).Atomic :=
  withComputedOrigin_atomic documented (paidOrFree_atomic documented) _ _
    origin weight

theorem admission_of_allowed
    (finished :
      allowed lib parachainId origin weight inspection = (.ok ⟨⟩, reached)) :
    Admission lib parachainId origin weight inspection reached := by
  rcases
      tuple_pair_ok documented
        (takeWeightCredit_atomic documented origin weight)
        (computed_atomic documented parachainId origin weight) finished with
    credited | ran
  · obtain ⟨enough, same⟩ := takeWeightCredit_ok documented credited
    exact Admission.credit enough same
  · obtain ⟨computed, innerReached, found, innerRan, left⟩ :=
      withComputedOrigin_ok documented ran
    rcases
        tuple_pair_ok documented
          (allowTopLevelPaid_atomic documented _ _ weight)
          (allowExplicitUnpaid_atomic documented _ _ weight) innerRan with
      paid | unpaid
    · exact Admission.paid found paid left
    · obtain ⟨free, starts, same⟩ := allowExplicitUnpaid_ok documented unpaid
      refine Admission.unpaid found free starts ?_
      rw [left, same]
      exact leave_enter found

theorem allowed_of_admission
    (nonempty : inspection.instructions ≠ [])
    (admission : Admission lib parachainId origin weight inspection reached) :
    (allowed lib parachainId origin weight).Finishes inspection := by
  apply
    (tuple_pair_finishes_iff documented
      (takeWeightCredit_atomic documented origin weight)
      (computed_atomic documented parachainId origin weight)).mpr
  cases admission with
  | credit enough _ =>
      exact Or.inl (takeWeightCredit_finishes documented origin enough)
  | paid found ran _ =>
      right
      apply withComputedOrigin_finishes documented nonempty found
      exact (paidOrFree_finishes_iff documented).mpr (Or.inl ⟨⟨⟩, _, ran⟩)
  | unpaid found free unpaid _ =>
      right
      apply withComputedOrigin_finishes documented nonempty found
      apply (paidOrFree_finishes_iff documented).mpr
      exact Or.inr (allowExplicitUnpaid_finishes documented free unpaid)

/-- What the barrier admits, it does not deny and it allows. -/
theorem barrier_ok
    (finished :
      barrier lib parachainId origin weight inspection = (.ok ⟨⟩, reached)) :
    ∃ inner,
      (withoutTopic inspection.instructions ≠ [] →
          ∀ instruction ∈ withoutTopic inspection.instructions,
            instruction.reserveTransferToRelayChain = false) ∧
        Admission lib parachainId origin weight inspection.dropTopic inner ∧
          reached = inspection.restoreTopic inner := by
  rw [barrier, documented.trailingSetTopicAsId_eq,
    documented.denyThenTry_eq] at finished
  obtain ⟨inner, ran, left⟩ := Program.exists_of_zoom_ok finished
  obtain ⟨_, between, notDenied, allows⟩ := Program.exists_of_bind_ok ran
  obtain rfl := denyReserve_unchanged documented notDenied
  refine ⟨inner, ?_, admission_of_allowed documented allows, left⟩
  intro nonempty
  exact
    (documented.denyReserve_finishes_iff origin weight inspection.dropTopic
      nonempty).mp ⟨_, _, notDenied⟩

theorem barrier_finishes
    (nonempty : withoutTopic inspection.instructions ≠ [])
    (notDenied :
      ∀ instruction ∈ withoutTopic inspection.instructions,
        instruction.reserveTransferToRelayChain = false)
    (admission :
      Admission lib parachainId origin weight inspection.dropTopic reached) :
    (barrier lib parachainId origin weight).Finishes inspection := by
  rw [barrier, documented.trailingSetTopicAsId_eq, documented.denyThenTry_eq,
    Program.zoom_finishes_iff]
  obtain ⟨_, between, passes⟩ :=
    (documented.denyReserve_finishes_iff origin weight inspection.dropTopic
      nonempty).mpr notDenied
  obtain rfl := denyReserve_unchanged documented passes
  obtain ⟨value, final, allows⟩ :=
    allowed_of_admission documented nonempty admission
  exact ⟨value, final, (Program.bind_of_ok passes _).trans allows⟩

end Admission

end ConfidentialWorker
