import ConfidentialWorker.Runtime.XcmConfig

/-!
# No free execution for outsiders

The barrier computes the origin of a message without checking the instructions
that change it, so that a message from anywhere can claim to come from the
executive of the relay chain.  The executor does check them, and the aliases of
`XcmConfig` allow nothing: such a message fails at the claim, before the
`UnpaidExecution` that the barrier admitted it for.
-/

namespace ConfidentialWorker

variable {V : Vocabulary}

/-- A message that fails among the instructions at its beginning that change
its origin, and of which nothing else is executed. -/
structure FailsInPrefix (executor : XcmExecutor V) (config : ExecutorConfig V)
    (origin : Location) (weight : Weight) (inspection : Inspection V)
    (before : List (Instruction V)) (failing : Instruction V)
    (skipped rest : List (Instruction V)) (weightLimit : WeightLimit)
    (checkOrigin : Option Location) : Prop where
  message_eq :
    inspection.instructions =
      before ++
        failing ::
          (skipped ++ .unpaidExecution weightLimit checkOrigin :: rest)
  changesOrigin :
    ∀ instruction ∈ before ++ failing :: skipped,
      instruction.changesOrigin = true
  fails :
    ∃ error reached,
      executor.process config inspection.instructions (executor.new origin) =
        (.error error, reached)
  executes_iff :
    ∀ executed,
      executor.Executes config origin weight inspection executed ↔
        executed = before ++ [failing]

section Outsiders

variable {builder : XcmBuilder V} (builderDocumented : builder.Documented)
  {parachainId : UInt32} {origin : Location} {weight : Weight}
  {inspection reached : Inspection V}
include builderDocumented

/-- What the paid alternative admits in the barrier, it admits on its own. -/
private theorem paidBarrier_finishes
    {computed : Computed V} {innerReached : Inspection V}
    (found :
      computeOrigin (universalLocation parachainId) 8 origin
          inspection.dropTopic.instructions =
        some computed)
    (ran :
      builder.allowTopLevelPaidExecutionFrom everything computed.origin weight
          (inspection.dropTopic.enter computed) =
        (.ok ⟨⟩, innerReached)) :
    (paidBarrier builder parachainId origin weight).Finishes inspection := by
  obtain ⟨⟨first, rest, pays, _⟩, _⟩ :=
    allowTopLevelPaid_ok builderDocumented ran
  have nonempty : inspection.dropTopic.instructions ≠ [] := by
    intro empty
    obtain ⟨split, _⟩ := computeOrigin_splits found
    rw [empty, eq_comm, List.append_eq_nil_iff] at split
    rw [Inspection.enter, split.2] at pays
    cases pays
  rw [paidBarrier, builderDocumented.trailingSetTopicAsId_eq,
    Program.zoom_finishes_iff]
  exact
    withComputedOrigin_finishes builderDocumented nonempty found
      ⟨⟨⟩, innerReached, ran⟩

/-- An outsider's message that is admitted without paying claims a junction. -/
private theorem claims_of_admission
    (outside : parentOrParentsExecutivePlurality origin = false)
    (nonzero : weight ≠ Weight.zero)
    (noCredit : inspection.properties.weightCredit = Weight.zero)
    (notPaid :
      ¬ (paidBarrier builder parachainId origin weight).Finishes inspection)
    (admission :
      Admission builder parachainId origin weight inspection.dropTopic
        reached) :
    reached = inspection.dropTopic ∧
      ∃ before junction skipped rest weightLimit checkOrigin claimed,
        withoutTopic inspection.instructions =
            before ++
              .universalOrigin junction ::
                (skipped ++ .unpaidExecution weightLimit checkOrigin :: rest) ∧
          Descends origin before claimed ∧
            ∀ instruction ∈ skipped, instruction.changesOrigin = true := by
  cases admission with
  | credit enough _ =>
      have notEnough := Weight.zero_allGte nonzero
      simp only [Inspection.dropTopic, noCredit, notEnough] at enough
      cases enough
  | paid found ran _ =>
      exact absurd (paidBarrier_finishes builderDocumented found ran) notPaid
  | @unpaid computed found free unpaid same =>
      obtain ⟨before, junction, skipped, claimed, claims, descends⟩ :=
        exists_universalOrigin free_closedOutwards outside found free
      obtain ⟨split, changes⟩ := computeOrigin_splits found
      obtain ⟨weightLimit, checkOrigin, rest, starts⟩ :=
        exists_of_startsUnpaid unpaid
      refine
        ⟨same, before, junction, skipped, rest, weightLimit, checkOrigin,
          claimed, ?_, descends, ?_⟩
      · rw [claims, starts, List.append_assoc, List.cons_append] at split
        exact split
      · intro instruction member
        apply changes instruction
        rw [claims]
        exact
          List.mem_append_right before
            (List.mem_cons_of_mem _ member)

end Outsiders

/-- A message from outside that is admitted although it does not pay fails
before its `UnpaidExecution`. -/
theorem outsider_failsInPrefix
    {builder : XcmBuilder V} (builderDocumented : builder.Documented)
    {executor : XcmExecutor V} (executorDocumented : executor.Documented)
    (parachainId : UInt32) {origin : Location}
    (notRelay : origin ≠ Location.parent)
    (notExecutive :
      ∀ part, origin ≠ ⟨1, Junctions.single (.plurality .executive part)⟩)
    {weight : Weight} (nonzero : weight ≠ Weight.zero)
    {inspection : Inspection V}
    (noCredit : inspection.properties.weightCredit = Weight.zero)
    (admitted :
      (barrier builder parachainId origin weight).Finishes inspection)
    (notPaid :
      ¬ (paidBarrier builder parachainId origin weight).Finishes inspection) :
    ∃ before failing skipped rest weightLimit checkOrigin,
      FailsInPrefix executor (xcmConfig builder parachainId) origin weight
        inspection before failing skipped rest weightLimit checkOrigin := by
  obtain ⟨_, reached, ran⟩ := admitted
  obtain ⟨inner, _, admission, left⟩ := barrier_ok builderDocumented ran
  obtain
    ⟨same, before, junction, skipped, rest, weightLimit, checkOrigin, claimed,
      message, descends, skippedChange⟩ :=
    claims_of_admission builderDocumented (not_free notRelay notExecutive)
      nonzero noCredit notPaid admission
  obtain ⟨topics, topicsLast, _⟩ := exists_topics inspection.instructions
  have message_eq :
      inspection.instructions =
        before ++
          .universalOrigin junction ::
            (skipped ++
              .unpaidExecution weightLimit checkOrigin :: (rest ++ topics)) := by
    rw [message] at topicsLast
    rw [topicsLast]
    simp only [List.append_assoc, List.cons_append]
  have leftMessage : reached.instructions = inspection.instructions := by
    rw [left]
    exact restoreTopic_dropTopic (congrArg Inspection.instructions same)
  have refused :
      (xcmConfig builder parachainId).universalAliases (claimed, junction) =
        false :=
    rfl
  obtain ⟨fails, runs_iff⟩ :=
    runs_iff_of_claims executorDocumented.machine descends refused
  refine
    ⟨before, .universalOrigin junction, skipped, rest ++ topics, weightLimit,
      checkOrigin, message_eq, ?changesOrigin, ?fails, ?executes_iff⟩
  case changesOrigin =>
    intro instruction member
    rcases List.mem_append.mp member with earlier | later
    · exact descends.changesOrigin instruction earlier
    · rcases List.mem_cons.mp later with rfl | inSkipped
      · rfl
      · exact skippedChange instruction inSkipped
  case fails =>
    rw [message_eq]
    exact fails
  case executes_iff =>
    intro executed
    rw [executorDocumented.executes_iff, ← runs_iff, ← message_eq]
    constructor
    · intro execution
      cases execution with
      | refused refusal =>
          have contradiction := refusal.symm.trans ran
          cases contradiction
      | admitted admission runs =>
          have sameReached := admission.symm.trans ran
          cases sameReached
          rw [leftMessage] at runs
          exact runs
    · intro runs
      rw [← leftMessage] at runs
      exact XcmMachine.Executed.admitted ran runs

/-- A message that claims to come from the executive of the relay chain. -/
def spoofedMessage : Inspection Vocabulary.plain where
  instructions :=
    [.universalOrigin (.plurality .executive .voice),
      .unpaidExecution .unlimited none]
  properties := ⟨Weight.zero, none⟩

/-- A sibling chain sends it. -/
theorem outsider_failsInPrefix_for_spoofedMessage :
    ∃ before failing skipped rest weightLimit checkOrigin,
      FailsInPrefix (XcmExecutor.reference Vocabulary.plain)
        (xcmConfig (XcmBuilder.reference Vocabulary.plain) 2000)
        ⟨1, Junctions.single (.parachain 2001)⟩ ⟨1, 1⟩ spoofedMessage before
        failing skipped rest weightLimit checkOrigin := by
  apply
    outsider_failsInPrefix XcmBuilder.reference_documented
      XcmExecutor.reference_documented 2000
  · decide
  · intro part same
    cases same
  · decide
  · rfl
  · exact ⟨⟨⟩, _, rfl⟩
  · rintro ⟨_, _, paid⟩
    cases paid

end ConfidentialWorker
