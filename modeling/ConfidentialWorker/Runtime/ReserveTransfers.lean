import ConfidentialWorker.Runtime.XcmConfig

/-!
# Reserve transfers to the relay chain

The barrier denies reserve transfers to the relay chain, but only looks for
them at the top level of a message.  A program in an error handler or in the
appendix is executed as well, without being looked into, so that a message that
is otherwise allowed brings such a transfer in there.
-/

namespace ConfidentialWorker

variable {V : Vocabulary}

/-- No admitted message has a reserve transfer to the relay chain in it, at any
depth. -/
def DeniesReserveTransfers (builder : XcmBuilder V) (parachainId : UInt32)
    (origin : Location) (weight : Weight) (inspection : Inspection V) : Prop :=
  (barrier builder parachainId origin weight).Finishes inspection →
    ∀ instruction,
      InProgram instruction inspection.instructions →
        instruction.reserveTransferToRelayChain = false

/-- The message is covered by its weight credit, or after the instructions that
change its origin it pays, or it is from an origin with free execution. -/
def Allowable (parachainId : UInt32) (origin : Location) (weight : Weight)
    (inspection : Inspection V) : Prop :=
  inspection.properties.weightCredit.allGte weight = true ∨
    ∃ computed,
      computeOrigin (universalLocation parachainId) 8 origin
            (withoutTopic inspection.instructions) =
          some computed ∧
        (PaysFirst weight computed.rest ∨
          parentOrParentsExecutivePlurality computed.origin = true ∧
            startsUnpaid weight computed.rest = true)

/-- A program nested in the message has a reserve transfer to the relay chain,
and the message itself has none. -/
def HidesReserveTransfer (message : List (Instruction V)) : Prop :=
  (∀ instruction ∈ message,
      instruction.reserveTransferToRelayChain = false) ∧
    ∃ instruction,
      Nested instruction message ∧
        instruction.reserveTransferToRelayChain = true

theorem allowable_iff
    {builder : XcmBuilder V} (documented : builder.Documented)
    {parachainId : UInt32} {origin : Location} {weight : Weight}
    {inspection : Inspection V} :
    Allowable parachainId origin weight inspection ↔
      ∃ reached,
        Admission builder parachainId origin weight inspection.dropTopic
          reached := by
  constructor
  · intro allowable
    rcases allowable with
      enough | ⟨computed, found, pays | ⟨free, unpaid⟩⟩
    · exact ⟨inspection.dropTopic, Admission.credit enough rfl⟩
    · have entersPaying :
          PaysFirst weight (inspection.dropTopic.enter computed).instructions :=
        pays
      obtain ⟨_, innerReached, ran⟩ :=
        allowTopLevelPaid_finishes documented
          (rfl : everything computed.origin = true) entersPaying
      exact ⟨_, Admission.paid found ran rfl⟩
    · exact ⟨_, Admission.unpaid found free unpaid rfl⟩
  · intro admitted
    obtain ⟨reached, admission⟩ := admitted
    cases admission with
    | credit enough _ =>
        exact Or.inl enough
    | paid found ran _ =>
        exact
          Or.inr ⟨_, found, Or.inl (allowTopLevelPaid_ok documented ran).1⟩
    | unpaid found free unpaid _ =>
        exact Or.inr ⟨_, found, Or.inr ⟨free, unpaid⟩⟩

/-- A topic hides nothing. -/
private theorem mem_withoutTopic
    {message : List (Instruction V)} {instruction : Instruction V}
    (member : instruction ∈ message)
    (notTopic : ∀ topic, instruction ≠ .setTopic topic) :
    instruction ∈ withoutTopic message := by
  obtain ⟨topics, split, onlyTopics⟩ := exists_topics message
  rw [split] at member
  rcases List.mem_append.mp member with before | inTopics
  · exact before
  · obtain ⟨topic, same⟩ := onlyTopics instruction inTopics
    exact absurd same (notTopic topic)

/-- The barrier keeps the transfers of a message out if and only if the message
hides none or is not allowed anyway. -/
theorem deniesReserveTransfers_iff
    {builder : XcmBuilder V} (documented : builder.Documented)
    (parachainId : UInt32) (origin : Location) (weight : Weight)
    (inspection : Inspection V) :
    DeniesReserveTransfers builder parachainId origin weight inspection ↔
      ¬ (HidesReserveTransfer inspection.instructions ∧
        Allowable parachainId origin weight inspection) := by
  constructor
  · intro denies slips
    obtain ⟨⟨clean, instruction, nested, transfer⟩, allowable⟩ := slips
    obtain ⟨reached, admission⟩ := (allowable_iff documented).mp allowable
    have nonempty : withoutTopic inspection.instructions ≠ [] := by
      obtain ⟨xcm, installs, _⟩ := nested
      rcases installs with errorHandler | appendix
      · exact
          List.ne_nil_of_mem (mem_withoutTopic errorHandler fun _ => nofun)
      · exact List.ne_nil_of_mem (mem_withoutTopic appendix fun _ => nofun)
    have notDenied :
        ∀ instruction ∈ withoutTopic inspection.instructions,
          instruction.reserveTransferToRelayChain = false := by
      intro other member
      exact clean other (withoutTopic_subset _ member)
    have admitted :=
      barrier_finishes documented nonempty notDenied admission
    have denied :=
      denies admitted instruction (inProgram_iff.mpr (Or.inr nested))
    rw [transfer] at denied
    cases denied
  · intro notHidden admitted instruction within
    obtain ⟨_, reached, ran⟩ := admitted
    obtain ⟨inner, notDenied, admission, _⟩ := barrier_ok documented ran
    have clean :
        ∀ instruction ∈ inspection.instructions,
          instruction.reserveTransferToRelayChain = false := by
      intro other member
      by_cases isTopic : ∃ topic, other = .setTopic topic
      · obtain ⟨topic, rfl⟩ := isTopic
        rfl
      · have remains := mem_withoutTopic member (not_exists.mp isTopic)
        exact notDenied (List.ne_nil_of_mem remains) other remains
    rcases inProgram_iff.mp within with member | nested
    · exact clean instruction member
    · rw [← Bool.not_eq_true]
      intro transfer
      apply notHidden
      exact
        ⟨⟨clean, instruction, nested, transfer⟩,
          (allowable_iff documented).mpr ⟨inner, admission⟩⟩

/-- A message of the relay chain with a reserve transfer to the relay chain in
its appendix. -/
def hidingMessage : Inspection Vocabulary.plain where
  instructions :=
    [.unpaidExecution .unlimited none,
      .setAppendix [.depositReserveAsset (0 : ℕ) Location.parent []]]
  properties := ⟨Weight.zero, none⟩

/-- It is admitted, and the transfer is executed. -/
theorem deniesReserveTransfers_fails_on_hidingMessage :
    ¬ DeniesReserveTransfers (XcmBuilder.reference Vocabulary.plain) 2000
        Location.parent ⟨1, 1⟩ hidingMessage ∧
      ∃ executed,
        (XcmExecutor.reference Vocabulary.plain).Executes
            (xcmConfig (XcmBuilder.reference Vocabulary.plain) 2000)
            Location.parent ⟨1, 1⟩ hidingMessage executed ∧
          .depositReserveAsset (0 : ℕ) Location.parent [] ∈ executed := by
  constructor
  · intro denies
    have denied :=
      denies ⟨⟨⟩, _, rfl⟩ (.depositReserveAsset (0 : ℕ) Location.parent [])
        (InProgram.appendix (List.mem_cons_of_mem _ List.mem_cons_self)
          (InProgram.listed List.mem_cons_self))
    cases denied
  · have admitted :
        barrier (XcmBuilder.reference Vocabulary.plain) 2000 Location.parent
            ⟨1, 1⟩ hidingMessage =
          (.ok ⟨⟩, hidingMessage) :=
      rfl
    refine
      ⟨hidingMessage.instructions ++
          [.depositReserveAsset (0 : ℕ) Location.parent []],
        XcmMachine.Executed.admitted admitted ?_, by simp⟩
    apply XcmMachine.Runs.step (List.cons_ne_nil _ _)
    exact
      XcmMachine.Runs.step (List.cons_ne_nil _ _) (XcmMachine.Runs.done _)

theorem deniesReserveTransfers_iff_for_hidingMessage :
    DeniesReserveTransfers (XcmBuilder.reference Vocabulary.plain) 2000
        Location.parent ⟨1, 1⟩ hidingMessage ↔
      ¬ (HidesReserveTransfer hidingMessage.instructions ∧
        Allowable 2000 Location.parent ⟨1, 1⟩ hidingMessage) :=
  deniesReserveTransfers_iff XcmBuilder.reference_documented 2000
    Location.parent ⟨1, 1⟩ hidingMessage

end ConfidentialWorker
