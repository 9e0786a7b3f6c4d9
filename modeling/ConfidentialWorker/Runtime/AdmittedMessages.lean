import ConfidentialWorker.Runtime.ReserveTransfers

/-!
# Which messages are admitted

The barrier is built from five others.  Taken together they admit a message if
and only if none of its own instructions is a reserve transfer to the relay
chain and it is allowable: covered by its weight credit, paid for, or free for
the origin that it computes to.

What is executed then is the message that was sent.  Only the limits of bought
executions may be others.
-/

namespace ConfidentialWorker

variable {V : Vocabulary}

section Admitted

variable {builder : XcmBuilder V} (documented : builder.Documented)
  {parachainId : UInt32} {origin : Location} {weight : Weight}
  {inspection reached : Inspection V}
include documented

private theorem admission_relimits
    (admission :
      Admission builder parachainId origin weight inspection reached) :
    List.Forall₂ Relimits inspection.instructions reached.instructions := by
  cases admission with
  | credit _ same =>
      rw [same]
      exact relimits_refl _
  | paid found ran left =>
      obtain ⟨_, relimits⟩ := allowTopLevelPaid_ok documented ran
      obtain ⟨split, _⟩ := computeOrigin_splits found
      rw [left, split]
      exact List.rel_append (relimits_refl _) relimits
  | unpaid _ _ _ same =>
      rw [same]
      exact relimits_refl _

/-- What the barrier leaves of a message is the message, up to limits. -/
theorem barrier_relimits
    (ran :
      barrier builder parachainId origin weight inspection =
        (.ok ⟨⟩, reached)) :
    List.Forall₂ Relimits inspection.instructions reached.instructions := by
  obtain ⟨inner, _, admission, left⟩ := barrier_ok documented ran
  have inside := admission_relimits documented admission
  rw [left]
  cases ends : trailingTopic inspection.instructions with
  | none =>
      simp only [Inspection.restoreTopic, ends]
      simpa only [Inspection.dropTopic, withoutTopic_of_none ends] using inside
  | some topic =>
      simp only [Inspection.restoreTopic, ends]
      have whole := List.rel_append inside (relimits_refl [.setTopic topic])
      simpa only [Inspection.dropTopic, ← eq_of_trailingTopic ends] using whole

end Admitted

/-- The barrier decides a message by its own instructions and by what allows
it, and hands it on unchanged up to limits. -/
structure AdmitsExactly (builder : XcmBuilder V) (parachainId : UInt32)
    (origin : Location) (weight : Weight) (inspection : Inspection V) :
    Prop where
  finishes_iff :
    (barrier builder parachainId origin weight).Finishes inspection ↔
      withoutTopic inspection.instructions ≠ [] ∧
        (∀ instruction ∈ withoutTopic inspection.instructions,
            instruction.reserveTransferToRelayChain = false) ∧
          Allowable parachainId origin weight inspection
  relimits :
    ∀ reached,
      barrier builder parachainId origin weight inspection =
          (.ok ⟨⟩, reached) →
        List.Forall₂ Relimits inspection.instructions reached.instructions

/-- A message that is nothing but its topic is not admitted. -/
private theorem nonempty_of_admitted
    {builder : XcmBuilder V} (documented : builder.Documented)
    (refusesEmpty : builder.RefusesEmpty)
    {parachainId : UInt32} {origin : Location} {weight : Weight}
    {inspection : Inspection V}
    (admitted :
      (barrier builder parachainId origin weight).Finishes inspection) :
    withoutTopic inspection.instructions ≠ [] := by
  intro empty
  obtain ⟨_, reached, ran⟩ := admitted
  rw [barrier, documented.trailingSetTopicAsId_eq,
    documented.denyThenTry_eq] at ran
  obtain ⟨_, innerRan, _⟩ := Program.exists_of_zoom_ok ran
  obtain ⟨_, _, notDenied, _⟩ := Program.exists_of_bind_ok innerRan
  cases (refusesEmpty origin weight _ empty).symm.trans notDenied

theorem barrier_admitsExactly
    {builder : XcmBuilder V} (documented : builder.Documented)
    (refusesEmpty : builder.RefusesEmpty)
    (parachainId : UInt32) (origin : Location) (weight : Weight)
    (inspection : Inspection V) :
    AdmitsExactly builder parachainId origin weight inspection where
  finishes_iff := by
    constructor
    · intro admitted
      have nonempty := nonempty_of_admitted documented refusesEmpty admitted
      obtain ⟨_, reached, ran⟩ := admitted
      obtain ⟨inner, notDenied, admission, _⟩ := barrier_ok documented ran
      exact
        ⟨nonempty, notDenied nonempty,
          (allowable_iff documented).mpr ⟨inner, admission⟩⟩
    · intro allowed
      obtain ⟨nonempty, notDenied, allowable⟩ := allowed
      obtain ⟨reached, admission⟩ := (allowable_iff documented).mp allowable
      exact barrier_finishes documented nonempty notDenied admission
  relimits _ ran := barrier_relimits documented ran

/-- The message that hides a transfer in its appendix is admitted as it is. -/
theorem barrier_admitsExactly_hidingMessage :
    AdmitsExactly (XcmBuilder.reference Vocabulary.plain) 2000 Location.parent
      ⟨1, 1⟩ hidingMessage :=
  barrier_admitsExactly XcmBuilder.reference_documented
    XcmBuilder.reference_refusesEmpty 2000 Location.parent ⟨1, 1⟩
    hidingMessage

/-! ## Executed instructions -/

private theorem mem_of_relimits
    {before after : List (Instruction V)}
    (relimits : List.Forall₂ Relimits before after)
    {instruction : Instruction V}
    (buysNothing :
      ∀ fees weightLimit, instruction ≠ .buyExecution fees weightLimit)
    (member : instruction ∈ after) : instruction ∈ before := by
  induction relimits with
  | nil =>
      exact member
  | cons relimit _ inductionHypothesis =>
      rcases List.mem_cons.mp member with rfl | later
      · cases relimit with
        | same _ =>
            exact List.mem_cons_self
        | buyExecution fees _ weightLimit =>
            exact absurd rfl (buysNothing fees weightLimit)
      · exact List.mem_cons_of_mem _ (inductionHypothesis later)

/-- Limits aside, the programs of a message are those of the message before. -/
private theorem inProgram_of_relimits
    {before after : List (Instruction V)}
    (relimits : List.Forall₂ Relimits before after)
    {instruction : Instruction V}
    (buysNothing :
      ∀ fees weightLimit, instruction ≠ .buyExecution fees weightLimit)
    (within : InProgram instruction after) : InProgram instruction before := by
  cases within with
  | listed member =>
      exact InProgram.listed (mem_of_relimits relimits buysNothing member)
  | errorHandler member within =>
      have kept := mem_of_relimits relimits (by simp) member
      exact InProgram.errorHandler kept within
  | appendix member within =>
      have kept := mem_of_relimits relimits (by simp) member
      exact InProgram.appendix kept within

/-- Whatever is executed of a message stands in it or in a program nested in
it, up to the limits of bought executions. -/
theorem inProgram_of_executed
    {builder : XcmBuilder V} (documented : builder.Documented)
    {executor : XcmExecutor V} (executorDocumented : executor.Documented)
    {parachainId : UInt32} {origin : Location} {weight : Weight}
    {inspection : Inspection V} {executed : List (Instruction V)}
    (executes :
      executor.Executes (xcmConfig builder parachainId) origin weight
        inspection executed)
    {instruction : Instruction V} (member : instruction ∈ executed)
    (buysNothing :
      ∀ fees weightLimit, instruction ≠ .buyExecution fees weightLimit) :
    InProgram instruction inspection.instructions := by
  cases (executorDocumented.executes_iff _ _ _ _ _).mp executes with
  | refused _ =>
      cases member
  | @admitted reached _ ran runs =>
      have installsNothing :
          Holds executor.toXcmMachine reached.instructions
            (executor.new origin) := by
        constructor
        · rw [executorDocumented.machine.new_errorHandler]
          exact partOf_nil _
        · rw [executorDocumented.machine.new_appendix]
          exact partOf_nil _
      apply
        inProgram_of_relimits (barrier_relimits documented ran) buysNothing
      exact
        inProgram_of_runs executorDocumented.machine runs
          (partOf_refl reached.instructions) installsNothing instruction member

end ConfidentialWorker
