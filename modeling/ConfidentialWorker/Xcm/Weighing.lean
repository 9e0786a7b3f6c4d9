import ConfidentialWorker.Xcm.Barriers

/-!
# What a message weighs

A message is weighed before the barrier sees it.  Every instruction has the
fixed weight of one operation, a `Transact` also the weight that its call may
take at most, and the programs nested in a message are weighed like the message
itself.  With too many instructions at all depths together a message has no
weight.

The weigher belongs to `xcm-builder` and is not part of the repository.  It is
the parameter `XcmWeigher`, and `XcmWeigher.Documented` says which messages
have which weight.  `reference` counts down the instructions that are left
while it adds up their weights.
-/

namespace ConfidentialWorker

inductive OriginKind where
  | native
  | sovereignAccount
  | superuser
  | xcm
  deriving DecidableEq, Repr

/-- The instructions that dispatch a call or take another origin, and the rest
of a vocabulary. -/
inductive OtherInstruction (Call Rest : Type) where
  | transact (originKind : OriginKind) (requireWeightAtMost : Weight)
      (call : Call)
  | aliasOrigin (target : Location)
  | rest (instruction : Rest)

/-- A vocabulary with calls that a `Transact` dispatches. -/
abbrev Vocabulary.dispatching (V : Vocabulary) (Call : Type) : Vocabulary :=
  { V with Other := OtherInstruction Call V.Other }

/-! ## Totals over nested programs -/

section Totals

variable {V : Vocabulary}

mutual

/-- The sum of a measure over an instruction and the programs nested in it. -/
def Instruction.total (measure : Instruction V → ℕ) : Instruction V → ℕ
  | .setErrorHandler xcm =>
      measure (.setErrorHandler xcm) + programTotal measure xcm
  | .setAppendix xcm => measure (.setAppendix xcm) + programTotal measure xcm
  | instruction => measure instruction

def programTotal (measure : Instruction V → ℕ) : List (Instruction V) → ℕ
  | [] => 0
  | instruction :: rest =>
      instruction.total measure + programTotal measure rest

end

/-- The instructions of a program, those nested in it included. -/
def instructionCount (program : List (Instruction V)) : ℕ :=
  programTotal (fun _ => 1) program

variable {measure : Instruction V → ℕ}

theorem total_of_plain
    {instruction : Instruction V}
    (noHandler : ∀ xcm, instruction ≠ .setErrorHandler xcm)
    (noAppendix : ∀ xcm, instruction ≠ .setAppendix xcm) :
    instruction.total measure = measure instruction := by
  cases instruction with
  | setErrorHandler xcm =>
      exact absurd rfl (noHandler xcm)
  | setAppendix xcm =>
      exact absurd rfl (noAppendix xcm)
  | _ =>
      rw [Instruction.total] <;> simp

theorem programTotal_eq_sum (program : List (Instruction V)) :
    programTotal measure program =
      (program.map (Instruction.total measure)).sum := by
  induction program with
  | nil =>
      rw [programTotal]
      rfl
  | cons instruction rest inductionHypothesis =>
      rw [programTotal, inductionHypothesis]
      rfl

/-- Limits of bought executions do not count. -/
theorem programTotal_of_relimits
    (ignoresLimits :
      ∀ fees first second,
        measure (.buyExecution fees first) =
          measure (.buyExecution fees second))
    {before after : List (Instruction V)}
    (relimits : List.Forall₂ Relimits before after) :
    programTotal measure after = programTotal measure before := by
  induction relimits with
  | nil =>
      rfl
  | cons relimit _ inductionHypothesis =>
      rw [programTotal, programTotal, inductionHypothesis]
      cases relimit with
      | same instruction =>
          rfl
      | buyExecution fees first second =>
          simp only [Instruction.total, ignoresLimits fees first second]

end Totals

/-! ## The weigher -/

variable {V : Vocabulary} {Call : Type}

/-- One part of the weight of an instruction, without the programs in it. -/
def ownCost (unitWeightCost : Weight) (part : Weight → UInt64) :
    Instruction (V.dispatching Call) → ℕ
  | .other (.transact _ requireWeightAtMost _) =>
      (part unitWeightCost).toNat + (part requireWeightAtMost).toNat
  | _ => (part unitWeightCost).toNat

/-- The weigher of `xcm-builder`. -/
structure XcmWeigher (V : Vocabulary) (Call : Type) where
  fixedWeightBounds :
    Weight → ℕ → List (Instruction (V.dispatching Call)) → Option Weight

/-- The documented behaviour of the weigher. -/
structure XcmWeigher.Documented (lib : XcmWeigher V Call) : Prop where
  weight_iff : ∀ unitWeightCost maxInstructions message weight,
    lib.fixedWeightBounds unitWeightCost maxInstructions message =
        some weight ↔
      instructionCount message ≤ maxInstructions ∧
        programTotal (ownCost unitWeightCost Weight.refTime) message =
            weight.refTime.toNat ∧
          programTotal (ownCost unitWeightCost Weight.proofSize) message =
            weight.proofSize.toNat

/-! ## A weigher as documented -/

namespace Weight

/-- Add both components, unless one of them overflows. -/
def checkedAdd (weight other : Weight) : Option Weight :=
  if
      weight.refTime.toNat + other.refTime.toNat < UInt64.size ∧
        weight.proofSize.toNat + other.proofSize.toNat < UInt64.size
  then
    some ⟨weight.refTime + other.refTime, weight.proofSize + other.proofSize⟩
  else
    none

theorem eq_of_toNat {left right : Weight}
    (sameTime : left.refTime.toNat = right.refTime.toNat)
    (sameProof : left.proofSize.toNat = right.proofSize.toNat) :
    left = right := by
  obtain ⟨leftTime, leftProof⟩ := left
  obtain ⟨rightTime, rightProof⟩ := right
  have times : leftTime = rightTime := UInt64.toNat_inj.mp sameTime
  have proofs : leftProof = rightProof := UInt64.toNat_inj.mp sameProof
  rw [times, proofs]

theorem checkedAdd_eq_some_iff {weight other sum : Weight} :
    weight.checkedAdd other = some sum ↔
      weight.refTime.toNat + other.refTime.toNat = sum.refTime.toNat ∧
        weight.proofSize.toNat + other.proofSize.toNat =
          sum.proofSize.toNat := by
  unfold checkedAdd
  constructor
  · intro added
    split_ifs at added with fits
    cases added
    constructor
    · rw [UInt64.toNat_add]
      exact (Nat.mod_eq_of_lt fits.1).symm
    · rw [UInt64.toNat_add]
      exact (Nat.mod_eq_of_lt fits.2).symm
  · intro parts
    have timeFits : sum.refTime.toNat < UInt64.size := sum.refTime.toNat_lt
    have proofFits : sum.proofSize.toNat < UInt64.size :=
      sum.proofSize.toNat_lt
    rw [if_pos ⟨by omega, by omega⟩, Option.some.injEq]
    apply eq_of_toNat
    · rw [UInt64.toNat_add, parts.1]
      exact Nat.mod_eq_of_lt timeFits
    · rw [UInt64.toNat_add, parts.2]
      exact Nat.mod_eq_of_lt proofFits

/-- The weight with the given components, when they fit. -/
theorem exists_of_lt (time proof : ℕ) (timeFits : time < UInt64.size)
    (proofFits : proof < UInt64.size) :
    ∃ weight : Weight,
      weight.refTime.toNat = time ∧ weight.proofSize.toNat = proof :=
  ⟨⟨UInt64.ofNat time, UInt64.ofNat proof⟩,
    UInt64.toNat_ofNat_of_lt' timeFits, UInt64.toNat_ofNat_of_lt' proofFits⟩

end Weight

namespace XcmWeigher

mutual

/-- The weight of an instruction, and how many instructions are left then. -/
def instrWeightWithLimit (unitWeightCost : Weight) :
    Instruction (V.dispatching Call) → ℕ → Option (Weight × ℕ)
  | .other (.transact _ requireWeightAtMost _), left =>
      (unitWeightCost.checkedAdd requireWeightAtMost).map (·, left)
  | .setErrorHandler xcm, left =>
      if xcm.length ≤ left then
        (sumWithLimit unitWeightCost xcm (left - xcm.length)).bind
          fun (inner, left) => (unitWeightCost.checkedAdd inner).map (·, left)
      else
        none
  | .setAppendix xcm, left =>
      if xcm.length ≤ left then
        (sumWithLimit unitWeightCost xcm (left - xcm.length)).bind
          fun (inner, left) => (unitWeightCost.checkedAdd inner).map (·, left)
      else
        none
  | _, left => some (unitWeightCost, left)

def sumWithLimit (unitWeightCost : Weight) :
    List (Instruction (V.dispatching Call)) → ℕ → Option (Weight × ℕ)
  | [], left => some (Weight.zero, left)
  | instruction :: rest, left =>
      (instrWeightWithLimit unitWeightCost instruction left).bind
        fun (first, left) =>
          (sumWithLimit unitWeightCost rest left).bind fun (others, left) =>
            (first.checkedAdd others).map (·, left)

end

/-- Count the instructions of a program, then add up their weights. -/
def weightWithLimit (unitWeightCost : Weight)
    (message : List (Instruction (V.dispatching Call))) (limit : ℕ) :
    Option (Weight × ℕ) :=
  if message.length ≤ limit then
    sumWithLimit unitWeightCost message (limit - message.length)
  else
    none

def reference (V : Vocabulary) (Call : Type) : XcmWeigher V Call where
  fixedWeightBounds unitWeightCost maxInstructions message :=
    (weightWithLimit unitWeightCost message maxInstructions).map Prod.fst

/-- The instructions counted in `counted` were still left at the start, and the
costs add up to the weight. -/
structure Weighed (counted time proof : ℕ) (limit : ℕ) (result : Weight × ℕ) :
    Prop where
  count_eq : counted + result.2 = limit
  time_eq : time = result.1.refTime.toNat
  proof_eq : proof = result.1.proofSize.toNat

theorem length_le_instructionCount {V : Vocabulary}
    (program : List (Instruction V)) :
    program.length ≤ instructionCount program := by
  induction program with
  | nil =>
      exact Nat.zero_le _
  | cons instruction rest inductionHypothesis =>
      have one : 1 ≤ instruction.total fun _ => 1 := by
        cases instruction <;> rw [Instruction.total] <;> simp
      rw [instructionCount, programTotal, List.length_cons]
      rw [instructionCount] at inductionHypothesis
      omega

section Reference

variable {unitWeightCost : Weight}

/-- A weight that is added to that of an instruction. -/
private theorem weighed_unit
    {counted time proof left : ℕ} {inner : Weight × ℕ} {result : Weight × ℕ}
    (weighed : Weighed counted time proof left inner) :
    (unitWeightCost.checkedAdd inner.1).map (·, inner.2) = some result ↔
      Weighed (1 + counted) (unitWeightCost.refTime.toNat + time)
        (unitWeightCost.proofSize.toNat + proof) (left + 1) result := by
  obtain ⟨count_eq, time_eq, proof_eq⟩ := weighed
  constructor
  · intro added
    obtain ⟨sum, adds, rfl⟩ := Option.map_eq_some_iff.mp added
    obtain ⟨time_sum, proof_sum⟩ := Weight.checkedAdd_eq_some_iff.mp adds
    exact ⟨by simp only; omega, by simp only; omega, by simp only; omega⟩
  · intro weighed
    obtain ⟨sumCount, sumTime, sumProof⟩ := weighed
    apply Option.map_eq_some_iff.mpr
    refine ⟨result.1, ?_, ?_⟩
    · apply Weight.checkedAdd_eq_some_iff.mpr
      exact ⟨by omega, by omega⟩
    · have sameLeft : inner.2 = result.2 := by
        omega
      rw [sameLeft]

variable (unitWeightCost) in
/-- What is counted and added up for a program. -/
def ProgramWeighed (program : List (Instruction (V.dispatching Call)))
    (limit : ℕ) (result : Weight × ℕ) : Prop :=
  Weighed (instructionCount program)
    (programTotal (ownCost unitWeightCost Weight.refTime) program)
    (programTotal (ownCost unitWeightCost Weight.proofSize) program) limit
    result

private theorem nested_iff
    {xcm : List (Instruction (V.dispatching Call))}
    (summed :
      ∀ left result,
        sumWithLimit unitWeightCost xcm left = some result ↔
          ProgramWeighed unitWeightCost xcm (left + xcm.length) result)
    (left : ℕ) (result : Weight × ℕ) :
    (if xcm.length ≤ left then
        (sumWithLimit unitWeightCost xcm (left - xcm.length)).bind
          fun (inner, left) => (unitWeightCost.checkedAdd inner).map (·, left)
      else
        none) =
        some result ↔
      Weighed (1 + instructionCount xcm)
        (unitWeightCost.refTime.toNat +
          programTotal (ownCost unitWeightCost Weight.refTime) xcm)
        (unitWeightCost.proofSize.toNat +
          programTotal (ownCost unitWeightCost Weight.proofSize) xcm)
        (left + 1) result := by
  have counted := length_le_instructionCount xcm
  constructor
  · intro weighs
    split_ifs at weighs with enough
    obtain ⟨inner, sums, adds⟩ := Option.bind_eq_some_iff.mp weighs
    have weighed := (summed _ _).mp sums
    rw [Nat.sub_add_cancel enough] at weighed
    exact (weighed_unit weighed).mp adds
  · intro weighed
    have total := weighed.count_eq
    have enough : xcm.length ≤ left := by
      omega
    have timeFits : result.1.refTime.toNat < UInt64.size :=
      result.1.refTime.toNat_lt
    have proofFits : result.1.proofSize.toNat < UInt64.size :=
      result.1.proofSize.toNat_lt
    obtain ⟨inner, time_eq, proof_eq⟩ :=
      Weight.exists_of_lt
        (programTotal (ownCost unitWeightCost Weight.refTime) xcm)
        (programTotal (ownCost unitWeightCost Weight.proofSize) xcm)
        (by have := weighed.time_eq; omega)
        (by have := weighed.proof_eq; omega)
    have innerWeighed :
        ProgramWeighed unitWeightCost xcm left (inner, result.2) :=
      ⟨by simp only; omega, time_eq.symm, proof_eq.symm⟩
    have sums :
        sumWithLimit unitWeightCost xcm (left - xcm.length) =
          some (inner, result.2) := by
      rw [summed, Nat.sub_add_cancel enough]
      exact innerWeighed
    rw [if_pos enough, sums]
    exact (weighed_unit innerWeighed).mpr weighed

variable (unitWeightCost) in
/-- What is counted and added up for one instruction. -/
def InstructionWeighed (instruction : Instruction (V.dispatching Call))
    (limit : ℕ) (result : Weight × ℕ) : Prop :=
  Weighed (instruction.total fun _ => 1)
    (instruction.total (ownCost unitWeightCost Weight.refTime))
    (instruction.total (ownCost unitWeightCost Weight.proofSize)) limit result

private theorem sum_cons_iff
    {instruction : Instruction (V.dispatching Call)}
    {rest : List (Instruction (V.dispatching Call))}
    (weighs :
      ∀ left result,
        instrWeightWithLimit unitWeightCost instruction left = some result ↔
          InstructionWeighed unitWeightCost instruction (left + 1) result)
    (summed :
      ∀ left result,
        sumWithLimit unitWeightCost rest left = some result ↔
          ProgramWeighed unitWeightCost rest (left + rest.length) result)
    (left : ℕ) (result : Weight × ℕ) :
    sumWithLimit unitWeightCost (instruction :: rest) left = some result ↔
      ProgramWeighed unitWeightCost (instruction :: rest)
        (left + (rest.length + 1)) result := by
  rw [sumWithLimit]
  constructor
  · intro sums
    obtain ⟨⟨first, middle⟩, firstWeighs, later⟩ :=
      Option.bind_eq_some_iff.mp sums
    obtain ⟨⟨others, last⟩, restSums, adds⟩ :=
      Option.bind_eq_some_iff.mp later
    obtain ⟨sum, added, rfl⟩ := Option.map_eq_some_iff.mp adds
    obtain ⟨time_sum, proof_sum⟩ := Weight.checkedAdd_eq_some_iff.mp added
    have one := (weighs _ _).mp firstWeighs
    have others := (summed _ _).mp restSums
    constructor
    · have oneCount := one.count_eq
      have othersCount := others.count_eq
      simp only [instructionCount, programTotal] at oneCount othersCount ⊢
      omega
    · have oneTime := one.time_eq
      have othersTime := others.time_eq
      simp only [programTotal] at oneTime othersTime ⊢
      omega
    · have oneProof := one.proof_eq
      have othersProof := others.proof_eq
      simp only [programTotal] at oneProof othersProof ⊢
      omega
  · intro weighed
    have count_eq := weighed.count_eq
    have time_eq := weighed.time_eq
    have proof_eq := weighed.proof_eq
    simp only [instructionCount, programTotal] at count_eq time_eq proof_eq
    have timeFits : result.1.refTime.toNat < UInt64.size :=
      result.1.refTime.toNat_lt
    have proofFits : result.1.proofSize.toNat < UInt64.size :=
      result.1.proofSize.toNat_lt
    have counted := length_le_instructionCount rest
    rw [instructionCount] at counted
    obtain ⟨first, firstTime, firstProof⟩ :=
      Weight.exists_of_lt
        (instruction.total (ownCost unitWeightCost Weight.refTime))
        (instruction.total (ownCost unitWeightCost Weight.proofSize))
        (by omega) (by omega)
    obtain ⟨others, othersTime, othersProof⟩ :=
      Weight.exists_of_lt
        (programTotal (ownCost unitWeightCost Weight.refTime) rest)
        (programTotal (ownCost unitWeightCost Weight.proofSize) rest)
        (by omega) (by omega)
    have firstWeighs :
        instrWeightWithLimit unitWeightCost instruction left =
          some (first, left + 1 - instruction.total fun _ => 1) := by
      rw [weighs]
      exact ⟨by simp only; omega, firstTime.symm, firstProof.symm⟩
    have restSums :
        sumWithLimit unitWeightCost rest
            (left + 1 - instruction.total fun _ => 1) =
          some (others, result.2) := by
      rw [summed]
      constructor
      · simp only [instructionCount]
        omega
      · exact othersTime.symm
      · exact othersProof.symm
    have added : first.checkedAdd others = some result.1 := by
      rw [Weight.checkedAdd_eq_some_iff]
      exact ⟨by omega, by omega⟩
    simp only [firstWeighs, restSums, added, Option.bind_some, Option.map_some]

private theorem unit_iff (left : ℕ) (result : Weight × ℕ) :
    some (unitWeightCost, left) = some result ↔
      Weighed 1 unitWeightCost.refTime.toNat unitWeightCost.proofSize.toNat
        (left + 1) result := by
  constructor
  · intro same
    cases same
    exact ⟨Nat.add_comm 1 left, rfl, rfl⟩
  · intro weighed
    obtain ⟨count_eq, time_eq, proof_eq⟩ := weighed
    have sameLeft : left = result.2 := by
      omega
    rw [Weight.eq_of_toNat time_eq proof_eq, sameLeft]

private theorem transact_iff
    (requireWeightAtMost : Weight) (left : ℕ) (result : Weight × ℕ) :
    (unitWeightCost.checkedAdd requireWeightAtMost).map (·, left) =
        some result ↔
      Weighed 1
        (unitWeightCost.refTime.toNat + requireWeightAtMost.refTime.toNat)
        (unitWeightCost.proofSize.toNat + requireWeightAtMost.proofSize.toNat)
        (left + 1) result := by
  have weighed :
      Weighed 0 requireWeightAtMost.refTime.toNat
        requireWeightAtMost.proofSize.toNat left (requireWeightAtMost, left) :=
    ⟨Nat.zero_add left, rfl, rfl⟩
  exact weighed_unit weighed

mutual

/-- Both functions do what the totals say.  A program in an instruction is
weighed on its own, before the instructions that come after it. -/
private theorem instrWeightWithLimit_iff
    (instruction : Instruction (V.dispatching Call)) (left : ℕ)
    (result : Weight × ℕ) :
    instrWeightWithLimit unitWeightCost instruction left = some result ↔
      InstructionWeighed unitWeightCost instruction (left + 1) result := by
  cases instruction with
  | setErrorHandler xcm =>
      rw [instrWeightWithLimit, InstructionWeighed, Instruction.total,
        Instruction.total, Instruction.total]
      exact nested_iff (sumWithLimit_iff xcm) left result
  | setAppendix xcm =>
      rw [instrWeightWithLimit, InstructionWeighed, Instruction.total,
        Instruction.total, Instruction.total]
      exact nested_iff (sumWithLimit_iff xcm) left result
  | other instruction =>
      cases instruction with
      | transact _ requireWeightAtMost _ =>
          rw [instrWeightWithLimit]
          exact transact_iff requireWeightAtMost left result
      | aliasOrigin _ | rest _ =>
          rw [instrWeightWithLimit]
          · exact unit_iff left result
          all_goals simp
  | _ =>
      rw [instrWeightWithLimit]
      · exact unit_iff left result
      all_goals simp

private theorem sumWithLimit_iff
    (program : List (Instruction (V.dispatching Call))) (left : ℕ)
    (result : Weight × ℕ) :
    sumWithLimit unitWeightCost program left = some result ↔
      ProgramWeighed unitWeightCost program (left + program.length)
        result := by
  cases program with
  | nil =>
      rw [sumWithLimit, ProgramWeighed, instructionCount, programTotal,
        programTotal, programTotal]
      constructor
      · intro same
        cases same
        exact ⟨Nat.zero_add left, rfl, rfl⟩
      · intro weighed
        obtain ⟨count_eq, time_eq, proof_eq⟩ := weighed
        have sameLeft : left = result.2 := by
          simpa using count_eq.symm
        have noWeight : Weight.zero = result.1 :=
          Weight.eq_of_toNat time_eq proof_eq
        rw [sameLeft, noWeight]
  | cons instruction rest =>
      exact
        sum_cons_iff (instrWeightWithLimit_iff instruction)
          (sumWithLimit_iff rest) left result

end

private theorem weightWithLimit_iff
    (message : List (Instruction (V.dispatching Call))) (limit : ℕ)
    (result : Weight × ℕ) :
    weightWithLimit unitWeightCost message limit = some result ↔
      ProgramWeighed unitWeightCost message limit result := by
  have counted := length_le_instructionCount message
  rw [weightWithLimit]
  constructor
  · intro weighs
    split_ifs at weighs with enough
    have weighed := (sumWithLimit_iff _ _ _).mp weighs
    rwa [Nat.sub_add_cancel enough] at weighed
  · intro weighed
    have total := weighed.count_eq
    have enough : message.length ≤ limit := by
      omega
    rw [if_pos enough, sumWithLimit_iff, Nat.sub_add_cancel enough]
    exact weighed

end Reference

theorem reference_documented : (reference V Call).Documented where
  weight_iff := by
    intro unitWeightCost maxInstructions message weight
    simp only [reference, Option.map_eq_some_iff]
    constructor
    · intro weighs
      obtain ⟨result, weighs, rfl⟩ := weighs
      obtain ⟨count_eq, time_eq, proof_eq⟩ :=
        (weightWithLimit_iff _ _ _).mp weighs
      exact ⟨by omega, time_eq, proof_eq⟩
    · intro totals
      obtain ⟨few, time_eq, proof_eq⟩ := totals
      refine ⟨(weight, maxInstructions - instructionCount message), ?_, rfl⟩
      rw [weightWithLimit_iff]
      exact ⟨by simp only; omega, time_eq, proof_eq⟩

end XcmWeigher

end ConfidentialWorker
