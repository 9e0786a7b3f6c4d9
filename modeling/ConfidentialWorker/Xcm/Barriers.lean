import ConfidentialWorker.Library.Program
import ConfidentialWorker.Xcm.ComputedOrigin
import Mathlib.Data.List.Forall2

/-!
# Barriers

A barrier decides whether a message is executed at all.  It may change the
message and its properties on the way.  The barriers of `xcm-builder` are not
part of the repository: they are the parameter `XcmBuilder`, and
`XcmBuilder.Documented` states what is documented about them.  For an empty
message some of it is left open.
-/

namespace ConfidentialWorker

/-- Membership of a set of values, as `frame_support` has it. -/
abbrev Contains (α : Type) :=
  α → Bool

def everything {α : Type} : Contains α :=
  fun _ => true

def nothing {α : Type} : Contains α :=
  fun _ => false

structure Properties where
  weightCredit : Weight
  messageId : Option XcmHash

inductive ProcessMessageError where
  | badFormat
  | unsupported
  | overweight (required : Weight)

/-- A message before it is executed. -/
structure Inspection (V : Vocabulary) where
  instructions : List (Instruction V)
  properties : Properties

abbrev ShouldExecute (V : Vocabulary) :=
  Location → Weight → Program (Inspection V) ProcessMessageError PUnit

variable {V : Vocabulary}

/-- Decide without changing anything. -/
def judge (admitted : Bool) (error : ProcessMessageError) :
    Program (Inspection V) ProcessMessageError PUnit :=
  if admitted then pure ⟨⟩ else Program.stop error

theorem judge_apply (admitted : Bool) (error : ProcessMessageError)
    (inspection : Inspection V) :
    judge admitted error inspection =
      (if admitted then .ok ⟨⟩ else .error error, inspection) := by
  cases admitted <;> rfl

/-! ## Parts of a message -/

/-- The topic that a message ends with. -/
def trailingTopic (instructions : List (Instruction V)) : Option XcmHash :=
  match instructions.getLast? with
  | some (.setTopic topic) => some topic
  | _ => none

def withoutTopic (instructions : List (Instruction V)) :
    List (Instruction V) :=
  match trailingTopic instructions with
  | some _ => instructions.dropLast
  | none => instructions

namespace Inspection

/-- Take the trailing topic as the id of the message. -/
def dropTopic (inspection : Inspection V) : Inspection V where
  instructions := withoutTopic inspection.instructions
  properties :=
    { inspection.properties with
      messageId :=
        (trailingTopic inspection.instructions).or
          inspection.properties.messageId }

def restoreTopic (inspection inner : Inspection V) : Inspection V where
  instructions :=
    match trailingTopic inspection.instructions with
    | some topic => inner.instructions ++ [.setTopic topic]
    | none => inner.instructions
  properties := inner.properties

/-- Go on with what is left of the message. -/
def enter (computed : Computed V) (inspection : Inspection V) :
    Inspection V :=
  { inspection with instructions := computed.rest }

def leave (computed : Computed V) (_ inner : Inspection V) : Inspection V :=
  { inner with instructions := computed.skipped ++ inner.instructions }

end Inspection

theorem eq_of_trailingTopic {instructions : List (Instruction V)}
    {topic : XcmHash} (ends : trailingTopic instructions = some topic) :
    instructions = withoutTopic instructions ++ [.setTopic topic] := by
  have last : instructions.getLast? = some (.setTopic topic) := by
    unfold trailingTopic at ends
    split at ends
    · rename_i last
      cases ends
      exact last
    · cases ends
  rw [withoutTopic, ends]
  exact (List.dropLast_append_getLast? _ last).symm

theorem withoutTopic_of_none {instructions : List (Instruction V)}
    (ends : trailingTopic instructions = none) :
    withoutTopic instructions = instructions := by
  rw [withoutTopic, ends]

/-- Only topics are left out of a message. -/
theorem exists_topics (instructions : List (Instruction V)) :
    ∃ topics,
      instructions = withoutTopic instructions ++ topics ∧
        ∀ instruction ∈ topics, ∃ topic, instruction = .setTopic topic := by
  cases ends : trailingTopic instructions with
  | none =>
      refine ⟨[], ?_, fun _ member => nomatch member⟩
      rw [withoutTopic_of_none ends, List.append_nil]
  | some topic =>
      refine ⟨[.setTopic topic], eq_of_trailingTopic ends, ?_⟩
      intro instruction member
      exact ⟨topic, List.mem_singleton.mp member⟩

theorem withoutTopic_subset (instructions : List (Instruction V)) :
    withoutTopic instructions ⊆ instructions := by
  intro instruction member
  obtain ⟨topics, split, _⟩ := exists_topics instructions
  rw [split]
  exact List.mem_append_left topics member

/-- The topic comes back behind an unchanged message. -/
theorem restoreTopic_dropTopic {inspection inner : Inspection V}
    (same : inner.instructions = inspection.dropTopic.instructions) :
    (inspection.restoreTopic inner).instructions =
      inspection.instructions := by
  cases ends : trailingTopic inspection.instructions with
  | none =>
      simp only [Inspection.restoreTopic, ends, same]
      exact withoutTopic_of_none ends
  | some topic =>
      simp only [Inspection.restoreTopic, ends, same]
      exact (eq_of_trailingTopic ends).symm

/-- The instructions begin with an `UnpaidExecution` for this weight. -/
def startsUnpaid (weight : Weight) : List (Instruction V) → Bool
  | .unpaidExecution weightLimit _ :: _ => weightLimit.covers weight
  | _ => false

/-- The same instruction, up to the weight limit of a `BuyExecution`. -/
inductive Relimits : Instruction V → Instruction V → Prop
  | same (instruction : Instruction V) : Relimits instruction instruction
  | buyExecution (fees : V.Asset) (before after : WeightLimit) :
      Relimits (.buyExecution fees before) (.buyExecution fees after)

theorem relimits_refl (instructions : List (Instruction V)) :
    List.Forall₂ Relimits instructions instructions :=
  List.forall₂_same.mpr fun instruction _ => Relimits.same instruction

/-! ## Paying first -/

namespace Instruction

/-- At most two assets come with the instruction. -/
def bringsAssets : Instruction V → Bool
  | .withdrawAsset assets => decide (assets.length ≤ 2)
  | .reserveAssetDeposited assets => decide (assets.length ≤ 2)
  | .receiveTeleportedAsset assets => decide (assets.length ≤ 2)
  | .claimAsset assets _ => decide (assets.length ≤ 2)
  | _ => false

end Instruction

/-- Fix the weight limit of the first `BuyExecution`, which only instructions
that clear the origin may come before. -/
def fixLimit (weight : Weight) :
    ℕ → List (Instruction V) → Option (List (Instruction V))
  | within + 1, .clearOrigin :: rest =>
      (fixLimit weight within rest).map (.clearOrigin :: ·)
  | _ + 1, .buyExecution fees weightLimit :: rest =>
      if weightLimit.covers weight then
        some (.buyExecution fees (.limited weight) :: rest)
      else
        none
  | _, _ => none

/-- Execution is bought within the first five instructions. -/
def payFirst (weight : Weight) :
    List (Instruction V) → Option (List (Instruction V))
  | first :: rest =>
      if first.bringsAssets then
        (fixLimit weight 4 rest).map (first :: ·)
      else
        none
  | [] => none

/-- The instructions buy execution for this weight, after fewer than `within`
that clear the origin. -/
def BuysWithin (weight : Weight) (within : ℕ)
    (instructions : List (Instruction V)) : Prop :=
  ∃ clears fees weightLimit rest,
    instructions = clears ++ .buyExecution fees weightLimit :: rest ∧
      (∀ instruction ∈ clears, instruction = .clearOrigin) ∧
        clears.length < within ∧ weightLimit.covers weight = true

/-- The instructions bring at most two assets, and then buy execution for this
weight after at most three instructions that clear the origin. -/
def PaysFirst (weight : Weight) (instructions : List (Instruction V)) : Prop :=
  ∃ first rest,
    instructions = first :: rest ∧ first.bringsAssets = true ∧
      BuysWithin weight 4 rest

private theorem buysWithin_clear_iff
    {weight : Weight} {within : ℕ} {rest : List (Instruction V)} :
    BuysWithin weight (within + 1) (.clearOrigin :: rest) ↔
      BuysWithin weight within rest := by
  constructor
  · intro buys
    obtain ⟨clears, fees, weightLimit, later, split, cleared, few, covered⟩ :=
      buys
    cases clears with
    | nil =>
        cases split
    | cons first others =>
        obtain ⟨_, split⟩ := List.cons_eq_cons.mp split
        refine ⟨others, fees, weightLimit, later, split, ?_, ?_, covered⟩
        · intro instruction member
          exact cleared instruction (List.mem_cons_of_mem first member)
        · exact Nat.lt_of_succ_lt_succ few
  · intro buys
    obtain ⟨clears, fees, weightLimit, later, split, cleared, few, covered⟩ :=
      buys
    refine
      ⟨.clearOrigin :: clears, fees, weightLimit, later,
        congrArg (Instruction.clearOrigin :: ·) split, ?_,
        Nat.succ_lt_succ few, covered⟩
    intro instruction member
    rcases List.mem_cons.mp member with rfl | later
    · rfl
    · exact cleared instruction later

private theorem buysWithin_buy_iff
    {weight : Weight} {within : ℕ} {fees : V.Asset} {weightLimit : WeightLimit}
    {rest : List (Instruction V)} :
    BuysWithin weight (within + 1) (.buyExecution fees weightLimit :: rest) ↔
      weightLimit.covers weight = true := by
  constructor
  · intro buys
    obtain ⟨clears, _, _, _, split, cleared, _, covered⟩ := buys
    cases clears with
    | nil =>
        cases split
        exact covered
    | cons first others =>
        obtain ⟨rfl, _⟩ := List.cons_eq_cons.mp split
        cases cleared _ List.mem_cons_self
  · intro covered
    exact
      ⟨[], fees, weightLimit, rest, rfl, List.forall_mem_nil _,
        Nat.succ_pos within, covered⟩

/-- Nothing is bought where neither comes first. -/
private theorem not_buysWithin
    {weight : Weight} {within : ℕ} {instructions : List (Instruction V)}
    (notClear :
      ∀ fewer rest,
        within = fewer + 1 → instructions = .clearOrigin :: rest → False)
    (notBuy :
      ∀ fewer fees weightLimit rest,
        within = fewer + 1 →
          instructions = .buyExecution fees weightLimit :: rest → False) :
    ¬ BuysWithin weight within instructions := by
  intro buys
  obtain ⟨clears, fees, weightLimit, later, split, cleared, few, _⟩ := buys
  obtain ⟨fewer, rfl⟩ := Nat.exists_eq_add_of_lt few
  cases clears with
  | nil =>
      exact notBuy _ fees weightLimit later rfl split
  | cons first others =>
      have isClear := cleared first List.mem_cons_self
      rw [isClear] at split
      exact notClear _ _ rfl split

/-- The limit is fixed if there is one to be fixed. -/
private theorem exists_fixLimit_iff
    (weight : Weight) (within : ℕ) (instructions : List (Instruction V)) :
    (∃ fixed, fixLimit weight within instructions = some fixed) ↔
      BuysWithin weight within instructions := by
  induction within, instructions using fixLimit.induct weight with
  | case1 within rest inductionHypothesis =>
      rw [buysWithin_clear_iff, ← inductionHypothesis, fixLimit]
      constructor
      · intro fixes
        obtain ⟨_, fixes⟩ := fixes
        obtain ⟨later, fixesLater, _⟩ := Option.map_eq_some_iff.mp fixes
        exact ⟨later, fixesLater⟩
      · intro fixes
        obtain ⟨later, fixesLater⟩ := fixes
        exact ⟨_, Option.map_eq_some_iff.mpr ⟨later, fixesLater, rfl⟩⟩
  | case2 within fees weightLimit rest covered =>
      rw [buysWithin_buy_iff, fixLimit, if_pos covered]
      exact iff_of_true ⟨_, rfl⟩ covered
  | case3 within fees weightLimit rest notCovered =>
      rw [buysWithin_buy_iff, fixLimit, if_neg notCovered]
      refine iff_of_false ?_ notCovered
      intro fixes
      obtain ⟨_, impossible⟩ := fixes
      cases impossible
  | case4 within rest notClear notBuy =>
      refine iff_of_false ?_ (not_buysWithin notClear notBuy)
      intro fixes
      obtain ⟨_, fixes⟩ := fixes
      rw [fixLimit] at fixes
      · cases fixes
      · exact notClear
      · exact notBuy

theorem exists_payFirst_iff
    (weight : Weight) (instructions : List (Instruction V)) :
    (∃ paid, payFirst weight instructions = some paid) ↔
      PaysFirst weight instructions := by
  cases instructions with
  | nil =>
      refine iff_of_false ?_ ?_
      · intro pays
        obtain ⟨_, impossible⟩ := pays
        cases impossible
      · intro pays
        obtain ⟨_, _, impossible, _⟩ := pays
        cases impossible
  | cons first rest =>
      have pays_iff :
          PaysFirst weight (first :: rest) ↔
            first.bringsAssets = true ∧ BuysWithin weight 4 rest := by
        constructor
        · intro pays
          obtain ⟨_, _, same, brings, buys⟩ := pays
          cases same
          exact ⟨brings, buys⟩
        · intro both
          exact ⟨first, rest, rfl, both⟩
      rw [pays_iff, ← exists_fixLimit_iff, payFirst]
      by_cases brings : first.bringsAssets = true
      · rw [if_pos brings, and_iff_right brings]
        constructor
        · intro pays
          obtain ⟨_, pays⟩ := pays
          obtain ⟨later, fixes, _⟩ := Option.map_eq_some_iff.mp pays
          exact ⟨later, fixes⟩
        · intro fixes
          obtain ⟨later, fixes⟩ := fixes
          exact ⟨_, Option.map_eq_some_iff.mpr ⟨later, fixes, rfl⟩⟩
      · rw [if_neg brings]
        refine iff_of_false ?_ (fun both => brings both.1)
        intro pays
        obtain ⟨_, impossible⟩ := pays
        cases impossible

private theorem fixLimit_relimits
    {weight : Weight} {within : ℕ} {instructions fixed : List (Instruction V)}
    (fixes : fixLimit weight within instructions = some fixed) :
    List.Forall₂ Relimits instructions fixed := by
  induction within, instructions using fixLimit.induct weight
      generalizing fixed with
  | case1 within rest inductionHypothesis =>
      rw [fixLimit, Option.map_eq_some_iff] at fixes
      obtain ⟨later, fixesLater, rfl⟩ := fixes
      exact List.Forall₂.cons (Relimits.same _) (inductionHypothesis fixesLater)
  | case2 within fees weightLimit rest covered =>
      rw [fixLimit, if_pos covered] at fixes
      cases fixes
      exact
        List.Forall₂.cons (Relimits.buyExecution fees _ _) (relimits_refl rest)
  | case3 within fees weightLimit rest notCovered =>
      rw [fixLimit, if_neg notCovered] at fixes
      cases fixes
  | case4 within rest notClear notBuy =>
      rw [fixLimit] at fixes
      · cases fixes
      · exact notClear
      · exact notBuy

/-- Paying changes the limit of what is bought, and nothing else. -/
theorem payFirst_relimits
    {weight : Weight} {instructions paid : List (Instruction V)}
    (pays : payFirst weight instructions = some paid) :
    List.Forall₂ Relimits instructions paid := by
  cases instructions with
  | nil =>
      cases pays
  | cons first rest =>
      by_cases brings : first.bringsAssets = true
      · rw [payFirst, if_pos brings, Option.map_eq_some_iff] at pays
        obtain ⟨later, fixes, rfl⟩ := pays
        exact List.Forall₂.cons (Relimits.same first) (fixLimit_relimits fixes)
      · rw [payFirst, if_neg brings] at pays
        cases pays

/-! ## The library -/

/-- The barriers of `xcm-builder`. -/
structure XcmBuilder (V : Vocabulary) where
  tuple : List (ShouldExecute V) → ShouldExecute V
  trailingSetTopicAsId : ShouldExecute V → ShouldExecute V
  denyThenTry : ShouldExecute V → ShouldExecute V → ShouldExecute V
  denyReserveTransferToRelayChain : ShouldExecute V
  takeWeightCredit : ShouldExecute V
  withComputedOrigin : ShouldExecute V → Junctions → ℕ → ShouldExecute V
  allowTopLevelPaidExecutionFrom : Contains Location → ShouldExecute V
  allowExplicitUnpaidExecutionFrom : Contains Location → ShouldExecute V

namespace XcmBuilder

/-- The documented behaviour of the barriers. -/
structure Documented (lib : XcmBuilder V) : Prop where
  tuple_eq : ∀ barriers origin weight,
    lib.tuple barriers origin weight =
      Program.firstOf .unsupported
        (barriers.map fun barrier => barrier origin weight)
  trailingSetTopicAsId_eq : ∀ inner origin weight,
    lib.trailingSetTopicAsId inner origin weight =
      Program.zoom Inspection.dropTopic Inspection.restoreTopic
        (inner origin weight)
  denyThenTry_eq : ∀ deny allow origin weight,
    lib.denyThenTry deny allow origin weight =
      (deny origin weight >>= fun _ => allow origin weight)
  denyReserve_keeps : ∀ origin weight inspection,
    (lib.denyReserveTransferToRelayChain origin weight).final inspection =
      inspection
  denyReserve_finishes_iff : ∀ origin weight inspection,
    inspection.instructions ≠ [] →
      ((lib.denyReserveTransferToRelayChain origin weight).Finishes
          inspection ↔
        ∀ instruction ∈ inspection.instructions,
          instruction.reserveTransferToRelayChain = false)
  takeWeightCredit_eq : ∀ origin weight inspection,
    lib.takeWeightCredit origin weight inspection =
      match inspection.properties.weightCredit.checkedSub weight with
      | some weightCredit =>
          (.ok ⟨⟩,
            { inspection with
              properties :=
                { inspection.properties with weightCredit := weightCredit } })
      | none => (.error (.overweight weight), inspection)
  withComputedOrigin_eq : ∀ inner universal limit origin weight inspection,
    inspection.instructions ≠ [] →
      lib.withComputedOrigin inner universal limit origin weight inspection =
        match
          computeOrigin universal limit origin inspection.instructions
        with
        | some computed =>
            Program.zoom (Inspection.enter computed)
              (Inspection.leave computed) (inner computed.origin weight)
              inspection
        | none => (.error .unsupported, inspection)
  withComputedOrigin_nil : ∀ inner universal limit origin weight inspection,
    inspection.instructions = [] →
      (∃ error,
        lib.withComputedOrigin inner universal limit origin weight
            inspection =
          (.error error, inspection)) ∨
        lib.withComputedOrigin inner universal limit origin weight
            inspection =
          inner origin weight inspection
  allowTopLevelPaid_eq : ∀ filter origin weight inspection,
    ∃ error,
      lib.allowTopLevelPaidExecutionFrom filter origin weight inspection =
        if filter origin then
          match payFirst weight inspection.instructions with
          | some instructions =>
              (.ok ⟨⟩, { inspection with instructions := instructions })
          | none => (.error error, inspection)
        else
          (.error .unsupported, inspection)
  allowExplicitUnpaid_eq : ∀ filter origin weight inspection,
    ∃ error,
      lib.allowExplicitUnpaidExecutionFrom filter origin weight inspection =
        judge
          (filter origin && startsUnpaid weight inspection.instructions)
          error inspection

/-- The barrier that looks for transfers takes an empty message for an
ill-formed one. -/
def RefusesEmpty (lib : XcmBuilder V) : Prop :=
  ∀ origin weight inspection,
    inspection.instructions = [] →
      lib.denyReserveTransferToRelayChain origin weight inspection =
        (.error .badFormat, inspection)

end XcmBuilder

/-- An unchanged rest leaves the whole message unchanged. -/
theorem leave_enter
    {universal : Junctions} {limit : ℕ} {origin : Location}
    {inspection : Inspection V} {computed : Computed V}
    (found :
      computeOrigin universal limit origin inspection.instructions =
        some computed) :
    inspection.leave computed (inspection.enter computed) = inspection := by
  obtain ⟨split, _⟩ := computeOrigin_splits found
  simp only [Inspection.leave, Inspection.enter, ← split]

theorem exists_of_startsUnpaid {weight : Weight}
    {instructions : List (Instruction V)}
    (unpaid : startsUnpaid weight instructions = true) :
    ∃ weightLimit checkOrigin rest,
      instructions = .unpaidExecution weightLimit checkOrigin :: rest := by
  unfold startsUnpaid at unpaid
  split at unpaid
  · exact ⟨_, _, _, rfl⟩
  · cases unpaid

section Rules

variable {lib : XcmBuilder V} (documented : lib.Documented)
include documented

section Pair

variable {first second : ShouldExecute V} {origin : Location} {weight : Weight}
  (firstAtomic : (first origin weight).Atomic)
  (secondAtomic : (second origin weight).Atomic)
include firstAtomic secondAtomic

omit documented in
private theorem pair_atomic :
    ∀ program ∈ [first, second].map (fun barrier => barrier origin weight),
      program.Atomic := by
  intro program member
  simp only [List.map_cons, List.map_nil, List.mem_cons, List.not_mem_nil,
    or_false] at member
  rcases member with rfl | rfl
  · exact firstAtomic
  · exact secondAtomic

theorem tuple_pair_atomic :
    (lib.tuple [first, second] origin weight).Atomic := by
  rw [documented.tuple_eq]
  exact Program.firstOf_atomic (pair_atomic firstAtomic secondAtomic)

/-- What a pair admits, one of its members admits in the same way. -/
theorem tuple_pair_ok
    {inspection reached : Inspection V}
    (finished :
      lib.tuple [first, second] origin weight inspection =
        (.ok ⟨⟩, reached)) :
    first origin weight inspection = (.ok ⟨⟩, reached) ∨
      second origin weight inspection = (.ok ⟨⟩, reached) := by
  rw [documented.tuple_eq] at finished
  obtain ⟨program, member, ran⟩ :=
    Program.exists_of_firstOf_ok (pair_atomic firstAtomic secondAtomic)
      finished
  simp only [List.map_cons, List.map_nil, List.mem_cons, List.not_mem_nil,
    or_false] at member
  rcases member with rfl | rfl
  · exact Or.inl ran
  · exact Or.inr ran

theorem tuple_pair_finishes_iff {inspection : Inspection V} :
    (lib.tuple [first, second] origin weight).Finishes inspection ↔
      (first origin weight).Finishes inspection ∨
        (second origin weight).Finishes inspection := by
  rw [documented.tuple_eq,
    Program.firstOf_finishes_iff (pair_atomic firstAtomic secondAtomic)]
  simp

end Pair

/-- Looking for transfers changes nothing. -/
theorem denyReserve_unchanged
    {origin : Location} {weight : Weight} {inspection reached : Inspection V}
    {result : Except ProcessMessageError PUnit}
    (ran :
      lib.denyReserveTransferToRelayChain origin weight inspection =
        (result, reached)) :
    reached = inspection := by
  have keeps := documented.denyReserve_keeps origin weight inspection
  rw [Program.final, ran] at keeps
  exact keeps

theorem takeWeightCredit_ok
    {origin : Location} {weight : Weight} {inspection reached : Inspection V}
    (finished :
      lib.takeWeightCredit origin weight inspection = (.ok ⟨⟩, reached)) :
    inspection.properties.weightCredit.allGte weight = true ∧
      reached.instructions = inspection.instructions := by
  rw [documented.takeWeightCredit_eq, Weight.checkedSub] at finished
  by_cases enough : inspection.properties.weightCredit.allGte weight = true
  · rw [if_pos enough] at finished
    cases finished
    exact ⟨enough, rfl⟩
  · rw [if_neg enough] at finished
    cases finished

theorem takeWeightCredit_finishes
    (origin : Location) {weight : Weight} {inspection : Inspection V}
    (enough : inspection.properties.weightCredit.allGte weight = true) :
    (lib.takeWeightCredit origin weight).Finishes inspection := by
  rw [Program.Finishes, documented.takeWeightCredit_eq, Weight.checkedSub,
    if_pos enough]
  exact ⟨⟨⟩, _, rfl⟩

theorem takeWeightCredit_atomic (origin : Location) (weight : Weight) :
    (lib.takeWeightCredit origin weight).Atomic := by
  intro inspection reason reached stopped
  rw [documented.takeWeightCredit_eq] at stopped
  split at stopped
  · cases stopped
  · cases stopped
    rfl

theorem allowTopLevelPaid_ok
    {filter : Contains Location} {origin : Location} {weight : Weight}
    {inspection reached : Inspection V}
    (finished :
      lib.allowTopLevelPaidExecutionFrom filter origin weight inspection =
        (.ok ⟨⟩, reached)) :
    PaysFirst weight inspection.instructions ∧
      List.Forall₂ Relimits inspection.instructions reached.instructions := by
  obtain ⟨error, paid⟩ :=
    documented.allowTopLevelPaid_eq filter origin weight inspection
  rw [paid] at finished
  split_ifs at finished
  · split at finished
    · rename_i instructions pays
      cases finished
      exact
        ⟨(exists_payFirst_iff _ _).mp ⟨instructions, pays⟩,
          payFirst_relimits pays⟩
    · cases finished
  · cases finished

theorem allowTopLevelPaid_finishes
    {filter : Contains Location} {origin : Location} {weight : Weight}
    {inspection : Inspection V} (allowed : filter origin = true)
    (pays : PaysFirst weight inspection.instructions) :
    (lib.allowTopLevelPaidExecutionFrom filter origin weight).Finishes
      inspection := by
  obtain ⟨error, paid⟩ :=
    documented.allowTopLevelPaid_eq filter origin weight inspection
  obtain ⟨instructions, pays⟩ := (exists_payFirst_iff _ _).mpr pays
  rw [Program.Finishes, paid, if_pos allowed, pays]
  exact ⟨⟨⟩, _, rfl⟩

theorem allowTopLevelPaid_atomic
    (filter : Contains Location) (origin : Location) (weight : Weight) :
    (lib.allowTopLevelPaidExecutionFrom filter origin weight).Atomic := by
  intro inspection reason reached stopped
  obtain ⟨error, paid⟩ :=
    documented.allowTopLevelPaid_eq filter origin weight inspection
  rw [paid] at stopped
  split_ifs at stopped
  · split at stopped
    · cases stopped
    · cases stopped
      rfl
  · cases stopped
    rfl

theorem allowExplicitUnpaid_ok
    {filter : Contains Location} {origin : Location} {weight : Weight}
    {inspection reached : Inspection V}
    (finished :
      lib.allowExplicitUnpaidExecutionFrom filter origin weight inspection =
        (.ok ⟨⟩, reached)) :
    filter origin = true ∧
      startsUnpaid weight inspection.instructions = true ∧
        reached = inspection := by
  obtain ⟨error, judged⟩ :=
    documented.allowExplicitUnpaid_eq filter origin weight inspection
  rw [judged, judge_apply] at finished
  by_cases admitted :
      (filter origin && startsUnpaid weight inspection.instructions) = true
  · rw [if_pos admitted] at finished
    cases finished
    rw [Bool.and_eq_true] at admitted
    exact ⟨admitted.1, admitted.2, rfl⟩
  · rw [if_neg admitted] at finished
    cases finished

theorem allowExplicitUnpaid_finishes
    {filter : Contains Location} {origin : Location} {weight : Weight}
    {inspection : Inspection V} (allowed : filter origin = true)
    (unpaid : startsUnpaid weight inspection.instructions = true) :
    (lib.allowExplicitUnpaidExecutionFrom filter origin weight).Finishes
      inspection := by
  obtain ⟨error, judged⟩ :=
    documented.allowExplicitUnpaid_eq filter origin weight inspection
  rw [Program.Finishes, judged, judge_apply, allowed, unpaid]
  exact ⟨⟨⟩, inspection, rfl⟩

theorem allowExplicitUnpaid_atomic
    (filter : Contains Location) (origin : Location) (weight : Weight) :
    (lib.allowExplicitUnpaidExecutionFrom filter origin weight).Atomic := by
  intro inspection reason reached stopped
  obtain ⟨error, judged⟩ :=
    documented.allowExplicitUnpaid_eq filter origin weight inspection
  rw [judged, judge_apply] at stopped
  exact (congrArg Prod.snd stopped).symm

/-- What is admitted after the origin is computed, the inner barrier admits. -/
theorem withComputedOrigin_ok
    {inner : ShouldExecute V} {universal : Junctions} {limit : ℕ}
    {origin : Location} {weight : Weight} {inspection reached : Inspection V}
    (finished :
      lib.withComputedOrigin inner universal limit origin weight inspection =
        (.ok ⟨⟩, reached)) :
    ∃ computed innerReached,
      computeOrigin universal limit origin inspection.instructions =
          some computed ∧
        inner computed.origin weight (inspection.enter computed) =
            (.ok ⟨⟩, innerReached) ∧
          reached = inspection.leave computed innerReached := by
  by_cases empty : inspection.instructions = []
  · rcases
        documented.withComputedOrigin_nil inner universal limit origin weight
          inspection empty with
      ⟨error, refused⟩ | same
    · rw [refused] at finished
      cases finished
    · rw [same] at finished
      refine ⟨⟨origin, [], []⟩, reached, ?_, ?_, rfl⟩
      · rw [empty]
        exact computeOrigin_nil universal limit origin
      · obtain ⟨instructions, properties⟩ := inspection
        cases empty
        exact finished
  · rw [documented.withComputedOrigin_eq _ _ _ _ _ _ empty] at finished
    cases found :
        computeOrigin universal limit origin inspection.instructions with
    | none =>
        rw [found] at finished
        cases finished
    | some computed =>
        rw [found] at finished
        obtain ⟨innerReached, ran, left⟩ := Program.exists_of_zoom_ok finished
        exact ⟨computed, innerReached, rfl, ran, left⟩

theorem withComputedOrigin_atomic
    {inner : ShouldExecute V} (innerAtomic : ∀ origin weight,
      (inner origin weight).Atomic)
    (universal : Junctions) (limit : ℕ) (origin : Location) (weight : Weight) :
    (lib.withComputedOrigin inner universal limit origin weight).Atomic := by
  intro inspection reason reached stopped
  by_cases empty : inspection.instructions = []
  · rcases
        documented.withComputedOrigin_nil inner universal limit origin weight
          inspection empty with
      ⟨error, refused⟩ | same
    · exact (congrArg Prod.snd (refused.symm.trans stopped)).symm
    · exact
        innerAtomic origin weight inspection reason reached
          (same.symm.trans stopped)
  · rw [documented.withComputedOrigin_eq _ _ _ _ _ _ empty] at stopped
    cases found :
        computeOrigin universal limit origin inspection.instructions with
    | none =>
        rw [found] at stopped
        cases stopped
        rfl
    | some computed =>
        rw [found] at stopped
        rcases ran :
            inner computed.origin weight (inspection.enter computed) with
          ⟨result, innerReached⟩
        simp only [Program.zoom, ran] at stopped
        cases stopped
        have unchanged :=
          innerAtomic _ _ (inspection.enter computed) reason innerReached ran
        rw [unchanged]
        exact leave_enter found

theorem withComputedOrigin_finishes
    {inner : ShouldExecute V} {universal : Junctions} {limit : ℕ}
    {origin : Location} {weight : Weight} {inspection : Inspection V}
    (nonempty : inspection.instructions ≠ []) {computed : Computed V}
    (found :
      computeOrigin universal limit origin inspection.instructions =
        some computed)
    (admits :
      (inner computed.origin weight).Finishes (inspection.enter computed)) :
    (lib.withComputedOrigin inner universal limit origin weight).Finishes
      inspection := by
  have zoomed :
      (Program.zoom (Inspection.enter computed) (Inspection.leave computed)
          (inner computed.origin weight)).Finishes
        inspection :=
    Program.zoom_finishes_iff.mpr admits
  rw [Program.Finishes,
    documented.withComputedOrigin_eq _ _ _ _ _ _ nonempty, found]
  exact zoomed

end Rules

/-! ## A library as documented -/

namespace XcmBuilder

/-- The barriers as they are documented; an empty message is refused where
that is left open. -/
def reference (V : Vocabulary) : XcmBuilder V where
  tuple barriers origin weight :=
    Program.firstOf .unsupported
      (barriers.map fun barrier => barrier origin weight)
  trailingSetTopicAsId inner origin weight :=
    Program.zoom Inspection.dropTopic Inspection.restoreTopic
      (inner origin weight)
  denyThenTry deny allow origin weight :=
    deny origin weight >>= fun _ => allow origin weight
  denyReserveTransferToRelayChain _ _ inspection :=
    judge
      (!inspection.instructions.isEmpty &&
        inspection.instructions.all
          fun instruction => !instruction.reserveTransferToRelayChain)
      (if inspection.instructions.isEmpty then .badFormat else .unsupported)
      inspection
  takeWeightCredit _ weight inspection :=
    match inspection.properties.weightCredit.checkedSub weight with
    | some weightCredit =>
        (.ok ⟨⟩,
          { inspection with
            properties :=
              { inspection.properties with weightCredit := weightCredit } })
    | none => (.error (.overweight weight), inspection)
  withComputedOrigin inner universal limit origin weight inspection :=
    match inspection.instructions with
    | [] => (.error .badFormat, inspection)
    | _ :: _ =>
        match
          computeOrigin universal limit origin inspection.instructions
        with
        | some computed =>
            Program.zoom (Inspection.enter computed)
              (Inspection.leave computed) (inner computed.origin weight)
              inspection
        | none => (.error .unsupported, inspection)
  allowTopLevelPaidExecutionFrom filter origin weight inspection :=
    if filter origin then
      match payFirst weight inspection.instructions with
      | some instructions =>
          (.ok ⟨⟩, { inspection with instructions := instructions })
      | none => (.error (.overweight weight), inspection)
    else
      (.error .unsupported, inspection)
  allowExplicitUnpaidExecutionFrom filter origin weight :=
    fun inspection =>
      judge (filter origin && startsUnpaid weight inspection.instructions)
        (.overweight weight) inspection

theorem reference_documented : (reference V).Documented where
  tuple_eq _ _ _ := rfl
  trailingSetTopicAsId_eq _ _ _ := rfl
  denyThenTry_eq _ _ _ _ := rfl
  denyReserve_keeps := by
    intro origin weight inspection
    simp only [Program.final, reference, judge_apply]
  denyReserve_finishes_iff := by
    intro origin weight inspection nonempty
    have notEmpty : inspection.instructions.isEmpty = false := by
      simpa using nonempty
    by_cases clean :
        inspection.instructions.all
            (fun instruction => !instruction.reserveTransferToRelayChain) =
          true
    · simp only [Program.Finishes, reference, judge_apply, notEmpty, clean]
      simpa using clean
    · simp only [Program.Finishes, reference, judge_apply, notEmpty, clean]
      simpa using clean
  takeWeightCredit_eq _ _ _ := rfl
  withComputedOrigin_eq := by
    intro inner universal limit origin weight inspection nonempty
    obtain ⟨instructions, properties⟩ := inspection
    cases instructions with
    | nil =>
        exact absurd rfl nonempty
    | cons first rest =>
        rfl
  withComputedOrigin_nil := by
    intro inner universal limit origin weight inspection empty
    obtain ⟨instructions, properties⟩ := inspection
    cases empty
    exact Or.inl ⟨.badFormat, rfl⟩
  allowTopLevelPaid_eq _ _ weight _ := ⟨.overweight weight, rfl⟩
  allowExplicitUnpaid_eq _ _ weight _ := ⟨.overweight weight, rfl⟩

theorem reference_refusesEmpty : (reference V).RefusesEmpty := by
  intro origin weight inspection empty
  simp [reference, judge_apply, empty]

end XcmBuilder

end ConfidentialWorker
