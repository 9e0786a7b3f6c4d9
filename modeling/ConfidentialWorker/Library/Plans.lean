import ConfidentialWorker.Library.Program
import Mathlib.Data.List.Infix

/-!
# Programs that follow a plan

A program on a log only adds to it.  It follows a plan if every run adds the
entries of the plan in order: all of them when the run finishes, and those up
to some place when it stops.  The plan of a program is put together from the
plans of its parts.
-/

universe u

namespace Program

variable {ε τ α β : Type u}

/-- Add an entry to the log. -/
def note (entry : ε) : Program (List ε) τ PUnit :=
  modify fun log => log ++ [entry]

/-- Add an entry if a condition holds. -/
def noteIf (condition : Bool) (entry : ε) : Program (List ε) τ PUnit :=
  if condition then note entry else pure ⟨⟩

/-- Go on with a value, or stop for the reason there is none. -/
def require (answer : Except τ α) : Program (List ε) τ α :=
  fun log => (answer, log)

/-- Every run adds to the log what the plan says, all of it if it finishes. -/
def Follows (plan : List ε) (program : Program (List ε) τ α) : Prop :=
  ∀ log,
    ∃ made,
      program.final log = log ++ made ∧
        made <+: plan ∧
          ∀ value, program.outcome log = .ok value → made = plan

theorem follows_pure (value : α) :
    Follows [] (pure value : Program (List ε) τ α) := by
  intro log
  exact
    ⟨[], (List.append_nil log).symm, List.nil_prefix, fun _ _ => rfl⟩

theorem follows_note (entry : ε) :
    Follows [entry] (note entry : Program (List ε) τ PUnit) := by
  intro log
  exact ⟨[entry], rfl, List.prefix_rfl, fun _ _ => rfl⟩

theorem follows_require (answer : Except τ α) :
    Follows [] (require answer : Program (List ε) τ α) := by
  intro log
  exact
    ⟨[], (List.append_nil log).symm, List.nil_prefix, fun _ _ => rfl⟩

theorem follows_noteIf (condition : Bool) (entry : ε) :
    Follows (if condition then [entry] else [])
      (noteIf condition entry : Program (List ε) τ PUnit) := by
  cases condition with
  | true => exact follows_note entry
  | false => exact follows_pure PUnit.unit

/-- A program that stops at once follows every plan. -/
theorem follows_stop (plan : List ε) (reason : τ) :
    Follows plan (stop reason : Program (List ε) τ α) := by
  intro log
  refine ⟨[], (List.append_nil log).symm, List.nil_prefix, ?_⟩
  intro value finished
  cases finished

theorem follows_bind
    {plan later : List ε} {first : Program (List ε) τ α}
    {next : α → Program (List ε) τ β}
    (firstFollows : Follows plan first)
    (nextFollows : ∀ value, Follows later (next value)) :
    Follows (plan ++ later) (first >>= next) := by
  intro log
  obtain ⟨made, reached_eq, planned, whole⟩ := firstFollows log
  rcases ran : first log with ⟨result, reached⟩
  simp only [final, outcome, ran] at reached_eq whole
  cases result with
  | error reason =>
      have stopped := bind_of_error ran next
      refine ⟨made, ?_, planned.trans (List.prefix_append plan later), ?_⟩
      · rw [final, stopped, reached_eq]
      · intro value finished
        rw [outcome, stopped] at finished
        cases finished
  | ok value =>
      have continued := bind_of_ok ran next
      obtain ⟨more, more_eq, morePlanned, moreWhole⟩ :=
        nextFollows value reached
      have made_eq : made = plan := whole value rfl
      refine ⟨plan ++ more, ?_, ?_, ?_⟩
      · rw [final, continued]
        change (next value).final reached = _
        rw [more_eq, reached_eq, made_eq, List.append_assoc]
      · exact (List.prefix_append_right_inj plan).mpr morePlanned
      · intro last finished
        rw [outcome, continued] at finished
        rw [moreWhole last finished]

/-- A part that adds nothing. -/
theorem follows_of_silent
    {plan : List ε} {first : Program (List ε) τ α}
    {next : α → Program (List ε) τ β}
    (silent : Follows [] first)
    (nextFollows : ∀ value, Follows plan (next value)) :
    Follows plan (first >>= next) :=
  follows_bind silent nextFollows

/-- A part that adds one entry. -/
theorem follows_of_note
    {entry : ε} {plan : List ε} {next : PUnit → Program (List ε) τ β}
    (nextFollows : ∀ value, Follows plan (next value)) :
    Follows (entry :: plan) (note entry >>= next) :=
  follows_bind (follows_note entry) nextFollows

/-! ## The last entry -/

/-- A run adds the entry exactly when it finishes. -/
def Closes (last : ε) (program : Program (List ε) τ α) : Prop :=
  ∀ log,
    ∃ made,
      program.final log = log ++ made ∧
        (last ∈ made ↔ ∃ value, program.outcome log = .ok value)

theorem closes_note (last : ε) :
    Closes last (note last : Program (List ε) τ PUnit) := by
  intro log
  refine ⟨[last], rfl, iff_of_true (List.mem_singleton_self last) ?_⟩
  exact ⟨⟨⟩, rfl⟩

/-- A program that closes may follow one whose plan is without the entry. -/
theorem closes_bind
    {last : ε} {plan : List ε} {first : Program (List ε) τ α}
    {next : α → Program (List ε) τ β}
    (follows : Follows plan first) (notPlanned : last ∉ plan)
    (nextCloses : ∀ value, Closes last (next value)) :
    Closes last (first >>= next) := by
  intro log
  obtain ⟨made, reached_eq, planned, _⟩ := follows log
  have notMade : last ∉ made :=
    fun member => notPlanned (planned.subset member)
  rcases ran : first log with ⟨result, reached⟩
  simp only [final, ran] at reached_eq
  cases result with
  | error reason =>
      have stopped := bind_of_error ran next
      refine ⟨made, ?_, iff_of_false notMade ?_⟩
      · rw [final, stopped, reached_eq]
      · intro finishes
        obtain ⟨_, finished⟩ := finishes
        rw [outcome, stopped] at finished
        cases finished
  | ok value =>
      have continued := bind_of_ok ran next
      obtain ⟨more, more_eq, last_iff⟩ := nextCloses value reached
      refine ⟨made ++ more, ?_, ?_⟩
      · rw [final, continued]
        change (next value).final reached = _
        rw [more_eq, reached_eq, List.append_assoc]
      · rw [outcome, continued, List.mem_append]
        change _ ↔ ∃ last, (next value).outcome reached = .ok last
        rw [← last_iff]
        exact or_iff_right notMade

/-! ## How a run ends -/

/-- What can be said about the value a run finishes with, and about the reason
it stops for. -/
def Ends (good : α → Prop) (bad : τ → Prop)
    (program : Program (List ε) τ α) : Prop :=
  (∀ log value, program.outcome log = .ok value → good value) ∧
    ∀ log reason, program.outcome log = .error reason → bad reason

section Ends

variable {good : α → Prop} {bad : τ → Prop}

theorem ends_pure {value : α} (holds : good value) :
    Ends good bad (pure value : Program (List ε) τ α) := by
  constructor
  · intro log found finished
    cases finished
    exact holds
  · intro log reason stopped
    cases stopped

theorem ends_note (entry : ε) :
    Ends (fun _ => True) bad (note entry : Program (List ε) τ PUnit) := by
  constructor
  · intro log value _
    exact trivial
  · intro log reason stopped
    cases stopped

theorem ends_noteIf (condition : Bool) (entry : ε) :
    Ends (fun _ => True) bad
      (noteIf condition entry : Program (List ε) τ PUnit) := by
  cases condition with
  | true => exact ends_note entry
  | false => exact ends_pure trivial

theorem ends_bind
    {later : β → Prop} {first : Program (List ε) τ α}
    {next : α → Program (List ε) τ β}
    (firstEnds : Ends good bad first)
    (nextEnds : ∀ value, good value → Ends later bad (next value)) :
    Ends later bad (first >>= next) := by
  constructor
  · intro log value finished
    rcases ran : first log with ⟨result, reached⟩
    cases result with
    | error reason =>
        rw [outcome, bind_of_error ran next] at finished
        cases finished
    | ok given =>
        rw [outcome, bind_of_ok ran next] at finished
        have holds := firstEnds.1 log given (congrArg Prod.fst ran)
        exact (nextEnds given holds).1 reached value finished
  · intro log reason stopped
    rcases ran : first log with ⟨result, reached⟩
    cases result with
    | error early =>
        rw [outcome, bind_of_error ran next] at stopped
        cases stopped
        exact firstEnds.2 log reason (congrArg Prod.fst ran)
    | ok given =>
        rw [outcome, bind_of_ok ran next] at stopped
        have holds := firstEnds.1 log given (congrArg Prod.fst ran)
        exact (nextEnds given holds).2 reached reason stopped

end Ends

/-! ## When a run finishes -/

/-- A run finishes exactly under a condition, wherever it starts. -/
def FinishesWhen (condition : Prop) (program : Program (List ε) τ α) : Prop :=
  ∀ log, (∃ value, program.outcome log = .ok value) ↔ condition

section FinishesWhen

variable {condition later : Prop}

theorem finishesWhen_pure (value : α) :
    FinishesWhen True (pure value : Program (List ε) τ α) :=
  fun _ => iff_of_true ⟨value, rfl⟩ trivial

theorem finishesWhen_note (entry : ε) :
    FinishesWhen True (note entry : Program (List ε) τ PUnit) :=
  fun _ => iff_of_true ⟨⟨⟩, rfl⟩ trivial

theorem finishesWhen_noteIf (present : Bool) (entry : ε) :
    FinishesWhen True (noteIf present entry : Program (List ε) τ PUnit) := by
  cases present with
  | true => exact finishesWhen_note entry
  | false => exact finishesWhen_pure PUnit.unit

theorem finishesWhen_bind
    {first : Program (List ε) τ α} {next : α → Program (List ε) τ β}
    (firstFinishes : FinishesWhen condition first)
    (nextFinishes : ∀ value, FinishesWhen later (next value)) :
    FinishesWhen (condition ∧ later) (first >>= next) := by
  intro log
  have first_iff := firstFinishes log
  rcases ran : first log with ⟨result, reached⟩
  simp only [outcome, ran] at first_iff
  cases result with
  | error reason =>
      have stopped := bind_of_error ran next
      have refused : ¬ condition := by
        intro holds
        obtain ⟨_, finished⟩ := first_iff.mpr holds
        cases finished
      refine iff_of_false ?_ (fun both => refused both.1)
      intro finishes
      obtain ⟨_, finished⟩ := finishes
      rw [outcome, stopped] at finished
      cases finished
  | ok value =>
      have holds : condition := first_iff.mp ⟨value, rfl⟩
      rw [outcome, bind_of_ok ran next]
      exact (nextFinishes value reached).trans (and_iff_right holds).symm

/-- A part that always finishes adds no condition. -/
theorem finishesWhen_of_total
    {first : Program (List ε) τ α} {next : α → Program (List ε) τ β}
    (total : FinishesWhen True first)
    (nextFinishes : ∀ value, FinishesWhen later (next value)) :
    FinishesWhen later (first >>= next) :=
  fun log =>
    (finishesWhen_bind total nextFinishes log).trans (and_iff_right trivial)

/-- A condition before parts that always finish. -/
theorem finishesWhen_of_last
    {first : Program (List ε) τ α} {next : α → Program (List ε) τ β}
    (firstFinishes : FinishesWhen condition first)
    (nextTotal : ∀ value, FinishesWhen True (next value)) :
    FinishesWhen condition (first >>= next) :=
  fun log =>
    (finishesWhen_bind firstFinishes nextTotal log).trans
      (and_iff_left trivial)

end FinishesWhen

end Program
