import Mathlib.Order.Defs.Unbundled
import Mathlib.Data.List.Basic

/-!
# Stateful programs that may stop

A program runs on a state and either finishes with a value or stops with a
reason.  The state reached is kept in both cases: what a program did before
it stopped stays observable.

Three kinds of rules are provided:

* evaluation rules, which run a program from a known state;
* rules for alternatives, which are tried in order until one finishes;
* step-relation rules.  `Respects related program` says that every run of the
  program moves the state along a preorder, whatever its outcome.  Keeping a
  part of the state fixed is such a preorder.
-/

universe u v

/-- A computation on states `σ` that finishes with an `α` or stops with a `τ`. -/
def Program (σ τ α : Type u) : Type u :=
  σ → Except τ α × σ

namespace Program

variable {σ τ α β : Type u}

/-- Finish at once, leaving the state alone. -/
protected def pure (value : α) : Program σ τ α :=
  fun state => (.ok value, state)

/-- Run `next` on the value of `first`, from the state `first` reached. -/
protected def bind (first : Program σ τ α) (next : α → Program σ τ β) :
    Program σ τ β :=
  fun state =>
    match first state with
    | (.ok value, reached) => next value reached
    | (.error reason, reached) => (.error reason, reached)

instance : Monad (Program σ τ) where
  pure := Program.pure
  bind := Program.bind

/-- Read the state through `view`. -/
def read (view : σ → α) : Program σ τ α :=
  fun state => (.ok (view state), state)

/-- Replace the state. -/
def modify (change : σ → σ) : Program σ τ PUnit :=
  fun state => (.ok ⟨⟩, change state)

/-- Stop with a reason. -/
def stop (reason : τ) : Program σ τ α :=
  fun state => (.error reason, state)

/-- How a run ends. -/
def outcome (program : Program σ τ α) (state : σ) : Except τ α :=
  (program state).1

/-- The state a run reaches, whether it finishes or stops. -/
def final (program : Program σ τ α) (state : σ) : σ :=
  (program state).2

/-! ## Evaluation -/

@[simp]
theorem pure_apply (value : α) (state : σ) :
    (pure value : Program σ τ α) state = (.ok value, state) :=
  rfl

@[simp]
theorem read_apply (view : σ → α) (state : σ) :
    (read view : Program σ τ α) state = (.ok (view state), state) :=
  rfl

@[simp]
theorem modify_apply (change : σ → σ) (state : σ) :
    (modify change : Program σ τ PUnit) state = (.ok ⟨⟩, change state) :=
  rfl

@[simp]
theorem stop_apply (reason : τ) (state : σ) :
    (stop reason : Program σ τ α) state = (.error reason, state) :=
  rfl

theorem bind_apply
    (first : Program σ τ α) (next : α → Program σ τ β) (state : σ) :
    (first >>= next) state =
      match first state with
      | (.ok value, reached) => next value reached
      | (.error reason, reached) => (.error reason, reached) :=
  rfl

theorem bind_of_ok
    {first : Program σ τ α} {state reached : σ} {value : α}
    (finished : first state = (.ok value, reached))
    (next : α → Program σ τ β) :
    (first >>= next) state = next value reached := by
  rw [bind_apply, finished]

theorem bind_of_error
    {first : Program σ τ α} {state reached : σ} {reason : τ}
    (stopped : first state = (.error reason, reached))
    (next : α → Program σ τ β) :
    (first >>= next) state = (.error reason, reached) := by
  rw [bind_apply, stopped]

/-- A sequence that finishes passes through a state between its parts. -/
theorem exists_of_bind_ok
    {first : Program σ τ α} {next : α → Program σ τ β}
    {state reached : σ} {result : β}
    (finished : (first >>= next) state = (.ok result, reached)) :
    ∃ value between,
      first state = (.ok value, between) ∧
        next value between = (.ok result, reached) := by
  rcases ran : first state with ⟨outcome, between⟩
  cases outcome with
  | ok value =>
      rw [bind_of_ok ran] at finished
      exact ⟨value, between, rfl, finished⟩
  | error reason =>
      rw [bind_of_error ran] at finished
      cases finished

instance : LawfulMonad (Program σ τ) :=
  LawfulMonad.mk' (Program σ τ)
    (by
      intro α program
      funext state
      change (program >>= fun value => pure value) state = program state
      rw [bind_apply]
      rcases program state with ⟨result, reached⟩
      cases result <;> rfl)
    (by
      intro α β value next
      rfl)
    (by
      intro α β γ program first second
      funext state
      rw [bind_apply, bind_apply, bind_apply]
      rcases program state with ⟨result, reached⟩
      cases result <;> rfl)

/-! ## Alternatives -/

/-- Run the second program where the first one stopped. -/
def orElse (first second : Program σ τ α) : Program σ τ α :=
  fun state =>
    match first state with
    | (.ok value, reached) => (.ok value, reached)
    | (.error _, reached) => second reached

/-- Run programs in order until one finishes. -/
def firstOf (reason : τ) (alternatives : List (Program σ τ α)) :
    Program σ τ α :=
  alternatives.foldr orElse (stop reason)

/-- Run a program on a part of the state. -/
def zoom {ρ : Type u} (enter : σ → ρ) (leave : σ → ρ → σ)
    (program : Program ρ τ α) : Program σ τ α :=
  fun state =>
    ((program (enter state)).1, leave state (program (enter state)).2)

/-- The program does not stop. -/
def Finishes (program : Program σ τ α) (state : σ) : Prop :=
  ∃ value reached, program state = (.ok value, reached)

/-- A program that stops has not changed the state. -/
def Atomic (program : Program σ τ α) : Prop :=
  ∀ state reason reached,
    program state = (.error reason, reached) → reached = state

theorem exists_of_zoom_ok {ρ : Type u} {enter : σ → ρ} {leave : σ → ρ → σ}
    {program : Program ρ τ α} {state reached : σ} {value : α}
    (finished : zoom enter leave program state = (.ok value, reached)) :
    ∃ inner,
      program (enter state) = (.ok value, inner) ∧
        reached = leave state inner := by
  rcases ran : program (enter state) with ⟨outcome, inner⟩
  rw [zoom, ran] at finished
  cases finished
  exact ⟨inner, rfl, rfl⟩

theorem zoom_finishes_iff {ρ : Type u} {enter : σ → ρ} {leave : σ → ρ → σ}
    {program : Program ρ τ α} {state : σ} :
    Finishes (zoom enter leave program) state ↔
      Finishes program (enter state) := by
  constructor
  · intro finishes
    obtain ⟨value, reached, finished⟩ := finishes
    obtain ⟨inner, ran, _⟩ := exists_of_zoom_ok finished
    exact ⟨value, inner, ran⟩
  · intro finishes
    obtain ⟨value, reached, ran⟩ := finishes
    exact ⟨value, leave state reached, by rw [zoom, ran]⟩

theorem orElse_of_ok
    {first : Program σ τ α} {state reached : σ} {value : α}
    (finished : first state = (.ok value, reached))
    (second : Program σ τ α) :
    orElse first second state = (.ok value, reached) := by
  rw [orElse, finished]

theorem orElse_of_error
    {first : Program σ τ α} (atomic : Atomic first)
    {state reached : σ} {reason : τ}
    (stopped : first state = (.error reason, reached))
    (second : Program σ τ α) :
    orElse first second state = second state := by
  rw [orElse, stopped, atomic _ _ _ stopped]

theorem firstOf_atomic
    {reason : τ} {alternatives : List (Program σ τ α)}
    (atomic : ∀ program ∈ alternatives, Atomic program) :
    Atomic (firstOf reason alternatives) := by
  induction alternatives with
  | nil =>
      intro state cause reached stopped
      cases stopped
      rfl
  | cons first rest inductionHypothesis =>
      intro state cause reached stopped
      rcases ran : first state with ⟨result, next⟩
      cases result with
      | ok value =>
          have finished := orElse_of_ok ran (firstOf reason rest)
          have same := finished.symm.trans stopped
          cases same
      | error earlier =>
          have atomicFirst := atomic first List.mem_cons_self
          have atomicRest :=
            inductionHypothesis fun program member =>
              atomic program (List.mem_cons_of_mem first member)
          have later := orElse_of_error atomicFirst ran (firstOf reason rest)
          exact atomicRest state cause reached (later.symm.trans stopped)

/-- What alternatives that leave no trace do, one of them does. -/
theorem exists_of_firstOf_ok
    {reason : τ} {alternatives : List (Program σ τ α)}
    (atomic : ∀ program ∈ alternatives, Atomic program)
    {state reached : σ} {value : α}
    (finished : firstOf reason alternatives state = (.ok value, reached)) :
    ∃ program ∈ alternatives, program state = (.ok value, reached) := by
  induction alternatives with
  | nil =>
      cases finished
  | cons first rest inductionHypothesis =>
      rcases ran : first state with ⟨result, next⟩
      cases result with
      | ok found =>
          have same := (orElse_of_ok ran (firstOf reason rest)).symm.trans finished
          rw [same] at ran
          exact ⟨first, List.mem_cons_self, ran⟩
      | error cause =>
          have stopped := atomic first List.mem_cons_self
          have later :=
            (orElse_of_error stopped ran (firstOf reason rest)).symm.trans
              finished
          obtain ⟨program, member, found⟩ :=
            inductionHypothesis
              (fun program member =>
                atomic program (List.mem_cons_of_mem first member))
              later
          exact ⟨program, List.mem_cons_of_mem first member, found⟩

/-- Alternatives that leave no trace finish if and only if one of them does. -/
theorem firstOf_finishes_iff
    {reason : τ} {alternatives : List (Program σ τ α)}
    (atomic : ∀ program ∈ alternatives, Atomic program) {state : σ} :
    Finishes (firstOf reason alternatives) state ↔
      ∃ program ∈ alternatives, Finishes program state := by
  constructor
  · intro finishes
    obtain ⟨value, reached, finished⟩ := finishes
    obtain ⟨program, member, found⟩ := exists_of_firstOf_ok atomic finished
    exact ⟨program, member, value, reached, found⟩
  · intro some
    obtain ⟨program, member, finishes⟩ := some
    induction alternatives with
    | nil =>
        cases member
    | cons first rest inductionHypothesis =>
        rcases ran : first state with ⟨result, next⟩
        cases result with
        | ok found =>
            exact ⟨found, next, orElse_of_ok ran _⟩
        | error cause =>
            have stopped := atomic first List.mem_cons_self
            have inRest : program ∈ rest := by
              rcases List.mem_cons.mp member with rfl | inRest
              · obtain ⟨value, reached, finished⟩ := finishes
                rw [ran] at finished
                cases finished
              · exact inRest
            obtain ⟨value, reached, finished⟩ :=
              inductionHypothesis
                (fun other inside =>
                  atomic other (List.mem_cons_of_mem first inside))
                inRest
            exact
              ⟨value, reached, (orElse_of_error stopped ran _).trans finished⟩

/-! ## Step relations -/

/-- Every run moves the state along `related`, also a run that stops. -/
def Respects (related : σ → σ → Prop) (program : Program σ τ α) : Prop :=
  ∀ state, related state (program.final state)

section Respects

variable {related : σ → σ → Prop}

theorem respects_modify {change : σ → σ}
    (moves : ∀ state, related state (change state)) :
    Respects related (modify change : Program σ τ PUnit) :=
  moves

variable [IsPreorder σ related]

theorem respects_pure (value : α) :
    Respects related (pure value : Program σ τ α) :=
  fun state => refl_of related state

theorem respects_read (view : σ → α) :
    Respects related (read view : Program σ τ α) :=
  fun state => refl_of related state

theorem respects_stop (reason : τ) :
    Respects related (stop reason : Program σ τ α) :=
  fun state => refl_of related state

/-- Steps compose: this is where transitivity of the relation is used. -/
theorem respects_bind
    {first : Program σ τ α} {next : α → Program σ τ β}
    (firstRespects : Respects related first)
    (nextRespects : ∀ value, Respects related (next value)) :
    Respects related (first >>= next) := by
  intro state
  have moved : related state (first state).2 := firstRespects state
  change related state ((first >>= next) state).2
  rcases run : first state with ⟨result, reached⟩
  rw [run] at moved
  cases result with
  | error reason =>
      rw [bind_of_error run]
      exact moved
  | ok value =>
      rw [bind_of_ok run]
      exact trans_of related moved (nextRespects value reached)

end Respects

/-! ## Frames -/

/-- The part of the state seen through `view` is the same after every run. -/
def Preserves {υ : Type v} (view : σ → υ) (program : Program σ τ α) : Prop :=
  Respects (fun before after => view after = view before) program

instance sameView_isPreorder {υ : Type v} (view : σ → υ) :
    IsPreorder σ (fun before after => view after = view before) where
  refl _ := rfl
  trans _ _ _ first second := second.trans first

theorem Preserves.final_eq {υ : Type v} {view : σ → υ} {program : Program σ τ α}
    (preserves : Preserves view program) (state : σ) :
    view (program.final state) = view state :=
  preserves state

theorem Preserves.of_apply_eq {υ : Type v} {view : σ → υ}
    {program : Program σ τ α} (preserves : Preserves view program)
    {state reached : σ} {result : Except τ α}
    (run : program state = (result, reached)) :
    view reached = view state := by
  have kept := preserves state
  unfold final at kept
  rw [run] at kept
  exact kept

end Program
