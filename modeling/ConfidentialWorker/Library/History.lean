import Mathlib.Data.List.Basic
import Mathlib.Data.List.Induction

/-!
# Runs of a deterministic system

A system is a step function that answers every operation with a report and a
new state.  `reach` is the state after a list of operations, and `trace` pairs
the operations with their reports.  The rules below are the ways of reasoning
about all runs:

* an invariant may speak about the operations that led to a state, and about
  what was reported of them;
* operations that leave a view of the state alone may be erased from a run;
* `latest` is the last operation of a kind, by its place in the history;
* between the operations of a run the state may change aside, in parts that a
  view does not see, which another system may count as operations of its own.
-/

universe u v w x

namespace History

variable {σ : Type u} {ι : Type v} {ρ : Type w}

/-- The state reached from `start` after the listed operations, in order. -/
def reach (step : σ → ι → ρ × σ) (start : σ) (operations : List ι) : σ :=
  operations.foldl (fun state operation => (step state operation).2) start

theorem reach_snoc
    (step : σ → ι → ρ × σ) (start : σ) (before : List ι) (operation : ι) :
    reach step start (before ++ [operation]) =
      (step (reach step start before) operation).2 := by
  simp [reach]

/-- An invariant that relates the operations so far to the state they reach
holds of every run once it holds at the start and survives one more step. -/
theorem reach_induction
    {step : σ → ι → ρ × σ} {start : σ}
    (invariant : List ι → σ → Prop)
    (base : invariant [] start)
    (preserved :
      ∀ before operation state,
        state = reach step start before →
        invariant before state →
          invariant (before ++ [operation]) (step state operation).2)
    (operations : List ι) :
    invariant operations (reach step start operations) := by
  induction operations using List.reverseRecOn with
  | nil =>
      exact base
  | append_singleton before operation inductionHypothesis =>
      rw [reach_snoc]
      exact preserved before operation _ rfl inductionHypothesis

/-- The operations from `start`, each with its report. -/
def trace (step : σ → ι → ρ × σ) (start : σ) (operations : List ι) :
    List (ι × ρ) :=
  match operations with
  | [] => []
  | operation :: rest =>
      (operation, (step start operation).1) ::
        trace step (step start operation).2 rest

theorem trace_snoc
    (step : σ → ι → ρ × σ) (start : σ) (before : List ι) (operation : ι) :
    trace step start (before ++ [operation]) =
      trace step start before ++
        [(operation, (step (reach step start before) operation).1)] := by
  induction before generalizing start with
  | nil =>
      rfl
  | cons first rest inductionHypothesis =>
      have later := inductionHypothesis (step start first).2
      simp only [List.cons_append, trace, later]
      rfl

/-- Operations that leave a view alone may be erased, provided the operations
that are kept act on the view through the view only. -/
theorem view_reach_filter
    {υ : Type x} {step : σ → ι → ρ × σ} (view : σ → υ) (kept : ι → Bool)
    (ignored :
      ∀ state operation,
        kept operation = false →
          view (step state operation).2 = view state)
    (consistent :
      ∀ left right operation,
        kept operation = true →
        view left = view right →
          view (step left operation).2 = view (step right operation).2)
    (start : σ) (operations : List ι) :
    view (reach step start operations) =
      view (reach step start (operations.filter kept)) := by
  induction operations using List.reverseRecOn with
  | nil =>
      rfl
  | append_singleton before operation inductionHypothesis =>
      rw [reach_snoc, List.filter_append]
      cases keep : kept operation with
      | false =>
          rw [ignored _ operation keep, inductionHypothesis]
          simp [keep]
      | true =>
          have sameStep :=
            consistent _ _ operation keep inductionHypothesis
          simpa [keep, reach_snoc] using sameStep

/-! ## The latest operation of a kind -/

variable {α : Type x}

/-- What `select` makes of the last operation it selects. -/
def latest (select : ι → Option α) (history : List ι) : Option α :=
  (history.filterMap select).getLast?

theorem latest_snoc (select : ι → Option α) (before : List ι) (operation : ι) :
    latest select (before ++ [operation]) =
      (select operation).or (latest select before) := by
  unfold latest
  cases selected : select operation with
  | none =>
      simp [selected]
  | some value =>
      simp [selected]

theorem latest_of_none
    {select : ι → Option α} {history : List ι}
    (unselected : ∀ operation ∈ history, select operation = none) :
    latest select history = none := by
  have empty : history.filterMap select = [] :=
    List.filterMap_eq_nil_iff.mpr unselected
  rw [latest, empty]
  rfl

theorem latest_of_split
    {select : ι → Option α} {operation : ι} {value : α}
    (selected : select operation = some value)
    (earlier : List ι) {later : List ι}
    (unselected : ∀ operation ∈ later, select operation = none) :
    latest select (earlier ++ operation :: later) = some value := by
  have empty : later.filterMap select = [] :=
    List.filterMap_eq_nil_iff.mpr unselected
  simp [latest, selected, empty]

/-! ## Changes between operations -/

variable {κ : Type x}

/-- From one state to another by these operations, in this order.  Between
them only what `kept` does not see may change. -/
inductive Passes (apply : σ → ι → σ) (kept : σ → κ) : σ → List ι → σ → Prop
  | done (state : σ) : Passes apply kept state [] state
  | aside {state next last : σ} {operations : List ι} :
      kept next = kept state →
      Passes apply kept next operations last →
      Passes apply kept state operations last
  | operation {state last : σ} {operation : ι} {later : List ι} :
      Passes apply kept (apply state operation) later last →
      Passes apply kept state (operation :: later) last

section Passes

variable {apply : σ → ι → σ} {kept : σ → κ}

theorem Passes.of_kept {state next : σ} (same : kept next = kept state) :
    Passes apply kept state [] next :=
  .aside same (.done next)

theorem Passes.single (state : σ) (operation : ι) :
    Passes apply kept state [operation] (apply state operation) :=
  .operation (.done _)

theorem Passes.trans
    {state middle last : σ} {first second : List ι}
    (before : Passes apply kept state first middle)
    (after : Passes apply kept middle second last) :
    Passes apply kept state (first ++ second) last := by
  induction before with
  | done _ =>
      exact after
  | aside same _ inductionHypothesis =>
      exact .aside same (inductionHypothesis after)
  | operation _ inductionHypothesis =>
      exact .operation (inductionHypothesis after)

/-- Systems that all have an operation for each of these, and for each change
aside, run through the same states. -/
theorem Passes.exists_reach
    {π τ β : Type x} {ο : Type v} {step : π → τ → ο → ρ × τ} {embed : π → σ → τ}
    {select : ο → Option β} {named : ι → β}
    (simulates :
      ∀ operation,
        ∃ own, select own = some (named operation) ∧
          ∀ system state,
            (step system (embed system state) own).2 =
              embed system (apply state operation))
    (changes :
      ∀ state next,
        kept next = kept state →
          ∃ own, select own = none ∧
            ∀ system,
              (step system (embed system state) own).2 = embed system next)
    {start last : σ} {operations : List ι}
    (passes : Passes apply kept start operations last) :
    ∃ history,
      history.filterMap select = operations.map named ∧
        ∀ system,
          reach (step system) (embed system start) history =
            embed system last := by
  induction passes with
  | done state =>
      exact ⟨[], rfl, fun _ => rfl⟩
  | @aside state next _ _ same _ inductionHypothesis =>
      obtain ⟨history, selected, reaches⟩ := inductionHypothesis
      obtain ⟨own, unselected, moves⟩ := changes state next same
      refine ⟨own :: history, ?_, ?_⟩
      · rw [List.filterMap_cons_none unselected]
        exact selected
      · intro system
        rw [reach, List.foldl_cons, moves system]
        exact reaches system
  | @operation state _ operation _ _ inductionHypothesis =>
      obtain ⟨history, selected, reaches⟩ := inductionHypothesis
      obtain ⟨own, selects, moves⟩ := simulates operation
      refine ⟨own :: history, ?_, ?_⟩
      · rw [List.filterMap_cons_some selects, selected, List.map_cons]
      · intro system
        rw [reach, List.foldl_cons, moves system state]
        exact reaches system

end Passes

end History
