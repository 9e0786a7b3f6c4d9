import ConfidentialWorker.Library.Program
import Mathlib.Algebra.Order.Ring.Nat
import Mathlib.Data.List.Basic

/-!
# Sequences of tasks that end with the first refusal

A sequence of tasks is worked off in order until one of them is refused.  The
first section compares the tasks that were tried with those that were accepted,
when the answers are known by place.  The second section runs a program for
each task: `each` stops with the first program that stops, and `tried` lists
the tasks it came to.  What every task keeps is kept by the whole sequence, and
when every task is worth what it costs, so is the whole sequence.
-/

universe u v

namespace Sequence

variable {α : Type u}

/-! ## Answers by place -/

/-- The tasks whose place in the list is accepted. -/
def accepted (accepts : ℕ → Bool) (tasks : List α) : List α :=
  (tasks.zipIdx.filter fun task => accepts task.2).map Prod.fst

theorem accepted_of_all
    {accepts : ℕ → Bool} {tasks : List α}
    (all : ∀ index < tasks.length, accepts index = true) :
    accepted accepts tasks = tasks := by
  have kept :
      (tasks.zipIdx.filter fun task => accepts task.2) = tasks.zipIdx := by
    apply List.filter_eq_self.mpr
    intro task member
    exact all task.2 (by simpa using List.snd_lt_of_mem_zipIdx member)
  rw [accepted, kept]
  exact List.zipIdx_map_fst 0 tasks

/-- What is accepted of a sequence that ends with the first refusal. -/
theorem accepted_take_of_refused
    {accepts : ℕ → Bool} {tasks : List α} {count : ℕ}
    (bound : count < tasks.length)
    (before : ∀ index < count, accepts index = true)
    (here : accepts count = false) :
    accepted accepts (tasks.take (count + 1)) = tasks.take count := by
  have shorter : (tasks.take count).length = count := by
    rw [List.length_take]
    omega
  have accepting :
      accepted accepts (tasks.take count) = tasks.take count := by
    apply accepted_of_all
    intro index earlier
    exact before index (by omega)
  calc
    accepted accepts (tasks.take (count + 1)) =
        accepted accepts (tasks.take count ++ [tasks[count]]) := by
      rw [List.take_succ_eq_append_getElem bound]
    _ = accepted accepts (tasks.take count) := by
      rw [accepted, accepted, List.zipIdx_append, List.filter_append,
        List.map_append, shorter, List.zipIdx_singleton]
      simp [here]
    _ = tasks.take count := accepting

/-! ## A program for each task -/

section Each

variable {σ τ : Type u} (run : α → Program σ τ PUnit)

/-- Run the program of each task, until one stops. -/
def each : List α → Program σ τ PUnit
  | [] => pure ⟨⟩
  | task :: rest => run task >>= fun _ => each rest

/-- The tasks that `each` comes to, the one that stops included. -/
def tried : List α → σ → List α
  | [], _ => []
  | task :: rest, state =>
      match run task state with
      | (.ok _, next) => task :: tried rest next
      | (.error _, _) => [task]

/-- The tasks that `each` comes to, each with the state it is started in. -/
def visited : List α → σ → List (α × σ)
  | [], _ => []
  | task :: rest, state =>
      match run task state with
      | (.ok _, next) => (task, state) :: visited rest next
      | (.error _, _) => [(task, state)]

variable {run}

theorem each_cons_of_ok
    {task : α} {state next : σ} (finished : run task state = (.ok ⟨⟩, next))
    (rest : List α) :
    each run (task :: rest) state = each run rest next :=
  Program.bind_of_ok finished _

theorem tried_cons_of_ok
    {task : α} {state next : σ} (finished : run task state = (.ok ⟨⟩, next))
    (rest : List α) :
    tried run (task :: rest) state = task :: tried run rest next := by
  rw [tried, finished]

theorem each_cons_of_error
    {task : α} {state next : σ} {reason : τ}
    (stopped : run task state = (.error reason, next)) (rest : List α) :
    each run (task :: rest) state = (.error reason, next) :=
  Program.bind_of_error stopped _

theorem tried_cons_of_error
    {task : α} {state next : σ} {reason : τ}
    (stopped : run task state = (.error reason, next)) (rest : List α) :
    tried run (task :: rest) state = [task] := by
  rw [tried, stopped]

/-- A sequence whose first part finishes goes on with the rest. -/
theorem each_append_of_ok
    {before : List α} {state next : σ}
    (finished : each run before state = (.ok ⟨⟩, next)) (rest : List α) :
    each run (before ++ rest) state = each run rest next ∧
      tried run (before ++ rest) state = before ++ tried run rest next := by
  induction before generalizing state with
  | nil =>
      cases finished
      exact ⟨rfl, rfl⟩
  | cons task others inductionHypothesis =>
      rcases ran : run task state with ⟨result, reached⟩
      cases result with
      | ok _ =>
          rw [each_cons_of_ok ran] at finished
          obtain ⟨each_eq, tried_eq⟩ := inductionHypothesis finished
          constructor
          · exact (each_cons_of_ok ran _).trans each_eq
          · exact
              (tried_cons_of_ok ran _).trans (congrArg (task :: ·) tried_eq)
      | error reason =>
          rw [each_cons_of_error ran] at finished
          cases finished

/-- The tasks that are tried are an initial part of the sequence. -/
theorem tried_prefix (tasks : List α) (state : σ) :
    tried run tasks state <+: tasks := by
  induction tasks generalizing state with
  | nil =>
      exact List.prefix_refl []
  | cons task rest inductionHypothesis =>
      rcases ran : run task state with ⟨result, next⟩
      cases result with
      | ok _ =>
          rw [tried_cons_of_ok ran]
          exact (List.prefix_cons_inj task).mpr (inductionHypothesis next)
      | error reason =>
          rw [tried_cons_of_error ran]
          exact ⟨rest, rfl⟩

/-- What every task of a sequence keeps is kept by the sequence. -/
theorem each_keeps
    {holds : σ → Prop} {tasks : List α}
    (keeps :
      ∀ task ∈ tasks, ∀ state, holds state → holds ((run task).final state))
    {state : σ} (initially : holds state) :
    holds ((each run tasks).final state) := by
  induction tasks generalizing state with
  | nil =>
      exact initially
  | cons task rest inductionHypothesis =>
      have kept : holds (run task state).2 :=
        keeps task List.mem_cons_self state initially
      rcases ran : run task state with ⟨result, next⟩
      rw [ran] at kept
      cases result with
      | ok _ =>
          rw [Program.final, each_cons_of_ok ran]
          apply inductionHypothesis _ kept
          intro other member
          exact keeps other (List.mem_cons_of_mem task member)
      | error reason =>
          rw [Program.final, each_cons_of_error ran]
          exact kept

theorem visited_fst (tasks : List α) (state : σ) :
    (visited run tasks state).map Prod.fst = tried run tasks state := by
  induction tasks generalizing state with
  | nil =>
      rfl
  | cons task rest inductionHypothesis =>
      rw [visited, tried]
      rcases run task state with ⟨result, next⟩
      cases result with
      | ok _ =>
          exact congrArg (task :: ·) (inductionHypothesis next)
      | error reason =>
          rfl

/-- What every task keeps holds wherever a task is started. -/
theorem visited_holds
    {holds : σ → Prop}
    (keeps : ∀ task state, holds state → holds ((run task).final state))
    (tasks : List α) {state : σ} (initially : holds state) :
    ∀ visit ∈ visited run tasks state, holds visit.2 := by
  induction tasks generalizing state with
  | nil =>
      intro visit member
      cases member
  | cons task rest inductionHypothesis =>
      have kept : holds (run task state).2 := keeps task state initially
      rw [visited]
      rcases ran : run task state with ⟨result, next⟩
      rw [ran] at kept
      intro visit member
      cases result with
      | ok _ =>
          rcases List.mem_cons.mp member with rfl | later
          · exact initially
          · exact inductionHypothesis kept visit later
      | error reason =>
          rw [List.mem_singleton.mp member]
          exact initially

/-- Where every task leads from state to state by what it is labelled with, a
sequence does so by the labels of the tasks that were started. -/
theorem each_related
    {β : Type v} {label : α × σ → Option β} {related : σ → List β → σ → Prop}
    (refl : ∀ state, related state [] state)
    (trans :
      ∀ {state middle last first second},
        related state first middle → related middle second last →
          related state (first ++ second) last)
    (single :
      ∀ task state,
        related state (label (task, state)).toList ((run task).final state))
    (tasks : List α) (state : σ) :
    related state ((visited run tasks state).filterMap label)
      ((each run tasks).final state) := by
  have filterMap_cons (visit : α × σ) (later : List (α × σ)) :
      (visit :: later).filterMap label =
        (label visit).toList ++ later.filterMap label := by
    cases labelled : label visit with
    | none => simp [labelled]
    | some value => simp [labelled]
  induction tasks generalizing state with
  | nil =>
      exact refl state
  | cons task rest inductionHypothesis =>
      have first := single task state
      rw [visited]
      rcases ran : run task state with ⟨result, next⟩
      rw [Program.final, ran] at first
      cases result with
      | ok _ =>
          simp only [filterMap_cons]
          rw [Program.final, each_cons_of_ok ran]
          exact trans first (inductionHypothesis next)
      | error reason =>
          simp only [filterMap_cons, List.filterMap_nil, List.append_nil]
          rw [Program.final, each_cons_of_error ran]
          exact first

/-- Tasks that pay with their price for what they cost, and for what they add
to a reserve, are paid for by all prices and by the reserve at the start. -/
theorem each_costs_le
    {reserve : σ → ℕ} {cost price : α → ℕ}
    (pays :
      ∀ task state,
        cost task + reserve ((run task).final state) ≤
          price task + reserve state)
    (tasks : List α) (state : σ) :
    ((tried run tasks state).map cost).sum +
        reserve ((each run tasks).final state) ≤
      (tasks.map price).sum + reserve state := by
  induction tasks generalizing state with
  | nil =>
      exact Nat.le_refl _
  | cons task rest inductionHypothesis =>
      rcases ran : run task state with ⟨result, next⟩
      have paid : cost task + reserve next ≤ price task + reserve state := by
        have step := pays task state
        rwa [Program.final, ran] at step
      cases result with
      | ok _ =>
          have later := inductionHypothesis next
          rw [Program.final] at later
          rw [Program.final, each_cons_of_ok ran, tried_cons_of_ok ran]
          simp only [List.map_cons, List.sum_cons]
          omega
      | error reason =>
          rw [Program.final, each_cons_of_error ran, tried_cons_of_error ran]
          simp only [List.map_cons, List.map_nil, List.sum_cons, List.sum_nil]
          omega

end Each

end Sequence
