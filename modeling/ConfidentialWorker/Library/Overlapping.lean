import ConfidentialWorker.Library.History
import Mathlib.Data.List.Perm.Basic
import Mathlib.Logic.Function.Basic

/-!
# Overlapping runs

Some operations of a system take long.  A long operation looks at the state
when it starts and reports when it finishes, and anything may happen in
between; a ticket tells which run it is that finishes.

When the end of a long operation neither changes the state nor looks at it, as
far as can be observed, then every history of overlapping runs is a history of
runs done at once: each run that finishes takes the place where it started.
-/

universe u v w x y z

namespace Overlapping

open History

variable {σ : Type u} {ι : Type v} {ℓ : Type w} {κ : Type x} {ρ : Type y}
  {ω : Type z}

/-- A system with short operations `ι` and long operations `ℓ`; a long
operation that has started is a `κ`. -/
structure Phased (σ : Type u) (ι : Type v) (ℓ : Type w) (κ : Type x)
    (ρ : Type y) where
  step : σ → ι → ρ × σ
  start : σ → ℓ → κ
  finish : κ → σ → ρ × σ

inductive Event (ι : Type v) (ℓ : Type w) where
  | short (operation : ι)
  | start (ticket : ℕ) (operation : ℓ)
  | finish (ticket : ℕ)

namespace Event

def asShort : Event ι ℓ → Option ι
  | .short operation => some operation
  | _ => none

/-- The event is the start or the end of the run with this ticket. -/
def concerns (ticket : ℕ) : Event ι ℓ → Bool
  | .short _ => false
  | .start other _ => other = ticket
  | .finish other => other = ticket

end Event

/-- The state, and the runs that have started and not yet finished. -/
structure InProgress (σ : Type u) (κ : Type x) where
  state : σ
  inFlight : ℕ → Option κ

/-- The run with this ticket finishes in these events. -/
def finishes (ticket : ℕ) : List (Event ι ℓ) → Bool
  | [] => false
  | .short _ :: rest => finishes ticket rest
  | .start other _ :: rest => other ≠ ticket && finishes ticket rest
  | .finish other :: rest => other = ticket || finishes ticket rest

/-- The history in which every run that finishes is done at once, where it
started. -/
def serial : List (Event ι ℓ) → List (ι ⊕ ℓ)
  | [] => []
  | .short operation :: rest => .inl operation :: serial rest
  | .start ticket operation :: rest =>
      if finishes ticket rest then
        .inr operation :: serial rest
      else
        serial rest
  | .finish _ :: rest => serial rest

namespace Phased

variable (system : Phased σ ι ℓ κ ρ)

/-- The system in which a long operation is done at once. -/
def atOnce (state : σ) : ι ⊕ ℓ → ρ × σ
  | .inl operation => system.step state operation
  | .inr operation => system.finish (system.start state operation) state

/-- The system in which long operations overlap.  A ticket that is given out
again abandons the run that had it. -/
def overlapped (now : InProgress σ κ) :
    Event ι ℓ → Option ρ × InProgress σ κ
  | .short operation =>
      let (report, reached) := system.step now.state operation
      (some report, { now with state := reached })
  | .start ticket operation =>
      (none,
        { now with
          inFlight :=
            Function.update now.inFlight ticket
              (some (system.start now.state operation)) })
  | .finish ticket =>
      match now.inFlight ticket with
      | none => (none, now)
      | some token =>
          let (report, reached) := system.finish token now.state
          (some report,
            ⟨reached, Function.update now.inFlight ticket none⟩)

/-- What is observed of the reports of a history, in its order. -/
def observed (observe : ρ → ω) (now : InProgress σ κ)
    (events : List (Event ι ℓ)) : List ω :=
  (trace system.overlapped now events).filterMap fun entry =>
    entry.2.map observe

def observedAtOnce (observe : ρ → ω) (state : σ)
    (operations : List (ι ⊕ ℓ)) : List ω :=
  (trace system.atOnce state operations).map fun entry => observe entry.2

/-- The end of a run leaves the state alone, and the state at its end is not
seen in what is observed of it. -/
structure Detached (observe : ρ → ω) : Prop where
  finish_state : ∀ token state, (system.finish token state).2 = state
  finish_observed :
    ∀ token state other,
      observe (system.finish token state).1 =
        observe (system.finish token other).1

variable {system}

theorem overlapped_finish_of_none {now : InProgress σ κ} {ticket : ℕ}
    (landed : now.inFlight ticket = none) :
    system.overlapped now (.finish ticket) = (none, now) := by
  simp only [overlapped, landed]

theorem overlapped_finish_of_some {now : InProgress σ κ} {ticket : ℕ}
    {token : κ} (flying : now.inFlight ticket = some token) :
    system.overlapped now (.finish ticket) =
      (some (system.finish token now.state).1,
        ⟨(system.finish token now.state).2,
          Function.update now.inFlight ticket none⟩) := by
  simp only [overlapped, flying]

/-! ## The state -/

section State

variable {observe : ρ → ω} (detached : system.Detached observe)
include detached

theorem overlapped_finish_state (now : InProgress σ κ) (ticket : ℕ) :
    (system.overlapped now (.finish ticket)).2.state = now.state := by
  cases flying : now.inFlight ticket with
  | none =>
      rw [overlapped_finish_of_none flying]
  | some token =>
      rw [overlapped_finish_of_some flying]
      exact detached.finish_state token now.state

/-- Only short operations change the state. -/
theorem reach_overlapped_state (now : InProgress σ κ)
    (events : List (Event ι ℓ)) :
    (reach system.overlapped now events).state =
      reach system.step now.state (events.filterMap Event.asShort) := by
  induction events generalizing now with
  | nil =>
      rfl
  | cons event rest inductionHypothesis =>
      have later := inductionHypothesis (system.overlapped now event).2
      cases event with
      | short operation =>
          exact later
      | start ticket operation =>
          exact later
      | finish ticket =>
          rw [overlapped_finish_state detached] at later
          exact later

theorem reach_serial (state : σ) (events : List (Event ι ℓ)) :
    reach system.atOnce state (serial events) =
      reach system.step state (events.filterMap Event.asShort) := by
  induction events generalizing state with
  | nil =>
      rfl
  | cons event rest inductionHypothesis =>
      cases event with
      | short operation =>
          exact inductionHypothesis (system.step state operation).2
      | start ticket operation =>
          unfold serial
          by_cases ends : finishes ticket rest = true
          · have kept : (system.atOnce state (.inr operation)).2 = state :=
              detached.finish_state _ state
            rw [if_pos ends]
            change reach system.atOnce
              (system.atOnce state (.inr operation)).2 (serial rest) = _
            rw [kept]
            exact inductionHypothesis state
          · rw [if_neg ends]
            exact inductionHypothesis state
      | finish ticket =>
          exact inductionHypothesis state

end State

/-! ## What is observed -/

/-- What the runs in flight still have to show. -/
def pending (result : κ → ω) (inFlight : ℕ → Option κ) :
    List (Event ι ℓ) → List ω
  | [] => []
  | .short _ :: rest => pending result inFlight rest
  | .start ticket _ :: rest =>
      pending result (Function.update inFlight ticket none) rest
  | .finish ticket :: rest =>
      ((inFlight ticket).map result).toList ++
        pending result (Function.update inFlight ticket none) rest

theorem pending_none (result : κ → ω) (events : List (Event ι ℓ)) :
    pending result (fun _ => none) events = [] := by
  have landed (ticket : ℕ) :
      Function.update (fun _ => none) ticket none =
        (fun _ => none : ℕ → Option κ) :=
    Function.update_eq_self ticket _
  induction events with
  | nil =>
      rfl
  | cons event rest inductionHypothesis =>
      cases event with
      | short operation =>
          exact inductionHypothesis
      | start ticket operation =>
          rw [pending, landed]
          exact inductionHypothesis
      | finish ticket =>
          rw [pending, landed, inductionHypothesis]
          rfl

/-- One more run in flight shows its result, if it finishes. -/
theorem pending_update_perm (result : κ → ω) (inFlight : ℕ → Option κ)
    (ticket : ℕ) (token : κ) (events : List (Event ι ℓ)) :
    (pending result (Function.update inFlight ticket (some token)) events).Perm
      ((if finishes ticket events then [result token] else []) ++
        pending result (Function.update inFlight ticket none) events) := by
  induction events generalizing inFlight with
  | nil =>
      exact List.Perm.refl _
  | cons event rest inductionHypothesis =>
      cases event with
      | short operation =>
          exact inductionHypothesis inFlight
      | start other operation =>
          by_cases same : other = ticket
          · subst same
            simp [pending, finishes]
          · have sameRest :=
              inductionHypothesis (Function.update inFlight other none)
            simp only [pending, finishes,
              Function.update_comm (Ne.symm same), same, ne_eq,
              not_false_eq_true, decide_true, Bool.true_and]
            exact sameRest
      | finish other =>
          by_cases same : other = ticket
          · subst same
            simp [pending, finishes]
          · have sameRest :=
              inductionHypothesis (Function.update inFlight other none)
            simp only [pending, finishes,
              Function.update_comm (Ne.symm same), same, ne_eq,
              not_false_eq_true, Function.update_of_ne, decide_false,
              Bool.false_or]
            exact
              (sameRest.append_left _).trans
                (List.perm_append_comm_assoc _ _ _)

section Observed

variable {observe : ρ → ω} (detached : system.Detached observe)
include detached

/-- The observations of overlapping runs are those that were pending, and those
of the runs done at once. -/
theorem observed_perm_pending
    (first state : σ) (inFlight : ℕ → Option κ) (events : List (Event ι ℓ)) :
    (system.observed observe ⟨state, inFlight⟩ events).Perm
      (pending (fun token => observe (system.finish token first).1) inFlight
          events ++
        system.observedAtOnce observe state (serial events)) := by
  induction events generalizing state inFlight with
  | nil =>
      exact List.Perm.refl _
  | cons event rest inductionHypothesis =>
      cases event with
      | short operation =>
          have sameRest :=
            inductionHypothesis (system.step state operation).2 inFlight
          exact (sameRest.cons _).trans List.perm_middle.symm
      | start ticket operation =>
          have sameRest :=
            inductionHypothesis state
              (Function.update inFlight ticket
                (some (system.start state operation)))
          have started :=
            pending_update_perm
              (fun token => observe (system.finish token first).1) inFlight
              ticket (system.start state operation) rest
          have split := sameRest.trans (started.append_right _)
          unfold serial
          by_cases ends : finishes ticket rest = true
          · have kept : (system.atOnce state (.inr operation)).2 = state :=
              detached.finish_state _ state
            have shown :
                observe (system.finish (system.start state operation) first).1 =
                  observe (system.atOnce state (.inr operation)).1 :=
              detached.finish_observed _ first state
            rw [if_pos ends]
            rw [if_pos ends, shown] at split
            unfold observedAtOnce trace
            rw [kept]
            exact split.trans List.perm_middle.symm
          · rw [if_neg ends]
            rw [if_neg ends] at split
            exact split
      | finish ticket =>
          cases flying : inFlight ticket with
          | none =>
              have landed : Function.update inFlight ticket none = inFlight := by
                rw [← flying, Function.update_eq_self]
              have idle :
                  system.overlapped ⟨state, inFlight⟩ (.finish ticket) = _ :=
                overlapped_finish_of_none flying
              have sameRest := inductionHypothesis state inFlight
              simp only [observed, trace, idle, pending, flying, landed]
              exact sameRest
          | some token =>
              have ends :
                  system.overlapped ⟨state, inFlight⟩ (.finish ticket) = _ :=
                overlapped_finish_of_some flying
              have sameRest :=
                inductionHypothesis state
                  (Function.update inFlight ticket none)
              simp only [observed, trace, ends, pending, flying,
                detached.finish_state]
              change
                (observe (system.finish token state).1 ::
                  system.observed observe
                    ⟨state, Function.update inFlight ticket none⟩ rest).Perm _
              rw [detached.finish_observed token state first]
              exact sameRest.cons _

/-- Every history of overlapping runs shows what a history of runs done at once
shows. -/
theorem observed_perm_serial (state : σ) (events : List (Event ι ℓ)) :
    (system.observed observe ⟨state, fun _ => none⟩ events).Perm
      (system.observedAtOnce observe state (serial events)) := by
  have shown := observed_perm_pending detached state state (fun _ => none) events
  rw [pending_none] at shown
  exact shown

end Observed

/-! ## One run -/

/-- A run stays in flight, as it started, until its ticket is used again. -/
theorem inFlight_of_unconcerned (now : InProgress σ κ) (ticket : ℕ)
    {events : List (Event ι ℓ)}
    (unconcerned : ∀ event ∈ events, event.concerns ticket = false) :
    (reach system.overlapped now events).inFlight ticket =
      now.inFlight ticket := by
  induction events generalizing now with
  | nil =>
      rfl
  | cons event rest inductionHypothesis =>
      have later :=
        inductionHypothesis (system.overlapped now event).2 fun other member =>
          unconcerned other (List.mem_cons_of_mem event member)
      have apart : event.concerns ticket = false :=
        unconcerned event (List.mem_cons_self ..)
      refine later.trans ?_
      cases event with
      | short operation =>
          rfl
      | start other operation =>
          have differs : ticket ≠ other := by
            intro same
            simp [Event.concerns, same] at apart
          exact Function.update_of_ne differs _ _
      | finish other =>
          have differs : ticket ≠ other := by
            intro same
            simp [Event.concerns, same] at apart
          cases flying : now.inFlight other with
          | none =>
              rw [overlapped_finish_of_none flying]
          | some token =>
              rw [overlapped_finish_of_some flying]
              exact Function.update_of_ne differs _ _

/-- A run that finishes ends as it started: from the state that the short
operations before its start had reached. -/
theorem overlapped_finish_of_started
    {observe : ρ → ω} (detached : system.Detached observe)
    (now : InProgress σ κ) (before : List (Event ι ℓ)) {ticket : ℕ}
    (operation : ℓ) {during : List (Event ι ℓ)}
    (unconcerned : ∀ event ∈ during, event.concerns ticket = false) :
    ∃ last after,
      last =
          reach system.overlapped now
            (before ++ .start ticket operation :: during) ∧
        system.overlapped last (.finish ticket) =
            (some
              (system.finish
                (system.start
                  (reach system.step now.state
                    (before.filterMap Event.asShort))
                  operation)
                last.state).1,
              after) ∧
          after.state = last.state := by
  have split :
      reach system.overlapped now
          (before ++ .start ticket operation :: during) =
        reach system.overlapped
          (system.overlapped (reach system.overlapped now before)
            (.start ticket operation)).2
          during := by
    simp [reach]
  have flying :
      (reach system.overlapped now
          (before ++ .start ticket operation :: during)).inFlight ticket =
        some
          (system.start
            (reach system.step now.state (before.filterMap Event.asShort))
            operation) := by
    rw [split, inFlight_of_unconcerned _ _ unconcerned,
      ← reach_overlapped_state detached now before]
    exact Function.update_self ..
  refine ⟨_, _, rfl, overlapped_finish_of_some flying, ?_⟩
  exact detached.finish_state _ _

end Phased

end Overlapping
