import Mathlib.Data.Finset.Card
import Mathlib.Data.List.Basic

/-!
# Guessing a secret

A player asks request after request, each chosen with all the answers so far
in view.  What answers may go by the exchanges so far, and depends on a
secret; a refusal does not.

If every answer but the refusal takes a request that names the secret, a
player learns from refusals that the named secrets are wrong and nothing else:
the games against all other secrets are the same game, and a number of rounds
gets past at most as many secrets.
-/

universe u v w

namespace Guessing

variable {ρ : Type u} {α : Type v} {κ : Type w}

/-- The next request, after the exchanges so far. -/
abbrev Strategy (ρ : Type u) (α : Type v) := List (ρ × α) → ρ

/-- What gives the answers; it may go by the exchanges so far. -/
abbrev Answerer (ρ : Type u) (α : Type v) := List (ρ × α) → ρ → α

/-- The exchanges of some rounds. -/
def play (strategy : Strategy ρ α) (answer : Answerer ρ α) :
    ℕ → List (ρ × α)
  | 0 => []
  | round + 1 =>
      play strategy answer round ++
        [(strategy (play strategy answer round),
          answer (play strategy answer round)
            (strategy (play strategy answer round)))]

theorem play_length
    (strategy : Strategy ρ α) (answer : Answerer ρ α) (rounds : ℕ) :
    (play strategy answer rounds).length = rounds := by
  induction rounds with
  | zero => rfl
  | succ round inductionHypothesis =>
      rw [play, List.length_append, inductionHypothesis]
      rfl

/-- Every exchange is a request with an answer given after others. -/
theorem exists_of_mem_play
    {strategy : Strategy ρ α} {answer : Answerer ρ α} {rounds : ℕ}
    {exchange : ρ × α} (member : exchange ∈ play strategy answer rounds) :
    ∃ seen, exchange.2 = answer seen exchange.1 := by
  induction rounds with
  | zero => cases member
  | succ round inductionHypothesis =>
      rcases List.mem_append.mp member with before | last
      · exact inductionHypothesis before
      · rw [List.mem_singleton.mp last]
        exact ⟨_, rfl⟩

section Secrets

variable {strategy : Strategy ρ α} {serve refuse : Answerer ρ α}
  {guess : List (ρ × α) → ρ → Option κ} {secret : κ}

/-- The secrets named in some rounds of refusals. -/
def guesses (guess : List (ρ × α) → ρ → Option κ) (strategy : Strategy ρ α)
    (refuse : Answerer ρ α) : ℕ → List κ
  | 0 => []
  | round + 1 =>
      guesses guess strategy refuse round ++
        (guess (play strategy refuse round)
          (strategy (play strategy refuse round))).toList

theorem guesses_length_le (rounds : ℕ) :
    (guesses guess strategy refuse rounds).length ≤ rounds := by
  induction rounds with
  | zero => exact le_rfl
  | succ round inductionHypothesis =>
      rw [guesses, List.length_append]
      exact Nat.add_le_add inductionHypothesis (Option.length_toList_le)

theorem mem_guesses_succ_iff {round : ℕ} :
    secret ∈ guesses guess strategy refuse (round + 1) ↔
      secret ∈ guesses guess strategy refuse round ∨
        guess (play strategy refuse round)
            (strategy (play strategy refuse round)) =
          some secret := by
  rw [guesses, List.mem_append, Option.mem_toList]

/-- A game is one of refusals exactly as long as the secret is not named. -/
theorem play_eq_refusals_iff
    (serves : ∀ seen request,
      serve seen request = refuse seen request ↔
        guess seen request ≠ some secret)
    (rounds : ℕ) :
    play strategy serve rounds = play strategy refuse rounds ↔
      secret ∉ guesses guess strategy refuse rounds := by
  induction rounds with
  | zero => exact iff_of_true rfl List.not_mem_nil
  | succ round inductionHypothesis =>
      rw [mem_guesses_succ_iff, not_or, ← inductionHypothesis, play, play]
      constructor
      · intro same
        have sameLength :
            (play strategy serve round).length =
              (play strategy refuse round).length := by
          rw [play_length, play_length]
        obtain ⟨before, last⟩ := List.append_inj same sameLength
        refine ⟨before, ?_⟩
        rw [before, List.singleton_inj, Prod.mk.injEq] at last
        exact (serves _ _).mp last.2
      · intro both
        obtain ⟨before, unnamed⟩ := both
        rw [before, (serves _ _).mpr unnamed]

end Secrets

/-- Some rounds get past at most as many secrets. -/
theorem card_le_of_found [DecidableEq κ]
    {strategy : Strategy ρ α} {serve : κ → Answerer ρ α}
    {refuse : Answerer ρ α} {guess : List (ρ × α) → ρ → Option κ}
    {rounds : ℕ} {secrets : Finset κ}
    (serves : ∀ secret ∈ secrets, ∀ seen request,
      serve secret seen request = refuse seen request ↔
        guess seen request ≠ some secret)
    (found : ∀ secret ∈ secrets,
      play strategy (serve secret) rounds ≠ play strategy refuse rounds) :
    secrets.card ≤ rounds := by
  have named :
      secrets ⊆ (guesses guess strategy refuse rounds).toFinset := by
    intro secret member
    rw [List.mem_toFinset]
    by_contra unnamed
    exact
      found secret member
        ((play_eq_refusals_iff (serves secret member) rounds).mpr unnamed)
  calc
    secrets.card ≤ (guesses guess strategy refuse rounds).toFinset.card :=
      Finset.card_le_card named
    _ ≤ (guesses guess strategy refuse rounds).length :=
      List.toFinset_card_le _
    _ ≤ rounds := guesses_length_le rounds

end Guessing
