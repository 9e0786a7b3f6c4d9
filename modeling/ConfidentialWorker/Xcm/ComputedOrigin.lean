import ConfidentialWorker.Xcm.Instructions

/-!
# The computed origin of a message

A message may begin with instructions that change its origin.  A barrier that
decides by the origin works out what the origin will be after them, without
checking that the executor will let them change it: descending from the origin
stays within it, but a `UniversalOrigin` can claim any junction.
-/

namespace ConfidentialWorker

variable {V : Vocabulary}

/-- The origin a barrier computes, and the two parts of the message. -/
structure Computed (V : Vocabulary) where
  origin : Location
  skipped : List (Instruction V)
  rest : List (Instruction V)

namespace Computed

def skip (instruction : Instruction V) (computed : Computed V) : Computed V :=
  { computed with skipped := instruction :: computed.skipped }

end Computed

/-- The origin after the first instructions, at most `limit` of them. -/
def computeOrigin (universal : Junctions) :
    ℕ → Location → List (Instruction V) → Option (Computed V)
  | limit + 1, _, .universalOrigin junction :: rest =>
      (computeOrigin universal limit
          ((Junctions.single junction).relativeTo universal) rest).map
        (Computed.skip (.universalOrigin junction))
  | limit + 1, origin, .descendOrigin interior :: rest =>
      (origin.appendWith interior).bind fun entered =>
        (computeOrigin universal limit entered rest).map
          (Computed.skip (.descendOrigin interior))
  | _, origin, rest => some ⟨origin, [], rest⟩

/-- Instructions that only descend, and where they lead. -/
inductive Descends : Location → List (Instruction V) → Location → Prop
  | refl (origin : Location) : Descends origin [] origin
  | step {origin entered reached : Location} {interior : Junctions}
      {rest : List (Instruction V)} :
      origin.appendWith interior = some entered →
      Descends entered rest reached →
      Descends origin (.descendOrigin interior :: rest) reached

theorem Descends.isWithin
    {origin reached : Location} {instructions : List (Instruction V)}
    (descends : Descends origin instructions reached) :
    reached.IsWithin origin := by
  induction descends with
  | refl origin =>
      exact origin.isWithin_refl
  | step entered _ inductionHypothesis =>
      exact
        Location.isWithin_trans inductionHypothesis
          (Location.appendWith_isWithin entered)

theorem Descends.changesOrigin
    {origin reached : Location} {instructions : List (Instruction V)}
    (descends : Descends origin instructions reached) :
    ∀ instruction ∈ instructions, instruction.changesOrigin = true := by
  induction descends with
  | refl origin =>
      intro instruction member
      cases member
  | step entered _ inductionHypothesis =>
      intro instruction member
      rcases List.mem_cons.mp member with rfl | later
      · rfl
      · exact inductionHypothesis instruction later

section ComputeOrigin

variable {universal : Junctions} {limit : ℕ} {origin : Location}
  {message : List (Instruction V)} {computed : Computed V}

/-- Nothing is skipped of an empty message. -/
theorem computeOrigin_nil (universal : Junctions) (limit : ℕ)
    (origin : Location) :
    computeOrigin universal limit origin ([] : List (Instruction V)) =
      some ⟨origin, [], []⟩ := by
  cases limit <;> rfl

/-- What is skipped is the first part of the message and changes the origin. -/
theorem computeOrigin_splits
    (found : computeOrigin universal limit origin message = some computed) :
    message = computed.skipped ++ computed.rest ∧
      ∀ instruction ∈ computed.skipped, instruction.changesOrigin = true := by
  induction limit, origin, message using computeOrigin.induct universal
      generalizing computed with
  | case1 limit origin junction rest inductionHypothesis =>
      rw [computeOrigin, Option.map_eq_some_iff] at found
      obtain ⟨later, foundLater, rfl⟩ := found
      obtain ⟨split, changes⟩ := inductionHypothesis foundLater
      refine ⟨congrArg _ split, ?_⟩
      intro instruction member
      rcases List.mem_cons.mp member with rfl | inLater
      · rfl
      · exact changes instruction inLater
  | case2 limit origin interior rest inductionHypothesis =>
      rw [computeOrigin, Option.bind_eq_some_iff] at found
      obtain ⟨entered, _, found⟩ := found
      obtain ⟨later, foundLater, rfl⟩ := Option.map_eq_some_iff.mp found
      obtain ⟨split, changes⟩ := inductionHypothesis entered foundLater
      refine ⟨congrArg _ split, ?_⟩
      intro instruction member
      rcases List.mem_cons.mp member with rfl | inLater
      · rfl
      · exact changes instruction inLater
  | case3 limit origin rest notUniversal notDescend =>
      rw [computeOrigin] at found
      · cases found
        exact ⟨rfl, fun _ member => nomatch member⟩
      · exact notUniversal
      · exact notDescend

/-- Either the origin is entered by descending alone, or the first instruction
that does not descend claims a junction. -/
theorem computeOrigin_cases
    (found : computeOrigin universal limit origin message = some computed) :
    Descends origin computed.skipped computed.origin ∨
      ∃ before junction after reached,
        computed.skipped = before ++ .universalOrigin junction :: after ∧
          Descends origin before reached := by
  induction limit, origin, message using computeOrigin.induct universal
      generalizing computed with
  | case1 limit origin junction rest inductionHypothesis =>
      rw [computeOrigin, Option.map_eq_some_iff] at found
      obtain ⟨later, _, rfl⟩ := found
      exact
        Or.inr ⟨[], junction, later.skipped, origin, rfl, Descends.refl origin⟩
  | case2 limit origin interior rest inductionHypothesis =>
      rw [computeOrigin, Option.bind_eq_some_iff] at found
      obtain ⟨entered, enters, found⟩ := found
      obtain ⟨later, foundLater, rfl⟩ := Option.map_eq_some_iff.mp found
      rcases inductionHypothesis entered foundLater with
        descends | ⟨before, junction, after, reached, split, descends⟩
      · exact Or.inl (Descends.step enters descends)
      · exact
          Or.inr
            ⟨.descendOrigin interior :: before, junction, after, reached,
              congrArg _ split, Descends.step enters descends⟩
  | case3 limit origin rest notUniversal notDescend =>
      rw [computeOrigin] at found
      · cases found
        exact Or.inl (Descends.refl origin)
      · exact notUniversal
      · exact notDescend

/-- From outside a set that is closed outwards, it is only reached by claiming
a junction. -/
theorem exists_universalOrigin
    {among : Location → Bool} (closed : Location.ClosedOutwards among)
    (outside : among origin = false)
    (found : computeOrigin universal limit origin message = some computed)
    (inside : among computed.origin = true) :
    ∃ before junction after reached,
      computed.skipped = before ++ .universalOrigin junction :: after ∧
        Descends origin before reached := by
  rcases computeOrigin_cases found with descends | claimed
  · have also : among origin = true :=
      closed computed.origin origin descends.isWithin inside
    rw [outside] at also
    cases also
  · exact claimed

end ComputeOrigin

end ConfidentialWorker
