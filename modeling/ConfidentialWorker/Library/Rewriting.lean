import Mathlib.Data.List.DropRight
import Mathlib.Data.List.Infix
import Mathlib.Data.Nat.Find
import Mathlib.Tactic.Common

/-!
# Trimming a text and deleting a pattern from it

Two rewritings of a list of letters: `trim` removes what is blank on either
side, and `deleteFirst` removes the first occurrence of a pattern.  Both are
characterised by decompositions of the text.

The last part is about reading a key that may stand behind a scheme.  Deleting
the scheme and trimming finds the key of every text that presents one, and it
finds a key in other texts too: in those with the scheme spliced into them.
-/

universe u

namespace Rewriting

variable {α : Type u}

/-! ## Trimming -/

section Trim

variable (blank : α → Bool)

def Blank (text : List α) : Prop :=
  ∀ letter ∈ text, blank letter = true

/-- Neither end of the text is blank. -/
structure Trimmed (text : List α) : Prop where
  first : ∀ letter rest, text = letter :: rest → blank letter = false
  last : ∀ front letter, text = front ++ [letter] → blank letter = false

def trim (text : List α) : List α :=
  (text.dropWhile blank).rdropWhile blank

end Trim

variable {blank : α → Bool}

/-- A part that is not blank stops the trimming from the left. -/
theorem dropWhile_append_of_not_blank
    {text : List α} (notBlank : ¬ Blank blank text) (right : List α) :
    (text ++ right).dropWhile blank = text.dropWhile blank ++ right := by
  have remains : text.dropWhile blank ≠ [] :=
    fun dropped => notBlank (List.dropWhile_eq_nil_iff.mp dropped)
  rw [List.dropWhile_append, if_neg (by simpa using remains)]

theorem dropWhile_head_not_blank
    {text rest : List α} {letter : α}
    (dropped : text.dropWhile blank = letter :: rest) :
    blank letter = false := by
  have first := List.head?_dropWhile_not blank text
  rw [dropped] at first
  exact first

theorem rdropWhile_of_append_blank
    {right : List α} (rightBlank : Blank blank right) (text : List α) :
    (text ++ right).rdropWhile blank = text.rdropWhile blank := by
  have reversed : Blank blank right.reverse :=
    fun letter member => rightBlank letter (List.mem_reverse.mp member)
  unfold List.rdropWhile
  rw [List.reverse_append, List.dropWhile_append_of_pos reversed]

theorem rdropWhile_append_of_not_blank
    {text : List α} (notBlank : ¬ Blank blank text) (left : List α) :
    (left ++ text).rdropWhile blank = left ++ text.rdropWhile blank := by
  have reversed : ¬ Blank blank text.reverse :=
    fun isBlank =>
      notBlank fun letter member =>
        isBlank letter (List.mem_reverse.mpr member)
  unfold List.rdropWhile
  rw [List.reverse_append, dropWhile_append_of_not_blank reversed,
    List.reverse_append, List.reverse_reverse]

theorem trimmed_reverse {text : List α} (trimmed : Trimmed blank text) :
    Trimmed blank text.reverse where
  first letter rest split := by
    have front : text = rest.reverse ++ [letter] := by
      rw [← List.reverse_reverse text, split, List.reverse_cons]
    exact trimmed.last _ _ front
  last front letter split := by
    have head : text = letter :: front.reverse := by
      rw [← List.reverse_reverse text, split]
      simp
    exact trimmed.first _ _ head

theorem dropWhile_of_trimmed
    {text : List α} (trimmed : Trimmed blank text) :
    text.dropWhile blank = text := by
  cases text with
  | nil =>
      rfl
  | cons letter rest =>
      have notBlank : blank letter = false := trimmed.first letter rest rfl
      simp [notBlank]

theorem rdropWhile_of_trimmed
    {text : List α} (trimmed : Trimmed blank text) :
    text.rdropWhile blank = text := by
  unfold List.rdropWhile
  rw [dropWhile_of_trimmed (trimmed_reverse trimmed), List.reverse_reverse]

/-- What is left of a text after trimming is all of it but its blank ends. -/
theorem trim_of_padded
    {left key right : List α} (leftBlank : Blank blank left)
    (trimmed : Trimmed blank key) (rightBlank : Blank blank right) :
    trim blank (left ++ key ++ right) = key := by
  unfold trim
  rw [List.append_assoc, List.dropWhile_append_of_pos leftBlank]
  by_cases keyBlank : Blank blank key
  · have wholeBlank : Blank blank (key ++ right) := by
      intro letter member
      rcases List.mem_append.mp member with inKey | inRight
      · exact keyBlank letter inKey
      · exact rightBlank letter inRight
    have empty : key = [] := by
      cases key with
      | nil =>
          rfl
      | cons letter rest =>
          have isBlank := keyBlank letter List.mem_cons_self
          have notBlank := trimmed.first letter rest rfl
          rw [isBlank] at notBlank
          cases notBlank
    rw [List.dropWhile_eq_nil_iff.mpr wholeBlank, empty, List.rdropWhile_nil]
  · rw [dropWhile_append_of_not_blank keyBlank, dropWhile_of_trimmed trimmed,
      rdropWhile_of_append_blank rightBlank, rdropWhile_of_trimmed trimmed]

theorem rdropWhile_trimmed
    {text : List α}
    (headNotBlank :
      ∀ letter rest, text = letter :: rest → blank letter = false) :
    Trimmed blank (text.rdropWhile blank) where
  first letter rest split := by
    obtain ⟨tail, whole⟩ := List.rdropWhile_prefix blank (l := text)
    rw [split] at whole
    exact headNotBlank letter (rest ++ tail) whole.symm
  last front letter split := by
    have reversed :
        text.reverse.dropWhile blank = letter :: front.reverse := by
      rw [← List.reverse_reverse (text.reverse.dropWhile blank)]
      change (text.rdropWhile blank).reverse = _
      rw [split]
      simp
    exact dropWhile_head_not_blank reversed

theorem trim_trimmed (text : List α) : Trimmed blank (trim blank text) :=
  rdropWhile_trimmed fun _ _ dropped => dropWhile_head_not_blank dropped

/-- The blank ends that trimming removes. -/
theorem exists_padding (blank : α → Bool) (text : List α) :
    ∃ left right,
      Blank blank left ∧ Blank blank right ∧
        text = left ++ trim blank text ++ right := by
  refine
    ⟨text.takeWhile blank, (text.dropWhile blank).rtakeWhile blank, ?_, ?_, ?_⟩
  · intro letter member
    exact List.mem_takeWhile_imp member
  · intro letter member
    exact List.mem_rtakeWhile_imp member
  · unfold trim
    rw [List.append_assoc, List.rdropWhile_append_rtakeWhile,
      List.takeWhile_append_dropWhile]

theorem trim_length_le (blank : α → Bool) (text : List α) :
    (trim blank text).length ≤ text.length := by
  obtain ⟨left, right, _, _, split⟩ := exists_padding blank text
  have lengths := congrArg List.length split
  simp only [List.length_append] at lengths
  omega

/-! ## Deleting a pattern -/

section Delete

variable [DecidableEq α]

/-- The text without the first occurrence of the pattern. -/
def deleteFirst (pattern : List α) : List α → List α
  | [] => []
  | letter :: rest =>
      if pattern <+: letter :: rest then
        (letter :: rest).drop pattern.length
      else
        letter :: deleteFirst pattern rest

end Delete

/-- The pattern stands between `before` and `after`, and nowhere earlier. -/
structure FirstOccurrence (pattern before after text : List α) : Prop where
  split : text = before ++ pattern ++ after
  earliest :
    ∀ earlier later,
      text = earlier ++ pattern ++ later → before.length ≤ earlier.length

theorem FirstOccurrence.tail
    {pattern before after rest : List α} {letter : α}
    (occurs :
      FirstOccurrence pattern (letter :: before) after (letter :: rest)) :
    FirstOccurrence pattern before after rest where
  split := (List.cons.inj occurs.split).2
  earliest earlier later split := by
    have whole : letter :: rest = (letter :: earlier) ++ pattern ++ later := by
      rw [split]
      rfl
    have bound := occurs.earliest _ _ whole
    simp only [List.length_cons] at bound
    omega

/-- A pattern that occurs in a text occurs in it a first time. -/
theorem exists_firstOccurrence
    {pattern text : List α} (occurs : pattern <:+: text) :
    ∃ before after, FirstOccurrence pattern before after text := by
  classical
  let IsStart (position : ℕ) : Prop :=
    ∃ before after,
      before.length = position ∧ text = before ++ pattern ++ after
  have someStart : ∃ position, IsStart position := by
    obtain ⟨before, after, split⟩ := occurs
    exact ⟨before.length, before, after, rfl, split.symm⟩
  obtain ⟨before, after, length, split⟩ := Nat.find_spec someStart
  refine ⟨before, after, split, ?_⟩
  intro earlier later splitEarlier
  rw [length]
  exact Nat.find_min' someStart ⟨earlier, later, rfl, splitEarlier⟩

section Delete

variable [DecidableEq α]

theorem deleteFirst_of_absent
    {pattern text : List α} (absent : ¬ pattern <:+: text) :
    deleteFirst pattern text = text := by
  induction text with
  | nil =>
      rfl
  | cons letter rest inductionHypothesis =>
      have notPrefix : ¬ pattern <+: letter :: rest :=
        fun isPrefix => absent isPrefix.isInfix
      have restAbsent : ¬ pattern <:+: rest :=
        fun inRest => absent (inRest.trans (List.suffix_cons letter rest).isInfix)
      rw [deleteFirst, if_neg notPrefix, inductionHypothesis restAbsent]

theorem deleteFirst_of_first
    {pattern before after text : List α}
    (occurs : FirstOccurrence pattern before after text) :
    deleteFirst pattern text = before ++ after := by
  induction before generalizing text with
  | nil =>
      have split : text = pattern ++ after := occurs.split
      cases text with
      | nil =>
          have bothEmpty := List.append_eq_nil_iff.mp split.symm
          rw [bothEmpty.2]
          rfl
      | cons letter rest =>
          have isPrefix : pattern <+: letter :: rest := by
            rw [split]
            exact List.prefix_append _ _
          rw [deleteFirst, if_pos isPrefix, split]
          simp
  | cons letter before inductionHypothesis =>
      have split := occurs.split
      cases text with
      | nil =>
          cases split
      | cons first rest =>
          have sameHead : first = letter := (List.cons.inj split).1
          subst sameHead
          have notPrefix : ¬ pattern <+: first :: rest := by
            rintro ⟨later, atStart⟩
            have bound := occurs.earliest [] later atStart.symm
            simp at bound
          rw [deleteFirst, if_neg notPrefix, inductionHypothesis occurs.tail]
          rfl

/-- The two rewritings together leave exactly those texts alone that have
neither blank ends nor the pattern. -/
theorem trim_deleteFirst_eq_self_iff
    {pattern text : List α} (patternNonempty : pattern ≠ []) :
    trim blank (deleteFirst pattern text) = text ↔
      Trimmed blank text ∧ ¬ pattern <:+: text := by
  constructor
  · intro same
    have trimmed : Trimmed blank text := by
      rw [← same]
      exact trim_trimmed _
    refine ⟨trimmed, ?_⟩
    intro occurs
    obtain ⟨before, after, first⟩ := exists_firstOccurrence occurs
    have shorter := trim_length_le blank (deleteFirst pattern text)
    have patternLength := List.length_pos_of_ne_nil patternNonempty
    have lengths := congrArg List.length first.split
    rw [same, deleteFirst_of_first first] at shorter
    simp only [List.length_append] at shorter lengths
    omega
  · rintro ⟨trimmed, absent⟩
    rw [deleteFirst_of_absent absent]
    unfold trim
    rw [dropWhile_of_trimmed trimmed, rdropWhile_of_trimmed trimmed]

end Delete

/-! ## Keys behind a scheme -/

/-- The text is the key itself or the scheme followed by the key, up to blanks
around it and between the two. -/
def Presents (blank : α → Bool) (scheme key text : List α) : Prop :=
  trim blank text = key ∨
    ∃ gap, Blank blank gap ∧ trim blank text = scheme ++ gap ++ key

/-- The text is the key, up to blanks around it, with the scheme spliced into
it behind a letter. -/
def Spliced (blank : α → Bool) (scheme key text : List α) : Prop :=
  ∃ before after,
    FirstOccurrence scheme before after text ∧
      ¬ Blank blank before ∧ trim blank (before ++ after) = key

section Schemes

variable {first : α} {others key text : List α}

/-- Between two parts that are not blank, trimming keeps everything from the
first letter of the one to the last letter of the other. -/
theorem trim_append_of_not_blank
    {left right : List α} (leftNotBlank : ¬ Blank blank left)
    (rightNotBlank : ¬ Blank blank right) :
    trim blank (left ++ right) =
      left.dropWhile blank ++ right.rdropWhile blank := by
  unfold trim
  rw [dropWhile_append_of_not_blank leftNotBlank,
    rdropWhile_append_of_not_blank rightNotBlank]

theorem not_blank_of_head
    (firstNotBlank : blank first = false) (later : List α) :
    ¬ Blank blank (first :: later) := by
  intro isBlank
  have firstBlank := isBlank first List.mem_cons_self
  rw [firstNotBlank] at firstBlank
  cases firstBlank

theorem presents_of_blank_before
    {before after : List α} (firstNotBlank : blank first = false)
    (keyNonempty : key ≠ [])
    (split : text = before ++ (first :: others) ++ after)
    (beforeBlank : Blank blank before)
    (found : trim blank (before ++ after) = key) :
    Presents blank (first :: others) key text := by
  have afterTrimmed : trim blank after = key := by
    rw [← found]
    unfold trim
    rw [List.dropWhile_append_of_pos beforeBlank]
  obtain ⟨gap, right, gapBlank, rightBlank, afterSplit⟩ :=
    exists_padding blank after
  rw [afterTrimmed] at afterSplit
  have keyTrimmed : Trimmed blank key := by
    rw [← afterTrimmed]
    exact trim_trimmed after
  have presented : Trimmed blank (first :: others ++ gap ++ key) := by
    constructor
    · intro letter rest headed
      cases headed
      exact firstNotBlank
    · intro front letter ended
      obtain ⟨keyFront, keyLast, keySplit⟩ :=
        (List.eq_nil_or_concat' key).resolve_left keyNonempty
      rw [keySplit, ← List.append_assoc] at ended
      have sameLast : keyLast = letter :=
        List.singleton_inj.mp (List.append_inj' ended rfl).2
      rw [← sameLast]
      exact keyTrimmed.last keyFront keyLast keySplit
  have whole :
      text = before ++ (first :: others ++ gap ++ key) ++ right := by
    rw [split, afterSplit]
    simp
  refine Or.inr ⟨gap, gapBlank, ?_⟩
  rw [whole]
  exact trim_of_padded beforeBlank presented rightBlank

/-- A spliced text presents no key: trimmed, it is longer than the key, and it
cannot begin with the scheme, which would then occur earlier. -/
theorem not_presents_of_spliced
    (firstNotBlank : blank first = false)
    (spliced : Spliced blank (first :: others) key text) :
    ¬ Presents blank (first :: others) key text := by
  obtain ⟨before, after, occurs, beforeNotBlank, found⟩ := spliced
  have schemeNotBlank :
      ¬ Blank blank ((first :: others) ++ after) :=
    not_blank_of_head firstNotBlank _
  have whole :
      trim blank text =
        before.dropWhile blank ++
          ((first :: others) ++ after).rdropWhile blank := by
    rw [occurs.split, List.append_assoc]
    exact trim_append_of_not_blank beforeNotBlank schemeNotBlank
  rintro (isKey | ⟨gap, _, afterScheme⟩)
  · have wholeLength := congrArg List.length (isKey.symm.trans whole)
    simp only [List.length_append] at wholeLength
    by_cases afterBlank : Blank blank after
    · have keyLength : key.length ≤ (before.dropWhile blank).length := by
        rw [← found]
        unfold trim
        rw [dropWhile_append_of_not_blank beforeNotBlank,
          rdropWhile_of_append_blank afterBlank]
        exact (List.rdropWhile_prefix blank _).length_le
      have remains :
          (((first :: others) ++ after).rdropWhile blank) ≠ [] :=
        fun dropped =>
          schemeNotBlank (List.rdropWhile_eq_nil_iff.mp dropped)
      have positive := List.length_pos_of_ne_nil remains
      omega
    · have keySplit :
          key = before.dropWhile blank ++ after.rdropWhile blank := by
        rw [← found]
        exact trim_append_of_not_blank beforeNotBlank afterBlank
      have keyLength := congrArg List.length keySplit
      rw [rdropWhile_append_of_not_blank afterBlank] at wholeLength
      simp only [List.length_append, List.length_cons] at wholeLength keyLength
      omega
  · have beginsTrimmed : (first :: others) <+: trim blank text := by
      rw [afterScheme, List.append_assoc]
      exact List.prefix_append _ _
    have beginsDropped : (first :: others) <+: text.dropWhile blank :=
      beginsTrimmed.trans (List.rdropWhile_prefix blank _)
    have dropped :
        text.dropWhile blank =
          before.dropWhile blank ++ ((first :: others) ++ after) := by
      rw [occurs.split, List.append_assoc]
      exact dropWhile_append_of_not_blank beforeNotBlank _
    obtain ⟨later, earlySplit⟩ := beginsDropped
    have early :
        text = before.takeWhile blank ++ (first :: others) ++ later := by
      rw [List.append_assoc, earlySplit, dropped, ← List.append_assoc,
        List.takeWhile_append_dropWhile, ← List.append_assoc]
      exact occurs.split
    have bound := occurs.earliest _ _ early
    have parts :=
      congrArg List.length
        (List.takeWhile_append_dropWhile (p := blank) (l := before))
    have remains : before.dropWhile blank ≠ [] :=
      fun isNil => beforeNotBlank (List.dropWhile_eq_nil_iff.mp isNil)
    have positive := List.length_pos_of_ne_nil remains
    simp only [List.length_append] at parts
    omega

variable [DecidableEq α]

/-- The key found in a text is presented by it, unless the scheme is spliced
into it. -/
theorem found_presents_iff
    (firstNotBlank : blank first = false) (keyNonempty : key ≠ []) :
    (trim blank (deleteFirst (first :: others) text) = key →
        Presents blank (first :: others) key text) ↔
      ¬ Spliced blank (first :: others) key text := by
  constructor
  · intro presents spliced
    obtain ⟨before, after, occurs, beforeNotBlank, found⟩ := spliced
    have accepted :
        trim blank (deleteFirst (first :: others) text) = key := by
      rw [deleteFirst_of_first occurs]
      exact found
    exact
      not_presents_of_spliced firstNotBlank
        ⟨before, after, occurs, beforeNotBlank, found⟩ (presents accepted)
  · intro notSpliced accepted
    by_cases occurs : (first :: others) <:+: text
    · obtain ⟨before, after, occurrence⟩ := exists_firstOccurrence occurs
      rw [deleteFirst_of_first occurrence] at accepted
      by_cases beforeBlank : Blank blank before
      · exact
          presents_of_blank_before firstNotBlank keyNonempty occurrence.split
            beforeBlank accepted
      · exact
          False.elim
            (notSpliced ⟨before, after, occurrence, beforeBlank, accepted⟩)
    · rw [deleteFirst_of_absent occurs] at accepted
      exact Or.inl accepted

/-- A spliced text gives the key away all the same. -/
theorem found_of_spliced
    (spliced : Spliced blank (first :: others) key text) :
    trim blank (deleteFirst (first :: others) text) = key := by
  obtain ⟨before, after, occurs, _, found⟩ := spliced
  rw [deleteFirst_of_first occurs]
  exact found

end Schemes

end Rewriting
