import ConfidentialWorker.Library.JsonGrammar
import Mathlib.Data.List.TakeWhile

/-!
# What the JSON reader finds

The reader finds the document of every text that the grammar derives, so that
a text denotes one document at most.  What `Value.stringify` prints denotes the
value, at every indentation; reading therefore gives back what was printed.
-/

namespace Json

/-! ## Scanning -/

/-- No number goes on in the text. -/
def Ended (rest : List Char) : Prop :=
  ∀ letter tail, rest = letter :: tail → isNumberLetter letter = false

theorem ended_nil : Ended [] :=
  nofun

theorem ended_cons {letter : Char} (other : isNumberLetter letter = false)
    (tail : List Char) : Ended (letter :: tail) := by
  intro first rest split
  cases split
  exact other

theorem ended_blank_append {blanks rest : List Char} (blank : Blank blanks)
    (ended : Ended rest) : Ended (blanks ++ rest) := by
  cases blanks with
  | nil =>
      exact ended
  | cons letter tail =>
      have isBlank := blank letter (List.mem_cons_self ..)
      apply ended_cons
      simp only [Json.isBlank, List.mem_cons, List.not_mem_nil, or_false,
        decide_eq_true_eq] at isBlank
      rcases isBlank with rfl | rfl | rfl | rfl <;> decide

theorem dropWhile_blank_append {blanks : List Char} (blank : Blank blanks)
    {letter : Char} (notBlank : isBlank letter = false) (rest : List Char) :
    (blanks ++ letter :: rest).dropWhile isBlank = letter :: rest := by
  rw [List.dropWhile_append_of_pos blank, List.dropWhile_cons, notBlank]
  rfl

theorem isNumberLetter_of_next {state reached : NumberState} {letter : Char}
    (moves : state.next letter = some reached) :
    isNumberLetter letter = true := by
  unfold NumberState.next at moves
  unfold isNumberLetter
  split_ifs at moves with digit minus point exponent sign
  · simp [digit]
  · simp [minus.1]
  · simp [point.1]
  · rcases List.mem_pair.mp exponent.1 with rfl | rfl <;> decide
  · rcases List.mem_pair.mp sign.1 with rfl | rfl <;> decide

theorem isNumberLetter_of_run {text : List Char}
    {state reached : NumberState}
    (run : text.foldlM NumberState.next state = some reached) :
    ∀ letter ∈ text, isNumberLetter letter = true := by
  induction text generalizing state with
  | nil =>
      intro letter member
      cases member
  | cons first rest inductionHypothesis =>
      rw [List.foldlM_cons, Option.bind_eq_bind,
        Option.bind_eq_some_iff] at run
      obtain ⟨between, moves, later⟩ := run
      intro letter member
      rcases List.mem_cons.mp member with same | inRest
      · rw [same]
        exact isNumberLetter_of_next moves
      · exact inductionHypothesis later letter inRest

theorem isNumberLetter_of_isNumber {literal : List Char}
    (number : isNumber literal = true) :
    ∀ letter ∈ literal, isNumberLetter letter = true := by
  unfold isNumber at number
  cases run : literal.foldlM NumberState.next .start with
  | none =>
      rw [run] at number
      cases number
  | some reached =>
      exact isNumberLetter_of_run run

theorem takeWhile_number {literal rest : List Char}
    (number : isNumber literal = true) (ended : Ended rest) :
    (literal ++ rest).takeWhile isNumberLetter = literal ∧
      (literal ++ rest).dropWhile isNumberLetter = rest := by
  have letters := isNumberLetter_of_isNumber number
  rw [List.takeWhile_append_of_pos letters,
    List.dropWhile_append_of_pos letters]
  cases rest with
  | nil =>
      simp
  | cons letter tail =>
      have stops := ended letter tail rfl
      simp [stops]

theorem readString_of_spells {body text : List Char}
    (spells : Spells body text) (rest : List Char) :
    readString (body ++ '"' :: rest) = some (text, rest) := by
  unfold readString
  induction spells with
  | empty =>
      rfl
  | @unescaped letter body text plain _ inductionHypothesis =>
      have notQuote : letter ≠ '"' := by
        intro same
        rw [same] at plain
        revert plain
        decide
      have notBackslash : letter ≠ '\\' := by
        intro same
        rw [same] at plain
        revert plain
        decide
      rw [List.cons_append, readStringFrom, if_neg notQuote,
        if_neg notBackslash, if_pos plain, inductionHypothesis]
      rfl
  | @short letter meaning body text stands _ inductionHypothesis =>
      have notCode : letter ≠ 'u' := by
        intro same
        rw [same] at stands
        cases stands
      have escaped :
          readStringFrom ('\\' :: letter :: (body ++ '"' :: rest)) .between =
            readStringFrom (letter :: (body ++ '"' :: rest)) .escape :=
        rfl
      rw [List.cons_append, List.cons_append, escaped, readStringFrom,
        if_neg notCode, stands, inductionHypothesis]
      rfl
  | @code first second third fourth letter body text stands _
      inductionHypothesis =>
      have collected :
          readStringFrom
              ('\\' :: 'u' :: first :: second :: third :: fourth ::
                (body ++ '"' :: rest)) .between =
            (do
              let meaning ← escapedCode [first, second, third, fourth]
              let read ← readStringFrom (body ++ '"' :: rest) .between
              some (meaning :: read.1, read.2)) :=
        rfl
      simp only [List.cons_append]
      rw [collected, stands, inductionHypothesis]
      rfl

/-! ## The first letter of a value -/

def isOpening (letter : Char) : Bool :=
  isNumberLetter letter || letter ∈ ['n', 't', 'f', '"', '[', '{']

theorem isBlank_of_isOpening {letter : Char} (opens : isOpening letter = true) :
    isBlank letter = false := by
  by_contra blank
  simp only [isBlank, List.mem_cons, List.not_mem_nil, or_false,
    decide_eq_true_eq, Bool.not_eq_false] at blank
  rcases blank with rfl | rfl | rfl | rfl <;> revert opens <;> decide

theorem opening_of_denotes {document : Document} {text : List Char}
    (denotes : Denotes (.value document) text) :
    ∃ letter rest, text = letter :: rest ∧ isOpening letter = true := by
  cases denotes with
  | null =>
      exact ⟨'n', _, rfl, by decide⟩
  | true =>
      exact ⟨'t', _, rfl, by decide⟩
  | false =>
      exact ⟨'f', _, rfl, by decide⟩
  | number number =>
      cases text with
      | nil =>
          cases number
      | cons letter rest =>
          have isLetter :=
            isNumberLetter_of_isNumber number letter (List.mem_cons_self ..)
          exact ⟨letter, rest, rfl, by simp [isOpening, isLetter]⟩
  | string =>
      exact ⟨'"', _, rfl, by decide⟩
  | emptyArray | array =>
      exact ⟨'[', _, rfl, by decide⟩
  | emptyObject | object =>
      exact ⟨'{', _, rfl, by decide⟩

/-! ## The reader finds what the grammar derives -/

/-- What reading a part comes to, with enough fuel. -/
def Reads : Part → List Char → Prop
  | .value document, text =>
      ∀ fuel rest, text.length ≤ fuel → Ended rest →
        readValue fuel (text ++ rest) = some (document, rest)
  | .elements documents, text =>
      ∀ fuel rest, text.length < fuel →
        readElements fuel (text ++ ']' :: rest) = some (documents, rest)
  | .members members, text =>
      ∀ fuel rest, text.length < fuel →
        readMembers fuel (text ++ '}' :: rest) = some (members, rest)

theorem ended_of_closing {blanks : List Char} {letter : Char}
    (blank : Blank blanks) (closes : letter ∈ [',', ']', '}'])
    (rest : List Char) : Ended (blanks ++ letter :: rest) := by
  apply ended_blank_append blank
  apply ended_cons
  simp only [List.mem_cons, List.not_mem_nil, or_false] at closes
  rcases closes with rfl | rfl | rfl <;> decide

/-- Blanks before a value are passed over. -/
theorem dropWhile_before_value {document : Document} {before text : List Char}
    (blank : Blank before) (denotes : Denotes (.value document) text)
    (rest : List Char) :
    (before ++ (text ++ rest)).dropWhile isBlank = text ++ rest := by
  obtain ⟨letter, tail, split, opens⟩ := opening_of_denotes denotes
  rw [split]
  exact dropWhile_blank_append blank (isBlank_of_isOpening opens) _

/-- An array with elements does not look empty. -/
theorem head_of_elements {documents : List Document} {text : List Char}
    (denotes : Denotes (.elements documents) text) (rest : List Char) :
    ((text ++ rest).dropWhile isBlank).head? ≠ some ']' := by
  have opened {document : Document} {before value after : List Char}
      (blank : Blank before) (denotes : Denotes (.value document) value) :
      ((before ++ (value ++ after)).dropWhile isBlank).head? ≠ some ']' := by
    rw [dropWhile_before_value blank denotes]
    obtain ⟨letter, tail, split, opens⟩ := opening_of_denotes denotes
    rw [split]
    intro closes
    rw [List.cons_append, List.head?_cons, Option.some.injEq] at closes
    rw [closes] at opens
    revert opens
    decide
  cases denotes with
  | lastElement before value after | element before value after =>
      simp only [List.append_assoc]
      exact opened before value

theorem head_of_members {members : List (String × Document)}
    {text : List Char} (denotes : Denotes (.members members) text)
    (rest : List Char) :
    ((text ++ rest).dropWhile isBlank).head? = some '"' := by
  have notBlank : isBlank '"' = false := by
    decide
  cases denotes with
  | lastMember before | member before =>
      rw [List.append_assoc, List.cons_append,
        dropWhile_blank_append before notBlank]
      rfl

theorem readValue_of_other {letter : Char}
    (other : isNumberLetter letter = false) (fuel : ℕ) (text : List Char) :
    readValue (fuel + 1) (letter :: text) =
      readOther (readElements fuel) (readMembers fuel) (letter :: text) := by
  have noNumber :
      ¬ isNumber ((letter :: text).takeWhile isNumberLetter) = true := by
    rw [List.takeWhile_cons, other]
    exact Bool.false_ne_true
  rw [readValue, if_neg noNumber]

/-- A value between blanks is read up to the letter that follows. -/
theorem readValue_between {document : Document}
    {before text after : List Char} (beforeBlank : Blank before)
    (denotes : Denotes (.value document) text) (afterBlank : Blank after)
    (letter : Char) (closes : letter ∈ [',', ']', '}'])
    (reads : Reads (.value document) text) {fuel : ℕ}
    (enough : text.length ≤ fuel) (rest : List Char) :
    readValue fuel
          ((before ++ (text ++ (after ++ letter :: rest))).dropWhile
            isBlank) =
        some (document, after ++ letter :: rest) ∧
      (after ++ letter :: rest).dropWhile isBlank = letter :: rest := by
  have notBlank : isBlank letter = false := by
    simp only [List.mem_cons, List.not_mem_nil, or_false] at closes
    rcases closes with rfl | rfl | rfl <;> decide
  constructor
  · rw [dropWhile_before_value beforeBlank denotes]
    exact reads fuel _ enough (ended_of_closing afterBlank closes rest)
  · exact dropWhile_blank_append afterBlank notBlank rest

theorem readKey_of_spells {before body key afterKey : List Char}
    (beforeBlank : Blank before) (spells : Spells body key)
    (afterKeyBlank : Blank afterKey) (rest : List Char) :
    readKey (before ++ '"' :: (body ++ '"' :: (afterKey ++ ':' :: rest))) =
      some (String.ofList key, rest) := by
  have quote : isBlank '"' = false := by
    decide
  have colon : isBlank ':' = false := by
    decide
  rw [readKey, dropWhile_blank_append beforeBlank quote]
  simp only [readString_of_spells spells, Option.bind_eq_bind,
    Option.bind_some, dropWhile_blank_append afterKeyBlank colon]

theorem reads_of_denotes {part : Part} {text : List Char}
    (denotes : Denotes part text) : Reads part text := by
  induction denotes with
  | null | true | false =>
      intro fuel rest enough ended
      cases fuel with
      | zero =>
          cases enough
      | succ fuel =>
          rfl
  | @number literal number =>
      intro fuel rest enough ended
      obtain ⟨taken, dropped⟩ := takeWhile_number number ended
      cases fuel with
      | zero =>
          rw [List.length_eq_zero_iff.mp (Nat.le_zero.mp enough)] at number
          cases number
      | succ fuel =>
          rw [readValue, taken, dropped, if_pos number]
  | @string body text spells =>
      intro fuel rest enough ended
      cases fuel with
      | zero =>
          cases enough
      | succ fuel =>
          have quote : isNumberLetter '"' = false := by
            decide
          rw [List.cons_append, readValue_of_other quote, readOther,
            List.append_assoc, List.cons_append, List.nil_append,
            readString_of_spells spells]
          rfl
  | @emptyArray blanks blank =>
      intro fuel rest enough ended
      cases fuel with
      | zero =>
          cases enough
      | succ fuel =>
          have bracket : isNumberLetter '[' = false := by
            decide
          have closes : isBlank ']' = false := by
            decide
          rw [List.cons_append, readValue_of_other bracket, readOther,
            List.append_assoc, List.cons_append, List.nil_append,
            dropWhile_blank_append blank closes]
          rfl
  | @array documents text elements inductionHypothesis =>
      intro fuel rest enough ended
      cases fuel with
      | zero =>
          cases enough
      | succ fuel =>
          have bracket : isNumberLetter '[' = false := by
            decide
          have inner : text.length < fuel := by
            simp only [List.length_cons, List.length_append,
              List.length_nil] at enough
            omega
          rw [List.cons_append, readValue_of_other bracket, readOther,
            List.append_assoc, List.cons_append, List.nil_append,
            if_neg (head_of_elements elements _),
            inductionHypothesis fuel rest inner]
          rfl
  | @emptyObject blanks blank =>
      intro fuel rest enough ended
      cases fuel with
      | zero =>
          cases enough
      | succ fuel =>
          have brace : isNumberLetter '{' = false := by
            decide
          have closes : isBlank '}' = false := by
            decide
          rw [List.cons_append, readValue_of_other brace, readOther,
            List.append_assoc, List.cons_append, List.nil_append,
            dropWhile_blank_append blank closes]
          rfl
  | @object members text denotes inductionHypothesis =>
      intro fuel rest enough ended
      cases fuel with
      | zero =>
          cases enough
      | succ fuel =>
          have brace : isNumberLetter '{' = false := by
            decide
          have inner : text.length < fuel := by
            simp only [List.length_cons, List.length_append,
              List.length_nil] at enough
            omega
          have notClosed :
              ((text ++ '}' :: rest).dropWhile isBlank).head? ≠ some '}' := by
            rw [head_of_members denotes]
            decide
          rw [List.cons_append, readValue_of_other brace, readOther,
            List.append_assoc, List.cons_append, List.nil_append,
            if_neg notClosed, inductionHypothesis fuel rest inner]
          rfl
  | @lastElement document before text after beforeBlank denotes afterBlank
      inductionHypothesis =>
      intro fuel rest enough
      cases fuel with
      | zero =>
          cases enough
      | succ fuel =>
          have inner : text.length ≤ fuel := by
            simp only [List.length_append] at enough
            omega
          obtain ⟨read, closed⟩ :=
            readValue_between beforeBlank denotes afterBlank ']'
              (by decide) inductionHypothesis inner rest
          simp only [List.append_assoc]
          rw [readElements, read, Option.bind_eq_bind, Option.bind_some,
            afterElement, closed]
          rfl
  | @element document documents before text after more beforeBlank denotes
      afterBlank _ valueHypothesis restHypothesis =>
      intro fuel rest enough
      cases fuel with
      | zero =>
          cases enough
      | succ fuel =>
          simp only [List.length_append, List.length_cons] at enough
          have inner : text.length ≤ fuel := by
            omega
          have later : more.length < fuel := by
            omega
          obtain ⟨read, closed⟩ :=
            readValue_between beforeBlank denotes afterBlank ','
              (by decide) valueHypothesis inner
              (more ++ ']' :: rest)
          simp only [List.append_assoc, List.cons_append]
          rw [readElements, read, Option.bind_eq_bind, Option.bind_some,
            afterElement, closed]
          simp only [restHypothesis fuel rest later, Option.bind_eq_bind,
            Option.bind_some]
  | @lastMember document before body key afterKey beforeValue text after
      beforeBlank spells afterKeyBlank beforeValueBlank denotes afterBlank
      inductionHypothesis =>
      intro fuel rest enough
      cases fuel with
      | zero =>
          cases enough
      | succ fuel =>
          simp only [List.length_append, List.length_cons] at enough
          have inner : text.length ≤ fuel := by
            omega
          obtain ⟨read, closed⟩ :=
            readValue_between beforeValueBlank denotes afterBlank '}'
              (by decide) inductionHypothesis inner rest
          simp only [List.append_assoc, List.cons_append]
          rw [readMembers, readKey_of_spells beforeBlank spells afterKeyBlank,
            Option.bind_eq_bind, Option.bind_some, read, Option.bind_eq_bind,
            Option.bind_some, afterMember, closed]
          rfl
  | @member document members before body key afterKey beforeValue text after
      more beforeBlank spells afterKeyBlank beforeValueBlank denotes afterBlank
      _ valueHypothesis restHypothesis =>
      intro fuel rest enough
      cases fuel with
      | zero =>
          cases enough
      | succ fuel =>
          simp only [List.length_append, List.length_cons] at enough
          have inner : text.length ≤ fuel := by
            omega
          have later : more.length < fuel := by
            omega
          obtain ⟨read, closed⟩ :=
            readValue_between beforeValueBlank denotes afterBlank ','
              (by decide) valueHypothesis inner (more ++ '}' :: rest)
          simp only [List.append_assoc, List.cons_append]
          rw [readMembers, readKey_of_spells beforeBlank spells afterKeyBlank,
            Option.bind_eq_bind, Option.bind_some, read, Option.bind_eq_bind,
            Option.bind_some, afterMember, closed]
          simp only [restHypothesis fuel rest later, Option.bind_eq_bind,
            Option.bind_some]

/-- The reader finds the document of every text of it. -/
theorem parse_of_denotes {document : Document} {text : List Char}
    (denotes : DenotesText document text) : parse text = some document := by
  obtain ⟨before, body, after, beforeBlank, bodyDenotes, afterBlank, split⟩ :=
    denotes
  have ended : Ended after := by
    have appended := ended_blank_append afterBlank ended_nil
    rw [List.append_nil] at appended
    exact appended
  have inner : body.length ≤ text.length := by
    simp only [split, List.length_append]
    omega
  have read : readValue text.length (body ++ after) = some (document, after) :=
    reads_of_denotes bodyDenotes text.length after inner ended
  have blankEnd : after.dropWhile isBlank = [] :=
    List.dropWhile_eq_nil_iff.mpr afterBlank
  have opened : text.dropWhile isBlank = body ++ after := by
    rw [split]
    exact dropWhile_before_value beforeBlank bodyDenotes after
  rw [parse, opened, read]
  exact if_pos blankEnd

/-- The text is a JSON text of this document, and of no other. -/
def Means (text : List Char) (document : Document) : Prop :=
  ∀ other, DenotesText other text ↔ other = document

theorem means_of_denotes {document : Document} {text : List Char}
    (denotes : DenotesText document text) : Means text document := by
  intro other
  constructor
  · intro also
    have read := parse_of_denotes denotes
    rw [parse_of_denotes also] at read
    exact Option.some.inj read
  · intro same
    rw [same]
    exact denotes

/-! ## Printed values -/

mutual

def Value.document : Value → Document
  | .bool value => .bool value
  | .number literal => .number literal
  | .string text => .string text
  | .object members => .object (memberDocuments members)

def memberDocuments : List (String × Value) → List (String × Document)
  | [] => []
  | (key, value) :: rest => (key, value.document) :: memberDocuments rest

end

mutual

/-- The literals of the value are numbers. -/
def Value.hasNumbers : Value → Bool
  | .number literal => isNumber literal.toList
  | .object members => membersHaveNumbers members
  | _ => true

def membersHaveNumbers : List (String × Value) → Bool
  | [] => true
  | (_, value) :: rest => value.hasNumbers && membersHaveNumbers rest

end

theorem spells_escape (letter : Char) {body text : List Char}
    (spells : Spells body text) :
    Spells (escape letter ++ body) (letter :: text) := by
  have control :
      ∀ code < 0x20,
        escapedCode ['0', '0', Hex.digit (code / 16), Hex.digit (code % 16)] =
          some (Char.ofNat code) := by
    decide
  unfold escape
  split
  · exact .short rfl spells
  · exact .short rfl spells
  · exact .short rfl spells
  · exact .short rfl spells
  · exact .short rfl spells
  · exact .short rfl spells
  · exact .short rfl spells
  · rename_i notQuote notBackslash _ _ _ _ _
    by_cases isControl : letter.toNat < 0x20
    · have stands := control letter.toNat isControl
      rw [Char.ofNat_toNat] at stands
      rw [if_pos isControl]
      exact .code stands spells
    · have plain : isUnescaped letter = true :=
        decide_eq_true ⟨Nat.le_of_not_lt isControl, notQuote, notBackslash⟩
      rw [if_neg isControl]
      exact .unescaped plain spells

theorem spells_text (text : List Char) : Spells (text.flatMap escape) text := by
  induction text with
  | nil =>
      exact .empty
  | cons letter rest inductionHypothesis =>
      rw [List.flatMap_cons]
      exact spells_escape letter inductionHypothesis

theorem blank_lineBreak (space depth : ℕ) : Blank (lineBreak space depth) := by
  intro letter member
  unfold lineBreak at member
  by_cases flat : space = 0
  · rw [if_pos flat] at member
    cases member
  · rw [if_neg flat, List.mem_cons] at member
    rcases member with same | indented
    · rw [same]
      decide
    · rw [List.eq_of_mem_replicate indented]
      decide

theorem exists_blank_colon (space : ℕ) :
    ∃ blanks, Blank blanks ∧ colon space = ':' :: blanks := by
  unfold colon
  by_cases flat : space = 0
  · exact ⟨[], List.forall_mem_nil _, if_pos flat⟩
  · exact ⟨[' '], List.forall_mem_singleton.mpr (by decide), if_neg flat⟩

mutual

/-- A printed value denotes the value. -/
theorem denotes_stringify (space depth : ℕ) :
    ∀ value : Value, value.hasNumbers = true →
      Denotes (.value value.document) (value.stringify space depth)
  | .bool false, _ => .false
  | .bool true, _ => .true
  | .number literal, numbers => by
      have denotes := Denotes.number numbers
      rw [String.ofList_toList] at denotes
      exact denotes
  | .string text, _ => by
      have denotes := Denotes.string (spells_text text.toList)
      rw [String.ofList_toList] at denotes
      exact denotes
  | .object [], _ =>
      .emptyObject (List.forall_mem_nil _)
  | .object (member :: members), numbers => by
      have denotes :=
        denotes_stringifyMembers space (depth + 1) (member :: members)
          (List.cons_ne_nil _ _) numbers (blank_lineBreak space (depth + 1))
          (blank_lineBreak space depth)
      have printed := Denotes.object denotes
      simpa [Value.stringify, Value.document] using printed

theorem denotes_stringifyMembers (space depth : ℕ) :
    ∀ members : List (String × Value), members ≠ [] →
      membersHaveNumbers members = true →
      ∀ {before after : List Char}, Blank before → Blank after →
        Denotes (.members (memberDocuments members))
          (before ++ (stringifyMembers space depth members ++ after))
  | [], nonempty, _ => fun _ _ => False.elim (nonempty rfl)
  | [(key, value)], _, numbers => by
      intro beforeBlank afterBlank
      obtain ⟨blanks, colonBlank, colon_eq⟩ := exists_blank_colon space
      have numbersHere : value.hasNumbers = true := by
        simpa [membersHaveNumbers] using numbers
      have denotes :=
        Denotes.lastMember beforeBlank (spells_text key.toList)
          (List.forall_mem_nil _) colonBlank
          (denotes_stringify space depth value numbersHere) afterBlank
      rw [String.ofList_toList] at denotes
      simpa [stringifyMembers, memberDocuments, quote, colon_eq] using denotes
  | (key, value) :: next :: rest, _, numbers => by
      intro beforeBlank afterBlank
      obtain ⟨blanks, colonBlank, colon_eq⟩ := exists_blank_colon space
      rw [membersHaveNumbers, Bool.and_eq_true] at numbers
      have later :=
        denotes_stringifyMembers space depth (next :: rest)
          (List.cons_ne_nil _ _) numbers.2 (blank_lineBreak space depth)
          afterBlank
      have denotes :=
        Denotes.member beforeBlank (spells_text key.toList)
          (List.forall_mem_nil _) colonBlank
          (denotes_stringify space depth value numbers.1)
          (List.forall_mem_nil _) later
      rw [String.ofList_toList] at denotes
      simpa [stringifyMembers, memberDocuments, quote, colon_eq] using denotes

end

/-- What was printed means the value, at every indentation. -/
theorem means_stringify (space : ℕ) {value : Value}
    (numbers : value.hasNumbers = true) :
    Means (stringify space value).toList value.document := by
  apply means_of_denotes
  refine
    ⟨[], value.stringify space 0, [], List.forall_mem_nil _,
      denotes_stringify space 0 value numbers, List.forall_mem_nil _, ?_⟩
  rw [stringify, String.toList_ofList, List.nil_append, List.append_nil]

end Json
