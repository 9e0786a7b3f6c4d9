import ConfidentialWorker.Library.Json

/-!
# Reading JSON texts

The grammar of JSON as a relation between documents and texts, and a reader.
Numbers are kept as their literals, members in their order.  An escape of a
surrogate stands for no character and is left out of the grammar.
-/

namespace Json

inductive Document where
  | null
  | bool (value : Bool)
  | number (literal : String)
  | string (text : String)
  | array (elements : List Document)
  | object (members : List (String × Document))

/-- The member with this name, if the document is an object. -/
def memberNamed (name : String) : Document → Option Document
  | .object members =>
      (members.find? fun member => member.1 = name).map Prod.snd
  | _ => none

/-! ## Letters -/

def isBlank (letter : Char) : Bool :=
  letter ∈ [' ', '\t', '\n', '\r']

abbrev Blank (text : List Char) : Prop :=
  ∀ letter ∈ text, isBlank letter = true

def isUnescaped (letter : Char) : Bool :=
  0x20 ≤ letter.toNat ∧ letter ≠ '"' ∧ letter ≠ '\\'

/-- What a letter after a backslash stands for. -/
def shortEscape (letter : Char) : Option Char :=
  match letter with
  | '"' => some '"'
  | '\\' => some '\\'
  | '/' => some '/'
  | 'b' => some '\x08'
  | 'f' => some '\x0c'
  | 'n' => some '\n'
  | 'r' => some '\r'
  | 't' => some '\t'
  | _ => none

/-- The character with the given hexadecimal code. -/
def escapedCode (digits : List Char) : Option Char := do
  let code ←
    digits.foldlM
      (fun code digit => (Hex.digitValue digit).map (16 * code + ·)) 0
  if code.isValidChar then some (Char.ofNat code) else none

/-! ## Numbers -/

inductive NumberState where
  | start
  | signed
  | zero
  | digits
  | point
  | fraction
  | exponent
  | exponentSigned
  | exponentDigits
  deriving DecidableEq, Repr

namespace NumberState

def afterDigit (isZero : Bool) : NumberState → Option NumberState
  | .start | .signed => some (if isZero then .zero else .digits)
  | .zero => none
  | .digits => some .digits
  | .point | .fraction => some .fraction
  | .exponent | .exponentSigned | .exponentDigits => some .exponentDigits

def next (state : NumberState) (letter : Char) : Option NumberState :=
  if letter.isDigit then
    state.afterDigit (letter = '0')
  else if letter = '-' ∧ state = .start then
    some .signed
  else if letter = '.' ∧ state ∈ [zero, digits] then
    some .point
  else if letter ∈ ['e', 'E'] ∧ state ∈ [zero, digits, fraction] then
    some .exponent
  else if letter ∈ ['+', '-'] ∧ state = .exponent then
    some .exponentSigned
  else
    none

def accepts (state : NumberState) : Bool :=
  state ∈ [zero, digits, fraction, exponentDigits]

end NumberState

def isNumberLetter (letter : Char) : Bool :=
  letter.isDigit || letter ∈ ['-', '+', '.', 'e', 'E']

def isNumber (text : List Char) : Bool :=
  match text.foldlM NumberState.next .start with
  | some state => state.accepts
  | none => false

example : isNumber "-0.5e+10".toList = true ∧ isNumber "01".toList = false := by
  decide

/-! ## The grammar -/

/-- What stands between the quotes of a string, and the text it spells. -/
inductive Spells : List Char → List Char → Prop
  | empty : Spells [] []
  | unescaped {letter : Char} {body text : List Char} :
      isUnescaped letter = true →
      Spells body text →
        Spells (letter :: body) (letter :: text)
  | short {letter meaning : Char} {body text : List Char} :
      shortEscape letter = some meaning →
      Spells body text →
        Spells ('\\' :: letter :: body) (meaning :: text)
  | code {first second third fourth letter : Char} {body text : List Char} :
      escapedCode [first, second, third, fourth] = some letter →
      Spells body text →
        Spells ('\\' :: 'u' :: first :: second :: third :: fourth :: body)
          (letter :: text)

/-- A part of a document: a value, the elements of an array or the members of
an object, none of them empty. -/
inductive Part where
  | value (document : Document)
  | elements (documents : List Document)
  | members (members : List (String × Document))

inductive Denotes : Part → List Char → Prop
  | null : Denotes (.value .null) ['n', 'u', 'l', 'l']
  | true : Denotes (.value (.bool true)) ['t', 'r', 'u', 'e']
  | false : Denotes (.value (.bool false)) ['f', 'a', 'l', 's', 'e']
  | number {literal : List Char} :
      isNumber literal = true →
        Denotes (.value (.number (String.ofList literal))) literal
  | string {body text : List Char} :
      Spells body text →
        Denotes (.value (.string (String.ofList text)))
          ('"' :: (body ++ ['"']))
  | emptyArray {blanks : List Char} :
      Blank blanks →
        Denotes (.value (.array [])) ('[' :: (blanks ++ [']']))
  | array {documents : List Document} {text : List Char} :
      Denotes (.elements documents) text →
        Denotes (.value (.array documents)) ('[' :: (text ++ [']']))
  | emptyObject {blanks : List Char} :
      Blank blanks →
        Denotes (.value (.object [])) ('{' :: (blanks ++ ['}']))
  | object {members : List (String × Document)} {text : List Char} :
      Denotes (.members members) text →
        Denotes (.value (.object members)) ('{' :: (text ++ ['}']))
  | lastElement {document : Document} {before text after : List Char} :
      Blank before →
      Denotes (.value document) text →
      Blank after →
        Denotes (.elements [document]) (before ++ (text ++ after))
  | element {document : Document} {documents : List Document}
      {before text after rest : List Char} :
      Blank before →
      Denotes (.value document) text →
      Blank after →
      Denotes (.elements documents) rest →
        Denotes (.elements (document :: documents))
          (before ++ (text ++ (after ++ ',' :: rest)))
  | lastMember {document : Document}
      {before body key afterKey beforeValue text after : List Char} :
      Blank before →
      Spells body key →
      Blank afterKey →
      Blank beforeValue →
      Denotes (.value document) text →
      Blank after →
        Denotes (.members [(String.ofList key, document)])
          (before ++ '"' :: (body ++ '"' ::
            (afterKey ++ ':' :: (beforeValue ++ (text ++ after)))))
  | member {document : Document} {members : List (String × Document)}
      {before body key afterKey beforeValue text after rest : List Char} :
      Blank before →
      Spells body key →
      Blank afterKey →
      Blank beforeValue →
      Denotes (.value document) text →
      Blank after →
      Denotes (.members members) rest →
        Denotes (.members ((String.ofList key, document) :: members))
          (before ++ '"' :: (body ++ '"' ::
            (afterKey ++ ':' ::
              (beforeValue ++ (text ++ (after ++ ',' :: rest))))))

/-- The text is a JSON text of the document. -/
def DenotesText (document : Document) (text : List Char) : Prop :=
  ∃ before body after,
    Blank before ∧ Denotes (.value document) body ∧ Blank after ∧
      text = before ++ (body ++ after)

/-! ## The reader -/

/-- Inside a string: between characters, after a backslash, or in a code. -/
inductive StringState where
  | between
  | escape
  | code (digits : List Char)

def readStringFrom : List Char → StringState → Option (List Char × List Char)
  | [], _ => none
  | letter :: rest, .between =>
      if letter = '"' then
        some ([], rest)
      else if letter = '\\' then
        readStringFrom rest .escape
      else if isUnescaped letter then do
        let read ← readStringFrom rest .between
        some (letter :: read.1, read.2)
      else
        none
  | letter :: rest, .escape =>
      if letter = 'u' then
        readStringFrom rest (.code [])
      else do
        let meaning ← shortEscape letter
        let read ← readStringFrom rest .between
        some (meaning :: read.1, read.2)
  | letter :: rest, .code digits =>
      if digits.length < 3 then
        readStringFrom rest (.code (digits ++ [letter]))
      else do
        let meaning ← escapedCode (digits ++ [letter])
        let read ← readStringFrom rest .between
        some (meaning :: read.1, read.2)

/-- Read a string to its closing quote. -/
def readString (text : List Char) : Option (List Char × List Char) :=
  readStringFrom text .between

/-- A value that is no number, given how to read its parts. -/
def readOther
    (elements : List Char → Option (List Document × List Char))
    (members : List Char → Option (List (String × Document) × List Char)) :
    List Char → Option (Document × List Char)
  | 'n' :: 'u' :: 'l' :: 'l' :: rest => some (.null, rest)
  | 't' :: 'r' :: 'u' :: 'e' :: rest => some (.bool true, rest)
  | 'f' :: 'a' :: 'l' :: 's' :: 'e' :: rest => some (.bool false, rest)
  | '"' :: rest => do
      let read ← readString rest
      some (.string (String.ofList read.1), read.2)
  | '[' :: rest =>
      if (rest.dropWhile isBlank).head? = some ']' then
        some (.array [], (rest.dropWhile isBlank).tail)
      else do
        let read ← elements rest
        some (.array read.1, read.2)
  | '{' :: rest =>
      if (rest.dropWhile isBlank).head? = some '}' then
        some (.object [], (rest.dropWhile isBlank).tail)
      else do
        let read ← members rest
        some (.object read.1, read.2)
  | _ => none

/-- What follows an element, given how to read more of them. -/
def afterElement
    (elements : List Char → Option (List Document × List Char))
    (document : Document) (rest : List Char) :
    Option (List Document × List Char) :=
  match rest.dropWhile isBlank with
  | ',' :: rest => do
      let read ← elements rest
      some (document :: read.1, read.2)
  | ']' :: rest => some ([document], rest)
  | _ => none

/-- What follows a member, given how to read more of them. -/
def afterMember
    (members : List Char → Option (List (String × Document) × List Char))
    (member : String × Document) (rest : List Char) :
    Option (List (String × Document) × List Char) :=
  match rest.dropWhile isBlank with
  | ',' :: rest => do
      let read ← members rest
      some (member :: read.1, read.2)
  | '}' :: rest => some ([member], rest)
  | _ => none

/-- A key and the colon after it. -/
def readKey (text : List Char) : Option (String × List Char) :=
  match text.dropWhile isBlank with
  | '"' :: rest => do
      let key ← readString rest
      match key.2.dropWhile isBlank with
      | ':' :: rest => some (String.ofList key.1, rest)
      | _ => none
  | _ => none

mutual

def readValue : ℕ → List Char → Option (Document × List Char)
  | 0, _ => none
  | fuel + 1, text =>
      if isNumber (text.takeWhile isNumberLetter) then
        some
          (.number (String.ofList (text.takeWhile isNumberLetter)),
            text.dropWhile isNumberLetter)
      else
        readOther (readElements fuel) (readMembers fuel) text

def readElements : ℕ → List Char → Option (List Document × List Char)
  | 0, _ => none
  | fuel + 1, text => do
      let read ← readValue fuel (text.dropWhile isBlank)
      afterElement (readElements fuel) read.1 read.2

def readMembers :
    ℕ → List Char → Option (List (String × Document) × List Char)
  | 0, _ => none
  | fuel + 1, text => do
      let key ← readKey text
      let read ← readValue fuel (key.2.dropWhile isBlank)
      afterMember (readMembers fuel) (key.1, read.1) read.2

end

/-- `JSON.parse`. -/
def parse (text : List Char) : Option Document := do
  let read ← readValue text.length (text.dropWhile isBlank)
  if read.2.dropWhile isBlank = [] then some read.1 else none

end Json
