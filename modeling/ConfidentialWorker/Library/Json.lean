import ConfidentialWorker.Library.Hex
import Mathlib.Data.List.Infix
import Mathlib.Tactic.Common

/-!
# Printing JSON values

`Value.stringify` prints a value the way ECMAScript does, with `space` blanks
for each level of indentation; without any, it prints on one line.  Numbers are
kept as their literals.

The text of a member is part of the text of its object, at any depth.
-/

namespace Json

inductive Value where
  | bool (value : Bool)
  | number (literal : String)
  | string (text : String)
  | object (members : List (String × Value))

/-- How a character stands in a JSON string. -/
def escape (letter : Char) : List Char :=
  match letter with
  | '"' => ['\\', '"']
  | '\\' => ['\\', '\\']
  | '\n' => ['\\', 'n']
  | '\r' => ['\\', 'r']
  | '\t' => ['\\', 't']
  | '\x08' => ['\\', 'b']
  | '\x0c' => ['\\', 'f']
  | other =>
      if other.toNat < 0x20 then
        ['\\', 'u', '0', '0', Hex.digit (other.toNat / 16),
          Hex.digit (other.toNat % 16)]
      else
        [other]

def quote (text : String) : List Char :=
  '"' :: text.toList.flatMap escape ++ ['"']

/-- The break before a member at the given depth. -/
def lineBreak (space depth : ℕ) : List Char :=
  if space = 0 then [] else '\n' :: List.replicate (space * depth) ' '

def colon (space : ℕ) : List Char :=
  if space = 0 then [':'] else [':', ' ']

mutual

def Value.stringify (space depth : ℕ) : Value → List Char
  | .bool value => (if value then "true" else "false").toList
  | .number literal => literal.toList
  | .string text => quote text
  | .object [] => ['{', '}']
  | .object (member :: members) =>
      '{' :: lineBreak space (depth + 1) ++
        stringifyMembers space (depth + 1) (member :: members) ++
          lineBreak space depth ++ ['}']

def stringifyMembers (space depth : ℕ) : List (String × Value) → List Char
  | [] => []
  | [(key, value)] => quote key ++ colon space ++ value.stringify space depth
  | (key, value) :: next :: rest =>
      quote key ++ colon space ++ value.stringify space depth ++
        ',' :: lineBreak space depth ++
          stringifyMembers space depth (next :: rest)

end

/-- `JSON.stringify(value, null, space)`. -/
def stringify (space : ℕ) (value : Value) : String :=
  String.ofList (value.stringify space 0)

example : stringify 0 (.object [("a", .number "1"), ("b", .string "c\"")]) =
    "\x7b\"a\":1,\"b\":\"c\\\"\"\x7d" := by
  decide

/-! ## Parts of a printed value -/

theorem stringify_object_ne_empty
    (space : ℕ) (members : List (String × Value)) :
    stringify space (.object members) ≠ "" := by
  intro same
  have letters := congrArg String.toList same
  rw [stringify, String.toList_ofList] at letters
  cases members with
  | nil =>
      cases letters
  | cons member rest =>
      cases letters

theorem stringifyMembers_infix
    {members : List (String × Value)} {key : String} {value : Value}
    (member : (key, value) ∈ members) (space depth : ℕ) :
    value.stringify space depth <:+: stringifyMembers space depth members := by
  induction members with
  | nil =>
      cases member
  | cons head rest inductionHypothesis =>
      obtain ⟨headKey, headValue⟩ := head
      cases rest with
      | nil =>
          cases List.mem_singleton.mp member
          exact (List.suffix_append _ _).isInfix
      | cons next later =>
          rw [stringifyMembers]
          rcases List.mem_cons.mp member with same | inRest
          · cases same
            rw [List.append_assoc]
            exact List.infix_append _ _ _
          · exact
              (inductionHypothesis inRest).trans
                (List.suffix_append _ _).isInfix

/-- The text of a member is part of the text of its object. -/
theorem stringify_member_infix
    {members : List (String × Value)} {key : String} {value : Value}
    (member : (key, value) ∈ members) (space depth : ℕ) :
    value.stringify space (depth + 1) <:+:
      (Value.object members).stringify space depth := by
  have printed := stringifyMembers_infix member space (depth + 1)
  cases members with
  | nil =>
      cases member
  | cons head rest =>
      rw [Value.stringify, List.append_assoc]
      exact printed.trans (List.infix_append _ _ _)

/-- Nothing in the text is escaped. -/
def isPlain (letters : List Char) : Bool :=
  letters.all fun letter => escape letter = [letter]

theorem quote_of_isPlain
    {text : String} (plain : isPlain text.toList = true) :
    quote text = '"' :: text.toList ++ ['"'] := by
  have each : ∀ letter ∈ text.toList, escape letter = [letter] := by
    intro letter member
    exact of_decide_eq_true (List.all_eq_true.mp plain letter member)
  rw [quote, List.flatMap_congr each, List.flatMap_singleton']

/-- A string without characters to escape is part of its text. -/
theorem stringify_string_infix
    {text : String} (plain : isPlain text.toList = true) (space depth : ℕ) :
    text.toList <:+: (Value.string text).stringify space depth := by
  rw [Value.stringify, quote_of_isPlain plain]
  exact List.infix_append ['"'] _ ['"']

end Json
