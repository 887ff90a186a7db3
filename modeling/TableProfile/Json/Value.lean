import TableProfile.Json.Quoted
import TableProfile.Number.Shortest

/-!
# JSON text from values

The text of a value has one item or member on each line, two blanks
further to the right than what holds it, in the order in which the value
has them. An empty list is two brackets. A float is written with the
fewest digits that read back, and one that is no finite number is written
as no value.
-/

namespace TableProfile.Json

open Number

/-- **A value to be written.** -/
inductive Value where
  /-- No value. -/
  | null
  /-- True or false. -/
  | flag (b : Bool)
  /-- A whole number. -/
  | integer (n : Int)
  /-- A float. -/
  | number (x : Float)
  /-- A text. -/
  | text (s : String)
  /-- A list. -/
  | list (items : List Value)
  /-- A record, with its members in order. -/
  | record (members : List (String × Value))

/-- The text of a float. -/
def floatText (x : Float) : List Char :=
  if Binary64.isFinite x then finiteText reportNotation x else ['n', 'u', 'l', 'l']

/-- A new line, indented to a depth. -/
def newLine (depth : Nat) : List Char :=
  '\n' :: List.replicate (2 * depth) ' '

mutual

/-- **The text of a value** that stands at a depth. -/
def Value.textAt (depth : Nat) : Value → List Char
  | .null => ['n', 'u', 'l', 'l']
  | .flag true => ['t', 'r', 'u', 'e']
  | .flag false => ['f', 'a', 'l', 's', 'e']
  | .integer n => integerText n
  | .number x => floatText x
  | .text s => encode s.toList
  | .list [] => ['[', ']']
  | .list (first :: rest) =>
    '[' :: newLine (depth + 1) ++ first.textAt (depth + 1) ++ itemsText depth rest
  | .record [] => ['\x7b', '\x7d']
  | .record ((key, first) :: rest) =>
    '\x7b' :: newLine (depth + 1) ++ encode key.toList ++ [':', ' ']
      ++ first.textAt (depth + 1) ++ membersText depth rest

/-- The text of the items after the first, and of the closing bracket. -/
def itemsText (depth : Nat) : List Value → List Char
  | [] => newLine depth ++ [']']
  | item :: rest =>
    ',' :: newLine (depth + 1) ++ item.textAt (depth + 1) ++ itemsText depth rest

/-- The text of the members after the first, and of the closing brace. -/
def membersText (depth : Nat) : List (String × Value) → List Char
  | [] => newLine depth ++ ['\x7d']
  | (key, item) :: rest =>
    ',' :: newLine (depth + 1) ++ encode key.toList ++ [':', ' ']
      ++ item.textAt (depth + 1) ++ membersText depth rest

end

/-- **The text of a value.** -/
def Value.render (value : Value) : String :=
  String.ofList (value.textAt 0)

end TableProfile.Json
