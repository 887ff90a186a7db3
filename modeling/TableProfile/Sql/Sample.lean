import TableProfile.Json.Codec

/-!
# Sample queries

The statement that yields rows of a table. Without a limit it asks for
all rows. With a limit it asks for that many, either drawn at random or
the first that the server hands out, which is cheap on large tables.
-/

namespace TableProfile.Sql

/-- **How rows are chosen** when there is a limit. -/
inductive Sampling where
  /-- At random. -/
  | random
  /-- The first that come. -/
  | leading
  deriving DecidableEq, Repr

namespace Sampling

/-- The name of a method in settings. -/
def name : Sampling → String
  | random => "random"
  | leading => "first_rows"

/-- The method of a name. -/
def ofName? (name : String) : Option Sampling :=
  [random, leading].find? (·.name == name)

/-- What a method puts in front of the limit. -/
def ordering : Sampling → String
  | random => " ORDER BY RANDOM()"
  | leading => ""

/-- **The statement that yields rows of a table**, whose name is quoted
already. -/
def query (method : Sampling) (table : String) : Option Nat → String
  | none => "SELECT * FROM " ++ table
  | some limit => "SELECT * FROM " ++ table ++ method.ordering ++ " LIMIT " ++ toString limit

/-- **How a method is written and read**: as its name, or as a record with
its name as the only key. -/
def codec : Json.Codec Sampling where
  encode method := .text method.name
  decode tree :=
    let named (name : List Char) := match ofName? (String.ofList name) with
      | some method => .ok method
      | none => .error .dataError
    match tree with
    | .text (some name) => named name
    | .record (.member (some name) .null .closed) => named name
    | tree => .error tree.mismatch

/-- A method is found under its name. -/
@[simp] theorem ofName?_name (method : Sampling) : ofName? method.name = some method := by
  cases method <;> rfl

end Sampling

end TableProfile.Sql
