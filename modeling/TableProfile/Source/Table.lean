import TableProfile.Error

/-!
# Tables to read from

A source of tables is known by its answers: which tables there are, which
columns a table has, how many rows, and the rows one after the other. An
answer is a value or an error, and a source may also break down instead
of answering, which is told apart because nobody handles it.

The rows are a list of answers, of which an error is the last. A bound on
the rows is passed to the source, which may ignore it.
-/

namespace TableProfile

/-- **A column as its source describes it.** -/
structure ColumnHeader where
  /-- The name of the column. -/
  name : String
  /-- The type that the source declares, if it does. -/
  declared : Option String := none
  deriving DecidableEq, Repr

/-- A row: one cell for each column. What has no value is an empty cell. -/
abbrev Row := List String

/-- **An answer of a source.** -/
inductive Answer (α : Type) where
  /-- A value. -/
  | value (a : α)
  /-- An error. -/
  | failure (e : ProfileError)
  /-- No answer at all. -/
  | breakdown
  deriving Repr

namespace Answer

variable {α β : Type}

/-- The value or the error as an answer. -/
def ofExcept : Except ProfileError α → Answer α
  | .ok a => value a
  | .error e => failure e

/-- The answer with its value changed. -/
def map (f : α → β) : Answer α → Answer β
  | value a => value (f a)
  | failure e => failure e
  | breakdown => breakdown

end Answer

/-- Rows one after the other, up to an error or the end. -/
abbrev Rows := List (Answer Row)

/-- **A source of tables.** -/
structure Source where
  /-- The names of the tables. -/
  tables : Except ProfileError (List String)
  /-- The columns of a table. -/
  columns : String → Answer (List ColumnHeader)
  /-- The number of rows of a table, if the source can tell. -/
  rowCount : String → Answer (Option Int)
  /-- The rows of a table, at most so many. -/
  rows : String → Option Nat → Answer Rows

end TableProfile
