import Std.Data.ExtTreeMap
import TableProfile.Source.Table

/-!
# Tables in memory

Tables that are given as lists of rows. A shelf has two parts: the tables
by their names, and the names in the order in which they were first put
in. Putting in a table under a name that is there already replaces it, and
its name stays in its place.
-/

namespace TableProfile

/-- **A table in memory.** -/
structure ShelvedTable where
  /-- The columns. -/
  columns : List ColumnHeader
  /-- The rows. -/
  rows : List Row
  deriving DecidableEq, Repr

/-- **Tables in memory**, by name, and the order they were put in. -/
structure TableShelf where
  /-- The names, in the order in which they were first put in. -/
  order : List String := []
  /-- The table of each name. -/
  tables : Std.ExtTreeMap String ShelvedTable := ∅

namespace TableShelf

/-- The table of a name. -/
def table? (source : TableShelf) (name : String) : Option ShelvedTable :=
  source.tables[name]?

/-- **Puts in a table.** Its name goes to the end of the order if there was no
table of that name. -/
def insert (source : TableShelf) (name : String) (table : ShelvedTable) : TableShelf where
  order := match source.table? name with
    | some _ => source.order
    | none => source.order ++ [name]
  tables := source.tables.insert name table

/-- A table that must be there. -/
def table (source : TableShelf) (name : String) : Except ProfileError ShelvedTable :=
  match source.table? name with
  | some table => .ok table
  | none => .error (.source name "no such table")

/-- How many of the rows of a list are asked for. -/
def wanted (rows : List Row) (limit : Option Nat) : Nat :=
  match limit with
  | some n => min rows.length n
  | none => rows.length

/-- **The tables as a source.** -/
def toSource (source : TableShelf) : Source where
  tables := .ok source.order
  columns name := .ofExcept ((source.table name).map (·.columns))
  rowCount name := .ofExcept ((source.table name).map fun table => some table.rows.length)
  rows name limit :=
    .ofExcept ((source.table name).map fun table =>
      (table.rows.take (wanted table.rows limit)).map Answer.value)

end TableShelf

end TableProfile
