import TableProfile.TallySheet

/-!
# Reports

What a scan hands over: one report for each table that was profiled, in
the order the tables were asked for, and one entry for each table that
could not be.
-/

namespace TableProfile

/-- **The numbers of a column** in which every value is one. -/
structure Report.Numbers where
  /-- The smallest value. -/
  minimum : Float
  /-- The largest value. -/
  maximum : Float
  /-- The mean of all values. -/
  mean : Float
  /-- The standard deviation of the sample. -/
  deviation : Float
  /-- The lower quartile of the sample. -/
  lowerQuartile : Float
  /-- The median of the sample. -/
  median : Float
  /-- The upper quartile of the sample. -/
  upperQuartile : Float
  /-- Whether the sample leaves values out. -/
  estimated : Bool

/-- **The finished profile of a column.** -/
structure Report.Column where
  /-- The name of the column. -/
  name : String
  /-- The declared type, or else the inferred one. -/
  typeName : String
  /-- The length of the longest cell in characters. -/
  longest : Nat
  /-- The number of rows of the whole table, if the source knows it. -/
  knownRows : Option Int
  /-- The number of rows looked at. -/
  rows : Nat
  /-- The share of blank cells. -/
  blankShare : Float
  /-- The number of distinct values. -/
  distinct : Nat
  /-- Whether that number is a bound and not exact. -/
  distinctIsBound : Bool
  /-- The share of distinct values. -/
  distinctShare : Float
  /-- Whether that share is a bound and not exact. -/
  shareIsBound : Bool
  /-- Whether the column holds free text, and its values are words. -/
  isText : Bool
  /-- The most frequent values. -/
  values : List Tally
  /-- Whether values are missing from that list. -/
  valuesMissing : Bool
  /-- The numbers of the column, if every value is one. -/
  numbers : Option Report.Numbers

/-- **The finished profile of a table.** -/
structure Report.Table where
  /-- The name of the table. -/
  table : String
  /-- The number of rows of the whole table, if the source knows it. -/
  knownRows : Option Int
  /-- The number of rows looked at. -/
  rows : Nat
  /-- The number of rows passed over because they have too many cells or
  too few. -/
  skipped : Nat
  /-- The columns in their order in the table. -/
  columns : List Report.Column

/-- A table that could not be profiled. -/
structure Report.Failure where
  /-- The name of the table. -/
  table : String
  /-- Why. -/
  error : String
  deriving DecidableEq, Repr

/-- **The outcome of a scan.** -/
structure Report where
  /-- The tables that were profiled. -/
  tables : List Report.Table := []
  /-- The tables that could not be. -/
  failures : List Report.Failure := []

/-- The first column of a name. -/
def Report.Table.column? (report : Report.Table) (name : String) : Option Report.Column :=
  report.columns.find? (·.name == name)

/-- The first table of a name. -/
def Report.table? (report : Report) (name : String) : Option Report.Table :=
  report.tables.find? (·.table == name)

end TableProfile
