import TableProfile.Scan.Interrupt
import TableProfile.Scan.Settings
import TableProfile.Source.Table

/-!
# Profiling one table

Looking at a table is an activity that goes on in steps. Between the
steps it calls the source, or asks whether to go on; nothing else of what
it does can be seen from outside. So several activities can be
interleaved, and an account of what an activity does before it ends is an
account of its calls and questions.

The activity asks before it does anything, and then after every so many
rows. It ends with a report, with nothing to report, or with an error;
when the source breaks down, so does the activity. A table without
columns has nothing to report, and neither has one without a row of the
right length. Rows of another length are counted and passed over.
-/

namespace TableProfile

/-- How the profile of a table ends: a report or nothing to report, or an
error. -/
abbrev TableResult : Type := Except ProfileError (Option Report.Table)

/-- The calls of a source. -/
inductive SourceCall where
  /-- For the columns of a table. -/
  | columns
  /-- For the number of rows. -/
  | rowCount
  /-- For the rows. -/
  | rows
  /-- For the next row. -/
  | nextRow
  deriving DecidableEq, Repr

/-- **An activity.** -/
inductive Activity where
  /-- It has ended. -/
  | ended (result : TableResult)
  /-- It has broken down. -/
  | brokenDown
  /-- It asks whether to go on. -/
  | asks (next : Bool → Activity)
  /-- It calls the source, and goes on with the answer. -/
  | calls (call : SourceCall) (next : Unit → Activity)

/-- The seed of the sample of a column, by the position at which its table
was asked for and the position of the column. A table that is asked for
twice is sampled twice. -/
abbrev Seeds : Type := Nat → Nat → UInt64

/-- **A table in the course of its rows.** -/
structure TableState where
  /-- The profiles of the columns. -/
  profiles : List ColumnProfile
  /-- The number of rows read. -/
  read : Nat := 0
  /-- The number of rows looked at. -/
  profiled : Nat := 0
  /-- The number of rows passed over. -/
  skipped : Nat := 0

namespace TableState

/-- The profiles of columns before the first row. -/
def start (settings : Settings) (seed : Nat → UInt64) (columns : List ColumnHeader) :
    Except ProfileError TableState := do
  let profiles ← columns.zipIdx.mapM fun (column, position) =>
    ColumnProfile.start column.name column.declared settings.profile (seed position)
  return { profiles }

/-- Looks at a row of the right length, and passes over any other. -/
def look (t : TableState) (row : Row) : TableState :=
  if row.length = t.profiles.length then
    { t with
      profiles := List.zipWith ColumnProfile.observe t.profiles row
      profiled := t.profiled + 1 }
  else { t with skipped := t.skipped + 1 }

/-- Counts a row. -/
def count (t : TableState) : TableState :=
  { t with read := t.read + 1 }

/-- **The report of the table**, if a row was looked at. -/
def report (t : TableState) (table : String) (settings : Settings) (rowCount : Option Int) :
    Option Report.Table :=
  if t.profiled = 0 then none
  else some {
    table
    knownRows := rowCount
    rows := t.profiled
    skipped := t.skipped
    columns := t.profiles.map fun p => p.finish.report rowCount settings.minCellCount }

end TableState

namespace Activity

/-- **Goes through the rows** of a table. -/
def throughRows (table : String) (settings : Settings) (rowCount : Option Int)
    (t : TableState) : Rows → Activity
  | [] =>
    let last := ended (.ok (t.report table settings rowCount))
    if settings.limit.any (· ≤ t.read) then last else calls .nextRow fun _ => last
  | answer :: rest =>
    if settings.limit.any (· ≤ t.read) then
      ended (.ok (t.report table settings rowCount))
    else calls .nextRow fun _ =>
      match answer with
      | .breakdown => brokenDown
      | .failure e => ended (.error (e.ofRow table (t.read + 1)))
      | .value row =>
        if t.count.read % settings.pollInterval = 0 then
          asks fun goOn =>
            match goOn with
            | true => throughRows table settings rowCount (t.count.look row) rest
            | false => ended (.error .canceled)
        else throughRows table settings rowCount (t.count.look row) rest

/-- Opens the rows of a table and goes through them. -/
def openRows (source : Source) (settings : Settings) (seed : Nat → UInt64) (table : String)
    (columns : List ColumnHeader) (rowCount : Option Int) : Activity :=
  match TableState.start settings seed columns with
  | .error e => ended (.error e)
  | .ok t => calls .rows fun _ =>
    match source.rows table settings.limit with
    | .breakdown => brokenDown
    | .failure e => ended (.error (e.ofTable table))
    | .value stream => throughRows table settings rowCount t stream

/-- Counts the rows of a table, which may fail without harm, and opens
them. -/
def countRows (source : Source) (settings : Settings) (seed : Nat → UInt64) (table : String)
    (columns : List ColumnHeader) : Activity :=
  calls .rowCount fun _ =>
    match source.rowCount table with
    | .breakdown => brokenDown
    | .failure e =>
      if e.isCancellation then ended (.error e)
      else openRows source settings seed table columns none
    | .value rowCount => openRows source settings seed table columns rowCount

/-- Looks up the columns of a table. -/
def lookUpColumns (source : Source) (settings : Settings) (seed : Nat → UInt64)
    (table : String) : Activity :=
  calls .columns fun _ =>
    match source.columns table with
    | .breakdown => brokenDown
    | .failure e => ended (.error (e.ofTable table))
    | .value columns =>
      if columns.isEmpty then ended (.ok none)
      else countRows source settings seed table columns

/-- **Profiles a table.** -/
def ofTable (source : Source) (settings : Settings) (seed : Nat → UInt64) (table : String) :
    Activity :=
  asks fun goOn =>
    match goOn with
    | true => lookUpColumns source settings seed table
    | false => ended (.error .canceled)

end Activity

/-- How an activity ends. -/
inductive Ending where
  /-- With a result. -/
  | result (result : TableResult)
  /-- With a breakdown. -/
  | breakdown

namespace Activity

/-- **Runs an activity to its end.** `asked` questions were asked before;
the number of questions asked by then is part of the answer. -/
def run (interrupt : Interrupt) (asked : Nat) : Activity → Ending × Nat
  | ended result => (.result result, asked)
  | brokenDown => (.breakdown, asked)
  | asks next => (next (interrupt asked)).run interrupt (asked + 1)
  | calls _ next => (next ()).run interrupt asked

end Activity

end TableProfile
