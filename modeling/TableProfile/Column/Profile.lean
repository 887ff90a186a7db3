import TableProfile.Calendar.Layout
import TableProfile.Number.Decimal
import TableProfile.Report
import TableProfile.Reservoir
import TableProfile.Text.Words

/-!
# The profile of a column

A profile looks at the cells of a column one after the other and keeps
what a report needs: how many cells there are and how long, which of three
types every value so far belongs to, how often each value occurs, and a
sample of the numbers.

Two decisions are made on the way. *Free text*: at one row, the
checkpoint, a column of no type whose values are long on average turns
into a column of words; the values counted so far are taken apart into
words and each word inherits the counts. *Trimming*: when more values are
held than memory allows, only the most frequent are kept.

Cells that hold nothing but white space are blank. They are counted as
values, but they have no type, and no words.
-/

namespace TableProfile

open Number Text

/-- **The limits of a profile.** -/
structure ProfileLimits where
  /-- How many values may be held before a trim. -/
  maxInMemory : Nat := 100000
  /-- How many values a trim keeps and a report lists. -/
  maxToReport : Nat := 1000
  /-- The row at which a column is tested for free text. -/
  checkpoint : Nat := 1000
  /-- The mean length from which on a column is free text. -/
  minAverageLength : Nat := 100
  /-- The size of the sample of numbers, if there is to be one. -/
  samplerSize : Option Nat := none
  deriving DecidableEq, Repr

/-- Whether cells are counted as values or as words. -/
inductive Counting where
  /-- Cells are values and may have a type. -/
  | cells
  /-- Cells are text and their words are counted. -/
  | words
  deriving DecidableEq, Repr

/-- The types that are inferred from cells. -/
inductive InferredType where
  /-- Every cell is blank. -/
  | empty
  /-- The cells are free text. -/
  | text
  /-- Every value is a date. -/
  | date
  /-- Every value is a whole number. -/
  | integer
  /-- Every value is a number. -/
  | real
  /-- The values have nothing in common. -/
  | varchar
  deriving DecidableEq, Repr

/-- The label of an inferred type. -/
def InferredType.label : InferredType → String
  | empty => "empty"
  | text => "text"
  | date => "date"
  | integer => "int"
  | real => "real"
  | varchar => "varchar"

/-- **What is known of a column** after some of its cells. -/
structure ColumnProfile where
  /-- The name of the column. -/
  name : String
  /-- The type that the source declares. -/
  declared : Option String
  /-- The limits of the profile. -/
  settings : ProfileLimits
  /-- Whether cells are counted as values or as words. -/
  counting : Counting := .cells
  /-- The number of cells. -/
  rows : Nat := 0
  /-- The number of blank cells. -/
  blanks : Nat := 0
  /-- The total length of the cells in characters. -/
  totalLength : Nat := 0
  /-- The length of the longest cell in characters. -/
  longest : Nat := 0
  /-- Whether every value so far is a whole number. -/
  allIntegers : Bool := true
  /-- Whether every value so far is a number. -/
  allReals : Bool := true
  /-- Whether every value so far is a date. -/
  allDates : Bool := true
  /-- The number of cells that were new to the sheet. -/
  newcomers : Nat := 0
  /-- How often each value, or each word, was seen. -/
  values : TallySheet := {}
  /-- Whether values were discarded before the end. -/
  discardedEarly : Bool := false
  /-- The sample of numbers. -/
  sampler : Option Sampler := none

namespace ColumnProfile

/-- The text of a cell without the white space around it. -/
def content (cell : String) : List Char :=
  trim cell.toList

/-- Whether a cell is blank. -/
def isBlankCell (cell : String) : Bool :=
  (content cell).isEmpty

/-- The words of a cell. -/
def cellWords (cell : String) : List String :=
  words (String.ofList (content cell))

/-- Counts the words of a value as often as the value was seen. -/
def addWords (tokens : TallySheet) (e : Tally) : TallySheet :=
  (cellWords e.value).foldl (fun tokens word => tokens.addTimes word e.count) tokens

/-- **A sheet of values as a sheet of words**: each word of a value
inherits the count of the value. -/
def tokenize (sheet : TallySheet) : TallySheet :=
  sheet.entries.foldl addWords {}

/-- **The profile of a column before its first cell.** A declared type
that is blank counts as none. -/
def start (name : String) (declared : Option String) (settings : ProfileLimits)
    (seed : UInt64) : Except ProfileError ColumnProfile := do
  let sampler ← settings.samplerSize.mapM (Sampler.ofSeed · seed)
  return { name, settings, sampler, declared := declared.filter (!isBlankCell ·) }

/-- Counts a cell and measures it. -/
def measure (p : ColumnProfile) (cell : String) : ColumnProfile :=
  { p with
    rows := p.rows + 1
    blanks := if isBlankCell cell then p.blanks + 1 else p.blanks
    totalLength := p.totalLength + cell.length
    longest := max p.longest cell.length }

/-- Gives up the types that a value does not belong to. -/
def narrow (p : ColumnProfile) (value : List Char) : ColumnProfile :=
  { p with
    allIntegers := p.allIntegers && (int64? value).isSome
    allReals := p.allReals && (finite? value).isSome
    allDates := p.allDates && Calendar.isDate value }

/-- **Takes a cell into the sheet**, as a value or as words. -/
def tally (p : ColumnProfile) (cell : String) : ColumnProfile :=
  match p.counting with
  | .cells =>
    let p := { p with
      newcomers := if p.values.holds cell then p.newcomers else p.newcomers + 1
      values := p.values.add cell }
    if isBlankCell cell then p else p.narrow (content cell)
  | .words => { p with values := p.values.addAll (cellWords cell) }

/-- **Whether a column looks like free text**: its values are of no type,
and the cells have the length of free text for each value. -/
def resemblesText (p : ColumnProfile) : Bool :=
  !p.allIntegers && !p.allReals && !p.allDates && p.blanks < p.rows
    && p.settings.minAverageLength ≤ p.totalLength / (p.rows - p.blanks)

/-- Turns the column into free text if this is the checkpoint and it looks
like free text. -/
def decide (p : ColumnProfile) : ColumnProfile :=
  if p.rows = p.settings.checkpoint ∧ p.resemblesText then
    { p with values := tokenize p.values, counting := .words }
  else p

/-- Whether every value so far is a number. -/
def allNumbers (p : ColumnProfile) : Bool :=
  p.allIntegers || p.allReals

/-- **Takes a cell into the sample** as long as every value is a number. -/
def sample (p : ColumnProfile) (cell : String) : ColumnProfile :=
  if p.allNumbers then
    match p.sampler, finite? (content cell) with
    | some sampler, some number => { p with sampler := some (sampler.add number) }
    | _, _ => p
  else p

/-- **Trims the sheet** if it holds more than memory allows. -/
def bound (p : ColumnProfile) : ColumnProfile :=
  if p.settings.maxInMemory < p.values.size then
    { p with
      values := p.values.trim p.settings.maxToReport
      discardedEarly :=
        p.discardedEarly || p.settings.maxToReport < p.values.size }
  else p

/-- **Looks at a cell.** -/
def observe (p : ColumnProfile) (cell : String) : ColumnProfile :=
  ((((p.measure cell).tally cell).decide).sample cell).bound

/-- Looks at cells one after the other. -/
def observeAll (p : ColumnProfile) (cells : List String) : ColumnProfile :=
  cells.foldl observe p

/-- **Trims the sheet to what is reported**, once all cells were seen. -/
def finish (p : ColumnProfile) : ColumnProfile :=
  { p with values := p.values.trim p.settings.maxToReport }

/-- Whether the column is free text. -/
def isText (p : ColumnProfile) : Bool :=
  p.counting == .words

/-- **The inferred type**, the first of those that fit. -/
def inferredType (p : ColumnProfile) : InferredType :=
  if p.rows = p.blanks then .empty
  else if p.isText then .text
  else if p.allDates then .date
  else if p.allIntegers then .integer
  else if p.allReals then .real
  else .varchar

/-- The declared type, or else the inferred one. -/
def typeName (p : ColumnProfile) : String :=
  p.declared.getD p.inferredType.label

/-- A part of a whole as a fraction; of nothing there is no part. -/
def fraction (part whole : Nat) : Float :=
  if whole = 0 then 0.0 else Binary64.ofNat part / Binary64.ofNat whole

/-- **The numbers of the column**, if every value is one and there is a
value in the sample. -/
def numbers (p : ColumnProfile) : Option Report.Numbers :=
  match p.sampler with
  | some { reservoir := r, .. } =>
    if p.allNumbers && r.size != 0 then
      some {
        minimum := r.minimum
        maximum := r.maximum
        mean := r.mean
        deviation := r.standardDeviation
        lowerQuartile := r.quartile 1
        median := r.quartile 2
        upperQuartile := r.quartile 3
        estimated := r.leavesOut }
    else none
  | none => none

/-- **The report of the column.** Values seen fewer than `least` times are
left out. -/
def report (p : ColumnProfile) (rowCount : Option Int) (least : Nat) : Report.Column :=
  let top := p.values.topAtLeast least p.settings.maxToReport
  let atLeast := p.discardedEarly || p.isText
  { name := p.name
    typeName := p.typeName
    longest := p.longest
    knownRows := rowCount
    rows := p.rows
    blankShare := fraction p.blanks p.rows
    distinct := p.newcomers
    distinctIsBound := atLeast
    distinctShare := fraction p.newcomers p.rows
    shareIsBound := atLeast
    isText := p.isText
    values := top.entries
    valuesMissing := top.hasMore || top.entries.length < p.values.size || p.values.hasDiscarded
    numbers := p.numbers }

end ColumnProfile

end TableProfile
