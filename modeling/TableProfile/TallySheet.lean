import Std.Data.ExtTreeMap

/-!
# Counting values

A `TallySheet` holds how often each value was seen. Its entries are
ranked: the more frequent first, and among equally frequent ones the
smaller value first, values compared character by character. The ranking
is total on distinct values, so *the first n entries* always means one
set, and trimming keeps that set.

Counts are exact until a trim discards an entry. The sheet remembers that
this happened; a discarded value that is seen again is a new value to it.

A count is kept in a machine word, which has room for as many cells or words
as can be seen. Whoever gives the weights himself can give more than that, so
there are two ways of counting: with any number (`addTimes`), and with what a
word does about a sum that is too large for it (`addWord?`). They are the same
as long as the sum fits.
-/

namespace TableProfile

/-- A value and how often it was seen. -/
structure Tally where
  /-- The value. -/
  value : String
  /-- How often it was seen. -/
  count : Nat
  deriving DecidableEq, Repr

/-- **The rank order**: more frequent first, then by value. -/
def Tally.ranksBefore (a b : Tally) : Bool :=
  b.count < a.count || (a.count == b.count && a.value ≤ b.value)

/-- The first entries of a ranking, and whether it has more. -/
structure Ranking where
  /-- The entries, in rank order. -/
  entries : List Tally
  /-- Whether entries were left out. -/
  hasMore : Bool
  deriving DecidableEq, Repr

/-- **What an addition does** whose sum is more than a machine word holds. -/
inductive Overflow where
  /-- It stops the program. -/
  | stops
  /-- It goes on with what the word has room for. -/
  | wraps
  deriving DecidableEq, Repr

/-- The sum of a count and a weight, in a machine word. -/
def Overflow.sum? (overflow : Overflow) (count weight : Nat) : Option Nat :=
  if count + weight < UInt64.size then some (count + weight)
  else match overflow with
    | stops => none
    | wraps => some ((count + weight) % UInt64.size)

/-- **How often each value was seen.** -/
structure TallySheet where
  /-- The count of each value held. -/
  counts : Std.ExtTreeMap String Nat := ∅
  /-- Whether a trim has discarded an entry. -/
  hasDiscarded : Bool := false

namespace TallySheet

/-- The sheet of no values. -/
def empty : TallySheet := {}

/-- The number of values held. -/
def size (sheet : TallySheet) : Nat :=
  sheet.counts.size

/-- How often a value was seen, zero if it is not held. -/
def count (sheet : TallySheet) (value : String) : Nat :=
  sheet.counts[value]?.getD 0

/-- Whether a value is held. -/
def holds (sheet : TallySheet) (value : String) : Bool :=
  sheet.counts.contains value

/-- Gives a value a count. -/
def setCount (sheet : TallySheet) (value : String) (count : Nat) : TallySheet :=
  { sheet with counts := sheet.counts.insert value count }

/-- **Counts a value several times at once.** -/
def addTimes (sheet : TallySheet) (value : String) (times : Nat) : TallySheet :=
  sheet.setCount value (sheet.count value + times)

/-- **Counts a value with a weight**, in machine words. There is no sheet after a
sum that stops the program. -/
def addWord? (overflow : Overflow) (sheet : TallySheet) (value : String) (weight : UInt64) :
    Option TallySheet :=
  (overflow.sum? (sheet.count value) weight.toNat).map (sheet.setCount value)

/-- Counts a value once. -/
def add (sheet : TallySheet) (value : String) : TallySheet :=
  sheet.addTimes value 1

/-- Counts each of some values once. -/
def addAll (sheet : TallySheet) (values : List String) : TallySheet :=
  values.foldl add sheet

/-- The entries in ascending order of their values. -/
def entries (sheet : TallySheet) : List Tally :=
  sheet.counts.toList.map fun (value, count) => ⟨value, count⟩

/-- The entries in rank order. -/
def ranked (sheet : TallySheet) : List Tally :=
  sheet.entries.mergeSort Tally.ranksBefore

/-- The sheet of some entries with distinct values. -/
def countsOf (entries : List Tally) : Std.ExtTreeMap String Nat :=
  entries.foldl (fun counts e => counts.insert e.value e.count) ∅

/-- The number of entries that a trim to the first `n` discards. -/
def excess (sheet : TallySheet) (n : Nat) : Nat :=
  sheet.size - n

/-- **Keeps the first `n` entries of the ranking.** A sheet that has no
more than those stays as it is. -/
def trim (sheet : TallySheet) (n : Nat) : TallySheet :=
  if sheet.size ≤ n then sheet
  else { counts := countsOf (sheet.ranked.take n), hasDiscarded := true }

/-- **The first `limit` entries of the ranking** among those seen at least
`least` times. -/
def topAtLeast (sheet : TallySheet) (least limit : Nat) : Ranking :=
  let entries := sheet.ranked.filter fun e => least ≤ e.count
  { entries := entries.take limit, hasMore := limit < entries.length }

end TallySheet

end TableProfile
