import TableProfile.Delimited.Record

/-!
# Counting rows without reading them

The number of rows of a delimited file is estimated from its lines alone.
Every quote opens or closes quoted text, wherever it stands. A line feed
outside quoted text ends a line, carriage returns outside quoted text
count for nothing, and a line counts if anything else is on it. The first
line that counts is the header.
-/

namespace TableProfile.Delimited

/-- **The state of the count.** -/
structure LineCount where
  /-- The lines that count so far. -/
  lines : Nat := 0
  /-- Whether quoted text is open. -/
  isQuoted : Bool := false
  /-- Whether anything is on the current line. -/
  isUsed : Bool := false
  deriving DecidableEq, Repr

/-- The lines that count once the current one has ended. -/
def LineCount.total (count : LineCount) : Nat :=
  if count.isUsed then count.lines + 1 else count.lines

/-- Counts a byte. -/
def LineCount.step (count : LineCount) (b : UInt8) : LineCount :=
  if b = quote then { count with isQuoted := !count.isQuoted, isUsed := true }
  else if b = 0x0a ∧ !count.isQuoted then
    { count with lines := count.total, isUsed := false }
  else if b = 0x0d ∧ !count.isQuoted then count
  else { count with isUsed := true }

/-- The lines that count. -/
def lineCount (bytes : List UInt8) : Nat :=
  (bytes.foldl LineCount.step {}).total

/-- **The estimated number of rows**, the header left out. -/
def rowCount (bytes : List UInt8) : Nat :=
  lineCount bytes - 1

end TableProfile.Delimited
