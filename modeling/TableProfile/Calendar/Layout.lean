import TableProfile.Calendar.Moment
import TableProfile.Number.Integer
import TableProfile.Text.Blank

/-!
# Date layouts

A layout is a list of parts, read from left to right, that must use up
the whole text. The layouts a date may have are data, and one reader
serves them all, so what a date looks like can be read off two lists and
one table of parts.

Two kinds of number occur. A *loose* number allows white space before it
and fewer digits than its width; a year may then carry a sign, and with a
sign any number of digits. An *exact* number has just so many digits. The
layouts of everyday dates are loose throughout and the interchange layout
is exact throughout.
-/

namespace TableProfile.Calendar

open TableProfile.Number TableProfile.Text

/-- The numeric parts of a moment. -/
inductive Field where
  | year | month | day | hour | minute | second | offsetHour | offsetMinute
  deriving DecidableEq, Repr

/-- The greatest number of digits of a loose number. -/
def Field.width : Field → Nat
  | .year => 4
  | _ => 2

/-- Stores a number in a moment. -/
def Moment.set (m : Moment) (field : Field) (n : Int) : Moment :=
  match field with
  | .year => { m with year := n }
  | .month => { m with month := n.toNat }
  | .day => { m with day := n.toNat }
  | .hour => { m with hour := n.toNat }
  | .minute => { m with minute := n.toNat }
  | .second => { m with second := n.toNat }
  | .offsetHour => { m with offsetHour := n.toNat }
  | .offsetMinute => { m with offsetMinute := n.toNat }

/-- **A part of a layout.** -/
inductive Part where
  /-- A number with white space before it and up to its width of digits. -/
  | loose (field : Field)
  /-- A number of exactly so many digits. -/
  | exact (field : Field) (width : Nat)
  /-- The first three letters of the English name of a month. -/
  | monthName
  /-- One of these characters. -/
  | oneOf (choice : List Char)
  /-- White space, possibly none. -/
  | blanks
  /-- A point and one or more digits, or nothing. -/
  | fraction
  /-- The letter of universal time, or these parts after a sign. -/
  | offset
  deriving DecidableEq, Repr

/-- A layout: its parts from left to right. -/
abbrev Layout := List Part

/-- The digits at the front, at most `width` of them, if there are any. -/
def leadingDigits (width : Nat) (s : List Char) : Option (Nat × List Char) :=
  let digits := (s.take width).takeWhile Char.isDigit
  if digits = [] then none else some (digitsValue digits, s.drop digits.length)

/-- The digits at the front, however many, if there are any. -/
def allDigits (s : List Char) : Option (Nat × List Char) :=
  leadingDigits s.length s

/-- A loose number. Only a year may carry a sign. -/
def looseNumber (field : Field) (s : List Char) : Option (Int × List Char) :=
  match field, trimLeft s with
  | .year, '-' :: s => (allDigits s).map fun (n, rest) => (-n, rest)
  | .year, '+' :: s => (allDigits s).map fun (n, rest) => (n, rest)
  | field, s => (leadingDigits field.width s).map fun (n, rest) => (n, rest)

/-- A number of exactly `width` digits. -/
def exactNumber (width : Nat) (s : List Char) : Option (Nat × List Char) :=
  let digits := s.take width
  if digits.length = width ∧ digits.all Char.isDigit then
    some (digitsValue digits, s.drop width)
  else none

/-- The months by the first three letters of their names. -/
def monthNames : List (List Char) :=
  [['j', 'a', 'n'], ['f', 'e', 'b'], ['m', 'a', 'r'], ['a', 'p', 'r'], ['m', 'a', 'y'],
   ['j', 'u', 'n'], ['j', 'u', 'l'], ['a', 'u', 'g'], ['s', 'e', 'p'], ['o', 'c', 't'],
   ['n', 'o', 'v'], ['d', 'e', 'c']]

/-- A month by its name, in any letter case. -/
def namedMonth (s : List Char) : Option (Nat × List Char) :=
  (monthNames.findIdx? (· == (s.take 3).map Char.toLower)).map fun i => (i + 1, s.drop 3)

/-- **Reads one part** into the moment read so far. -/
def Part.read (part : Part) (m : Moment) (s : List Char) : Option (Moment × List Char) :=
  match part with
  | .loose field => (looseNumber field s).map fun (n, rest) => (m.set field n, rest)
  | .exact field width => (exactNumber width s).map fun (n, rest) => (m.set field n, rest)
  | .monthName => (namedMonth s).map fun (n, rest) => ({ m with month := n }, rest)
  | .oneOf choice => match s with
    | c :: rest => if choice.contains c then some (m, rest) else none
    | [] => none
  | .blanks => some (m, trimLeft s)
  | .fraction => match s with
    | '.' :: rest => (allDigits rest).map fun (_, rest) => (m, rest)
    | s => some (m, s)
  | .offset => match s with
    | 'Z' :: rest | 'z' :: rest => some (m, rest)
    | '+' :: rest | '-' :: rest | '−' :: rest => do
      let (hour, rest) ← exactNumber 2 rest
      let ':' :: rest := rest | none
      let (minute, rest) ← exactNumber 2 rest
      some ({ m with offsetHour := hour, offsetMinute := minute }, rest)
    | _ => none

/-- **Reads a whole layout**; nothing may be left over. -/
def Layout.read (layout : Layout) (m : Moment) (s : List Char) : Option Moment :=
  match layout with
  | [] => if s = [] then some m else none
  | part :: layout => (part.read m s).bind fun (m, rest) => Layout.read layout m rest

/-- Whether a text has a layout and names a moment that exists. -/
def Layout.accepts (layout : Layout) (s : List Char) : Bool :=
  match layout.read {} s with
  | some m => m.Exists
  | none => false

namespace Layout

/-- A single character. -/
def sign (c : Char) : Part := .oneOf [c]

/-- Three numbers with the same character between them. -/
def triple (a : Field) (c : Char) (b d : Field) : Layout :=
  [.loose a, sign c, .loose b, sign c, .loose d]

/-- Hours and minutes. -/
def clock : Layout :=
  [.loose .hour, sign ':', .loose .minute]

/-- Hours, minutes and seconds. -/
def fullClock : Layout :=
  clock ++ [sign ':', .loose .second]

/-- **The layouts of a day alone.** -/
def days : List Layout :=
  [triple .year '-' .month .day,
   triple .year '/' .month .day,
   triple .day '/' .month .year,
   triple .month '/' .day .year,
   triple .day '-' .month .year,
   triple .day '.' .month .year,
   [.loose .day, sign '-', .monthName, sign '-', .loose .year],
   [.loose .day, .blanks, .monthName, .blanks, .loose .year]]

/-- **The layouts of a day with a time of day.** -/
def daysWithTime : List Layout :=
  [triple .year '-' .month .day ++ .blanks :: fullClock,
   triple .year '-' .month .day ++ .blanks :: fullClock ++ [.fraction],
   triple .year '-' .month .day ++ sign 'T' :: fullClock,
   triple .year '-' .month .day ++ sign 'T' :: fullClock ++ [.fraction],
   triple .year '/' .month .day ++ .blanks :: fullClock,
   triple .day '/' .month .year ++ .blanks :: fullClock,
   triple .month '/' .day .year ++ .blanks :: fullClock,
   triple .year '-' .month .day ++ .blanks :: clock]

/-- **The interchange layout**, with the distance from universal time. -/
def interchange : Layout :=
  [.exact .year 4, sign '-', .exact .month 2, sign '-', .exact .day 2,
   .oneOf ['T', 't', ' '],
   .exact .hour 2, sign ':', .exact .minute 2, sign ':', .exact .second 2, .fraction, .offset]

/-- All layouts of a date. -/
def all : List Layout :=
  days ++ daysWithTime ++ [interchange]

end Layout

/-- **A date**: a text in one of the layouts that names a moment that
exists. -/
def isDate (s : List Char) : Bool :=
  Layout.all.any (·.accepts s)

end TableProfile.Calendar
