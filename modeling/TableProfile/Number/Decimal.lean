import TableProfile.Number.Binary64
import TableProfile.Number.Integer

/-!
# Decimal numbers as text

A decimal number is an optional sign, digits with at most one point among
them, and an optional power of ten. At least one digit stands before or
after the point. A column is a number column when its values read as
decimal numbers that are finite in double precision; the names of the
infinities and of what is not a number read too, and are turned away
because their values are not finite.
-/

namespace TableProfile.Number

/-- **A decimal number**: `coefficient · 10 ^ exponent`, and its sign. -/
structure Decimal where
  /-- Whether a minus sign stands before it. -/
  negative : Bool
  /-- All its digits, without the point. -/
  coefficient : Nat
  /-- The power of ten of the last digit. -/
  exponent : Int
  deriving DecidableEq, Repr

namespace Decimal

/-- The power of ten at the end of a number, zero where there is none. -/
def power? : List Char → Option Int
  | [] => some 0
  | 'e' :: s => integer? s
  | 'E' :: s => integer? s
  | _ => none

/-- A decimal number without its sign. -/
def unsigned? (s : List Char) : Option (Nat × Int) :=
  let whole := s.takeWhile Char.isDigit
  let rest := s.dropWhile Char.isDigit
  let (places, rest) := match rest with
    | '.' :: rest => (rest.takeWhile Char.isDigit, rest.dropWhile Char.isDigit)
    | rest => ([], rest)
  if whole = [] ∧ places = [] then none
  else (power? rest).map fun power => (digitsValue (whole ++ places), power - places.length)

/-- The sign of a number and the text after it. -/
def splitSign : List Char → Bool × List Char
  | '-' :: s => (true, s)
  | '+' :: s => (false, s)
  | s => (false, s)

/-- **Reads a decimal number**, which must fill the whole text. -/
def read? (s : List Char) : Option Decimal :=
  let (negative, s) := splitSign s
  (unsigned? s).map fun (coefficient, exponent) => ⟨negative, coefficient, exponent⟩

/-- **The nearest double.** Powers of ten far outside the range of doubles
are settled by the number of digits, so that no huge power is formed. -/
def toFloat (d : Decimal) : Float :=
  let leading := d.exponent + (naturalText d.coefficient).length
  if d.coefficient = 0 || leading < -400 then Binary64.ofMagnitude d.negative 0
  else if 400 < leading then Binary64.ofMagnitude d.negative Binary64.infinityBits
  else if 0 ≤ d.exponent then
    Binary64.ofRatio d.negative (d.coefficient * tenTo d.exponent.toNat) 1
  else Binary64.ofRatio d.negative d.coefficient (tenTo (-d.exponent).toNat)

end Decimal

/-- The doubles that have a name instead of digits, in any letter case. -/
def named? (s : List Char) : Option Float :=
  let (negative, s) := Decimal.splitSign s
  match s.map Char.toLower with
  | ['i', 'n', 'f'] | ['i', 'n', 'f', 'i', 'n', 'i', 't', 'y'] =>
    some (Binary64.ofMagnitude negative Binary64.infinityBits)
  | ['n', 'a', 'n'] => some Binary64.notANumber
  | _ => none

/-- **The double that a text writes**, by its digits or by its name. -/
def double? (s : List Char) : Option Float :=
  match Decimal.read? s with
  | some d => some d.toFloat
  | none => named? s

/-- **A finite number.** -/
def finite? (s : List Char) : Option Float :=
  (double? s).filter Binary64.isFinite

end TableProfile.Number
