import TableProfile.Number.Binary64
import TableProfile.Number.Integer

/-!
# Numbers in JSON

A number is an optional minus sign, a whole part without leading zeros,
and optionally a fraction and an exponent. Written without fraction and
exponent it is an integer as long as sixty-four bits hold it; a negative
zero is none.

Any other number is a float, computed in the plain way: the digits make
up a significand of sixty-four bits, and digits that do not fit in are
counted and left out; the significand is rounded to a float and then
multiplied or divided by one power of ten. So the result may differ from
the nearest float in its last place. What is beyond the largest float is
out of range.
-/

namespace TableProfile.Json

open Number

/-- **A number as it is written.** -/
structure Literal where
  /-- Whether there is a minus sign. -/
  negative : Bool := false
  /-- The digits of the whole part. -/
  whole : List Char
  /-- The digits after the point, if there is one. -/
  fraction : Option (List Char) := none
  /-- The exponent, if there is one: whether it is negative, and its
  digits. -/
  exponent : Option (Bool × List Char) := none
  deriving DecidableEq, Repr

/-- What a number stands for. -/
inductive Quantity where
  /-- A whole number. -/
  | integer (n : Int)
  /-- Any other number. -/
  | float (x : Float)

/-- Appends digits to a significand as long as sixty-four bits hold it,
and counts those left out. -/
def extend (significand : Nat) : List Char → Nat × Nat
  | [] => (significand, 0)
  | c :: rest =>
    let longer := 10 * significand + digitValue c
    if longer < UInt64.size then extend longer rest else (significand, rest.length + 1)

/-- The largest power of ten that is taken at once. -/
def largestPower : Nat := 308

/-- The float of a power of ten. -/
def powerOfTen (n : Nat) : Float :=
  Binary64.ofNat (tenTo n)

/-- Divides by a power of ten, in several steps if it is a large one. -/
def divided (x : Float) (power : Nat) : Float :=
  if power ≤ largestPower then x / powerOfTen power
  else if x == 0.0 then x
  else divided (x / powerOfTen largestPower) (power - largestPower)
termination_by power
decreasing_by simp only [largestPower] at *; omega

/-- A significand times a power of ten, unless it is out of range. -/
def scaled? (significand : Nat) (power : Int) : Option Float :=
  let x := Binary64.ofNat significand
  if power < 0 then some (divided x power.natAbs)
  else if power ≤ largestPower then
    some (x * powerOfTen power.toNat) |>.filter (Binary64.isFinite ·)
  else if significand = 0 then some x
  else none

/-- The exponents that are told apart. -/
def exponentLimit : Nat := 0x80000000

namespace Literal

/-- The significand, and the power of ten that the digits before the
exponent imply. -/
def digits (l : Literal) : Nat × Int :=
  let (significand, left) := extend 0 l.whole
  match l.fraction with
  | none => (significand, left)
  | some fraction =>
    let (significand, unused) := extend significand fraction
    (significand, left - (fraction.length - unused : Nat))

/-- The float without its sign, unless it is out of range. -/
def magnitude? (l : Literal) : Option Float :=
  let (significand, power) := l.digits
  match l.exponent with
  | none => scaled? significand power
  | some (negative, exponent) =>
    let n := digitsValue exponent
    if exponentLimit ≤ n then
      if significand ≠ 0 ∧ !negative then none else some 0.0
    else scaled? significand (if negative then power - n else power + n)

/-- The whole number, if it is written as one and sixty-four bits hold it. -/
def integer? (l : Literal) : Option Int :=
  let n := digitsValue l.whole
  match l.fraction, l.exponent with
  | none, none =>
    if l.negative then if n ≠ 0 ∧ n ≤ int64Limit then some (-(n : Int)) else none
    else if n < UInt64.size then some n else none
  | _, _ => none

/-- **What a number stands for**, unless it is out of range. -/
def quantity? (l : Literal) : Option Quantity :=
  match l.integer? with
  | some n => some (.integer n)
  | none => l.magnitude?.map fun x => .float (if l.negative then -x else x)

end Literal

/-- A quantity as a float. -/
def Quantity.toFloat : Quantity → Float
  | integer n => Binary64.ofRatio (n < 0) n.natAbs 1
  | float x => x

end TableProfile.Json
