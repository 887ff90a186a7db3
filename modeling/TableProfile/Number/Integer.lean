/-!
# Whole numbers as text

A whole number is an optional sign and one or more decimal digits, with
nothing around or between them. Leading zeros are allowed. A column is an
integer column when its values read as whole numbers of sixty-four bits.
-/

namespace TableProfile.Number

/-- The value of a decimal digit. -/
def digitValue (c : Char) : Nat :=
  c.toNat - '0'.toNat

/-- The number that a run of decimal digits writes. -/
def digitsValue (digits : List Char) : Nat :=
  digits.foldl (fun n c => 10 * n + digitValue c) 0

/-- **A natural number**: one or more decimal digits. -/
def natural? (s : List Char) : Option Nat :=
  if s ≠ [] ∧ s.all Char.isDigit then some (digitsValue s) else none

/-- **A whole number**: a natural number, with a sign or without. -/
def integer? : List Char → Option Int
  | '+' :: s => (natural? s).map Int.ofNat
  | '-' :: s => (natural? s).map fun n => -(n : Int)
  | s => (natural? s).map Int.ofNat

/-- The first natural number that a signed word of sixty-four bits does not
hold. -/
def int64Limit : Int := 0x8000000000000000

/-- A power of ten. -/
def tenTo (n : Nat) : Nat :=
  Nat.pow 10 n

/-- The whole numbers that a signed word of sixty-four bits holds. -/
def IsInt64 (n : Int) : Prop :=
  -int64Limit ≤ n ∧ n < int64Limit

instance (n : Int) : Decidable (IsInt64 n) :=
  inferInstanceAs (Decidable (_ ∧ _))

/-- **A signed number of sixty-four bits.** -/
def int64? (s : List Char) : Option Int :=
  (integer? s).filter (IsInt64 ·)

/-- **An unsigned number of sixty-four bits**, which may have a plus sign. -/
def uint64? : List Char → Option Nat
  | '+' :: s => (natural? s).filter (· < UInt64.size)
  | s => (natural? s).filter (· < UInt64.size)

/-- The decimal digits of a natural number. -/
def naturalText (n : Nat) : List Char :=
  Nat.toDigits 10 n

/-- **The text of a whole number**: a minus sign before the digits of a
negative one, no sign otherwise. -/
def integerText (n : Int) : List Char :=
  if n < 0 then '-' :: naturalText n.natAbs else naturalText n.natAbs

end TableProfile.Number
