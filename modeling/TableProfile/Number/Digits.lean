/-!
# Digits in a base

Above nine the digits go on with the letters, and the case of a letter
does not matter. A run of digits is read from the left, each digit adding
to the number before it times the base.
-/

namespace TableProfile.Number

/-- The value of a digit of a base. -/
def digitIn? (base : Nat) (c : Char) : Option Nat :=
  let value :=
    if '0' ≤ c ∧ c ≤ '9' then c.toNat - '0'.toNat
    else if 'a' ≤ c ∧ c ≤ 'z' then c.toNat - 'a'.toNat + 10
    else if 'A' ≤ c ∧ c ≤ 'Z' then c.toNat - 'A'.toNat + 10
    else base
  if value < base then some value else none

/-- **The number that digits of a base write**; no digits write zero. -/
def numberIn? (base : Nat) (digits : List Char) : Option Nat :=
  digits.foldlM (fun n c => (digitIn? base c).map (base * n + ·)) 0

end TableProfile.Number
