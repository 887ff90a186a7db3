/-!
# Double precision

A finite double is `m · 2 ^ e` with a mantissa `m` below `2 ^ 53` and an
exponent `e` from `-1074` on; among the doubles of one sign, the bits
taken as a number grow with the value. Everything here is read off the
bits in exact arithmetic:

* `ofRatio` is the double nearest to a fraction, a tie going to the even
  mantissa. With `q` the rounded mantissa and `e` the exponent, the bits
  of the magnitude are `(e + 1074) · 2 ^ 52 + q`, for small, ordinary and
  just overflowing mantissas alike.
* `place` puts the doubles that are numbers on one line, the two zeros at
  the same place, and `before` compares places. A double that is not a
  number has none and comes before and after nothing.
-/

namespace TableProfile.Number

/-- The nearest whole number to `n / d`, the even one of two. -/
def roundHalfEven (n d : Nat) : Nat :=
  let q := n / d
  let r := n % d
  if 2 * r > d || (2 * r == d && q % 2 == 1) then q + 1 else q

namespace Binary64

/-- The bits of the magnitude of infinity. -/
def infinityBits : Nat := 0x7ff0000000000000

/-- The least mantissa of a double that is not small, which is also the
weight of the exponent in the bits. -/
def mantissaLimit : Nat := 0x10000000000000

/-- The bit of the sign. -/
def signBit : Nat := 0x8000000000000000

/-- The exponent of the last mantissa bit of a double near `num / den`. -/
def lastPlace (num den : Nat) : Int :=
  let leading : Int := (num.log2 : Int) - den.log2
  let reached := if 0 ≤ leading then den <<< leading.toNat ≤ num
    else den ≤ num <<< (-leading).toNat
  max (-1074) (if reached then leading - 52 else leading - 53)

/-- The bits of the magnitude of the double nearest to `num / den`. -/
def magnitudeBits (num den : Nat) : Nat :=
  if num = 0 then 0
  else
    let e := lastPlace num den
    let q := if 0 ≤ e then roundHalfEven num (den <<< e.toNat)
      else roundHalfEven (num <<< (-e).toNat) den
    min infinityBits ((e + 1074).toNat * mantissaLimit + q)

/-- The double with a sign and the bits of a magnitude. -/
def ofMagnitude (negative : Bool) (bits : Nat) : Float :=
  Float.ofBits (UInt64.ofNat (if negative then signBit + bits else bits))

/-- **The double nearest to a fraction**, with a sign before it. -/
def ofRatio (negative : Bool) (num den : Nat) : Float :=
  ofMagnitude negative (magnitudeBits num den)

/-- The double nearest to a natural number. -/
def ofNat (n : Nat) : Float :=
  ofRatio false n 1

/-- A double that is not a number. -/
def notANumber : Float :=
  Float.ofBits 0x7ff8000000000000

/-- Positive infinity. -/
def infinity : Float :=
  ofMagnitude false infinityBits

/-- Negative infinity. -/
def negativeInfinity : Float :=
  ofMagnitude true infinityBits

/-- The bits of a double without its sign. -/
def magnitude (x : Float) : Nat :=
  x.toBits.toNat % signBit

/-- Whether the sign of a double is set. -/
def isNegative (x : Float) : Bool :=
  signBit ≤ x.toBits.toNat

/-- Whether a double is finite. -/
def isFinite (x : Float) : Bool :=
  magnitude x < infinityBits

/-- Whether a double is a number, finite or not. -/
def isNumber (x : Float) : Bool :=
  magnitude x ≤ infinityBits

/-- **The place of a double** on the line of all doubles. -/
def place (x : Float) : Int :=
  if isNegative x then -(magnitude x : Int) else magnitude x

/-- **The strict order of the doubles that are numbers.** -/
def before (x y : Float) : Bool :=
  isNumber x && isNumber y && place x < place y

/-- The mantissa and the exponent of the magnitude of a finite double. -/
def parts (x : Float) : Nat × Int :=
  let bits := magnitude x
  if bits < mantissaLimit then (bits, -1074)
  else (mantissaLimit + bits % mantissaLimit, (bits / mantissaLimit : Nat) - 1075)

end Binary64

end TableProfile.Number
