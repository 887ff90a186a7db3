import TableProfile.Number.Binary64
import TableProfile.Number.Integer

/-!
# The shortest decimal digits of a double

A finite double is written with the fewest decimal digits that read back
as the same double, and among those with the digits nearest to it.

The reals that round to `m · 2 ^ e` lie between the midpoints to its two
neighbours, the midpoints included exactly when `m` is even. Below a power
of two the neighbour is only half as far away. All bounds are whole
multiples of `2 ^ (e - 2)`. A grid of decimals `c · 10 ^ k` meets that
interval only if one of the two grid points around the double does, so
the grids are tried from coarse to fine and the first hit is shortest.

Digits are written positionally where the leading one stands for a power
of ten in a middle range, and with a power of ten elsewhere.
-/

namespace TableProfile.Number

/-- **A decimal magnitude**: `digits · 10 ^ exponent`. -/
structure Magnitude where
  /-- The digits as a whole number. -/
  digits : Nat
  /-- The power of ten of the last digit. -/
  exponent : Int
  deriving DecidableEq, Repr

/-- The decimal of a grid `c · 10 ^ k` that is nearest to the double
`m · 2 ^ e`, if the grid has a point that rounds to it; of two equally
near the even one. A grid whose first point already lies beyond the
double counts as having none. -/
def onGrid? (m : Nat) (e k : Int) : Option Magnitude :=
  let e := e - 2
  let unit := tenTo k.toNat <<< (-e).toNat
  let scale := tenTo (-k).toNat <<< e.toNat
  let value := 4 * m * scale
  let low := (4 * m - if m = Binary64.mantissaLimit ∧ -1076 < e then 1 else 2) * scale
  let high := (4 * m + 2) * scale
  let meets (c : Nat) : Bool :=
    if m % 2 = 0 then low ≤ c * unit && c * unit ≤ high
    else low < c * unit && c * unit < high
  let c := value / unit
  if c = 0 then none
  else
    let down := value - c * unit
    let up := (c + 1) * unit - value
    let pickUp := up < down || (up == down && c % 2 == 1)
    if meets c && meets (c + 1) then some ⟨if pickUp then c + 1 else c, k⟩
    else if meets c then some ⟨c, k⟩
    else if meets (c + 1) then some ⟨c + 1, k⟩
    else none

/-- A decimal whose last digit is zero, written without that digit. -/
def Magnitude.reduced (d : Magnitude) : Magnitude :=
  if d.digits % 10 = 0 then ⟨d.digits / 10, d.exponent + 1⟩ else d

/-- **The shortest decimal** that rounds to `m · 2 ^ e`, for `m` above
zero. The first grid tried is coarser than the double; the ones after it
reach seventeen digits. The coarsest grid that counts has one digit, and
ten there is one of the next grid. -/
def shortest (m : Nat) (e : Int) : Magnitude :=
  let top := ((m.log2 : Int) + e) * 30103 / 100000 + 2
  let hit := (List.range 22).findSome? fun (i : Nat) => onGrid? m e (top - i)
  (hit.getD ⟨m, e⟩).reduced

/-- **Where positional notation ends**: the powers of ten of the leading
digit, from `least` up to `greatest`, that are written without one. -/
structure Positional where
  /-- The smallest power written positionally. -/
  least : Int
  /-- The largest power written positionally. -/
  greatest : Int

/-- **Numbers in a report** are positional from `0.00001` up to sixteen
digits before the point. -/
def reportNotation : Positional := ⟨-5, 15⟩

/-- The text of a decimal magnitude. Positional text always has a point;
with a power of ten there is one digit before the point, no point after a
single digit, and the sign of the power is always written. -/
def Magnitude.text (style : Positional) (d : Magnitude) : List Char :=
  let digits := naturalText d.digits
  let leading := d.exponent + digits.length - 1
  if style.least ≤ leading ∧ leading ≤ style.greatest then
    if 0 ≤ d.exponent then digits ++ List.replicate d.exponent.toNat '0' ++ ['.', '0']
    else if 0 ≤ leading then
      digits.take (leading.toNat + 1) ++ '.' :: digits.drop (leading.toNat + 1)
    else '0' :: '.' :: List.replicate (-leading - 1).toNat '0' ++ digits
  else
    let head := match digits with
      | first :: [] => [first]
      | first :: rest => first :: '.' :: rest
      | [] => []
    head ++ 'e' :: (if leading < 0 then '-' else '+') :: naturalText leading.natAbs

/-- **The text of a finite double.** Zero is `0.0`, and the sign of a
negative zero is kept. -/
def finiteText (style : Positional) (x : Float) : List Char :=
  let (m, e) := Binary64.parts x
  let text := if m = 0 then ['0', '.', '0'] else (shortest m e).text style
  if Binary64.isNegative x then '-' :: text else text

end TableProfile.Number
