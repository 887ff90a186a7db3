import TableProfile.Error
import TableProfile.Number.Binary64
import TableProfile.Random.ChaCha

/-!
# A sample of bounded size

A reservoir keeps a uniform sample of the numbers added to it, in
ascending order, together with their exact number, sum and extremes. As
long as it has room it keeps every number. Beyond that, the number added
as the `n`-th replaces the sample at rank `j`, where `j` is drawn from the
numbers below `n` and ranks beyond the sample replace nothing. The draw
is an argument: a reservoir is a function of what is added and drawn, and
`Sampler` is the reservoir that draws for itself.

The values may be of any type with arithmetic and an order. They are
doubles when a table is profiled. A double that is not a number comes
before and after nothing, so it has no place in the order; it is kept
where a search for its place ends.

A quartile is the value at its rank among the samples, interpolated
between two neighbours and never beyond the first or the last sample.
With `k` samples the rank of the `q`-th quartile is `q · (k + 1) / 4`.
-/

namespace TableProfile

/-- **The values that can be sampled**: arithmetic, an order, and whether
a value takes part in the order. -/
class Quantity (α : Type) extends Add α, Sub α, Mul α, Div α where
  /-- The value of a natural number. -/
  ofNat : Nat → α
  /-- The strict order. -/
  before : α → α → Bool
  /-- Whether a value takes part in the order. -/
  isNumber : α → Bool

/-- Doubles, in the order of the doubles that are numbers. -/
instance : Quantity Float where
  ofNat := Number.Binary64.ofNat
  before := Number.Binary64.before
  isNumber := Number.Binary64.isNumber

/-- Exact fractions. -/
instance : Quantity Rat where
  ofNat n := n
  before x y := x < y
  isNumber _ := true

/-- **A sample of bounded size** and the exact summary beside it. -/
structure Reservoir (α : Type) where
  /-- The largest size of the sample. -/
  capacity : Nat
  /-- The sample, in ascending order. -/
  samples : Array α := #[]
  /-- How many values were added. -/
  count : Nat := 0
  /-- The sum of the values added, from the first to the last. -/
  sum : α
  /-- The smallest value added. -/
  lowest : Option α := none
  /-- The largest value added. -/
  highest : Option α := none
  /-- A reservoir has room for at least one value. -/
  capacity_pos : 0 < capacity

/-- The error of a reservoir without room. -/
def ProfileError.emptyReservoir : ProfileError :=
  .configuration "numeric stats reservoir size must be greater than zero"

namespace Reservoir

variable {α : Type} [Quantity α]

open Quantity

/-- A reservoir of a given size. -/
def ofCapacity (capacity : Nat) : Except ProfileError (Reservoir α) :=
  if h : 0 < capacity then .ok { capacity, sum := ofNat 0, capacity_pos := h }
  else .error .emptyReservoir

/-- The search for the place of a value narrows a stretch of the sample,
`size` long from `base` on, and looks at its middle. -/
def narrow (samples : Array α) (value : α) (base size : Nat) (h : base + size ≤ samples.size) :
    Nat :=
  if long : 1 < size then
    let half := size / 2
    let middle := base + half
    have reached : middle < samples.size := by omega
    let next := if before samples[middle] value then middle else base
    narrow samples value next (size - half) (by
      simp only [next]
      split <;> omega)
  else if one : size = 1 then
    have inside : base < samples.size := by omega
    if before samples[base] value then base + 1 else base
  else base
termination_by size

/-- **The place of a value**: how many samples come before it. -/
def rank (samples : Array α) (value : α) : Nat :=
  narrow samples value 0 samples.size (by omega)

/-- A place is within the sample or at its end. -/
theorem narrow_le (samples : Array α) (value : α) (base size : Nat)
    (h : base + size ≤ samples.size) : narrow samples value base size h ≤ base + size := by
  fun_induction narrow samples value base size h with
  | case1 base size h long half middle reached next ih =>
    have bound : next ≤ base + half := by simp only [next]; split <;> omega
    omega
  | case2 => omega
  | case3 => omega
  | case4 => omega

/-- A place is within the sample or at its end. -/
theorem rank_le (samples : Array α) (value : α) : rank samples value ≤ samples.size := by
  have := narrow_le samples value 0 samples.size (by omega)
  simpa [rank] using this

/-- The smaller of two values, and the only one of one. -/
def lower (least : Option α) (value : α) : Option α :=
  match least with
  | none => if isNumber value then some value else none
  | some least => some (if before value least then value else least)

/-- The larger of two values, and the only one of one. -/
def higher (greatest : Option α) (value : α) : Option α :=
  match greatest with
  | none => if isNumber value then some value else none
  | some greatest => some (if before greatest value then value else greatest)

/-- The sample with a value added at its place. -/
def inserted (samples : Array α) (value : α) : Array α :=
  samples.insertIdx (rank samples value) value (rank_le samples value)

/-- **The sample with the value at rank `victim` replaced.** The samples
between the two places move by one towards the gap. -/
def replaced (samples : Array α) (victim : Nat) (h : victim < samples.size) (value : α) :
    Array α :=
  let place := rank samples value
  have bound : place ≤ samples.size := rank_le samples value
  (samples.eraseIdx victim h).insertIdx (if place ≤ victim then place else place - 1) value (by
    rw [Array.size_eraseIdx]
    split <;> omega)

/-- Whether the sample has room for another value. -/
def hasRoom (r : Reservoir α) : Bool :=
  r.samples.size < r.capacity

/-- The sample after a value is added, with the draw `j` in case it has no
room. -/
def resampled (r : Reservoir α) (value : α) (j : Nat) : Array α :=
  if r.hasRoom then inserted r.samples value
  else if h : j < r.samples.size then replaced r.samples j h value
  else r.samples

/-- **Adds a value**, with the draw `j` in case the sample has no room. -/
def add (r : Reservoir α) (value : α) (j : Nat) : Reservoir α :=
  { r with
    samples := r.resampled value j
    count := r.count + 1
    sum := r.sum + value
    lowest := lower r.lowest value
    highest := higher r.highest value }

/-- The number of samples. -/
def size (r : Reservoir α) : Nat :=
  r.samples.size

/-- **Whether values were left out of the sample.** -/
def leavesOut (r : Reservoir α) : Bool :=
  r.capacity < r.count

/-- **The `q`-th quartile** of the sample, if it is not empty. -/
def quartile? (r : Reservoir α) (q : Nat) : Option α :=
  let k := r.samples.size
  let place := q * (k + 1)
  let lower := place / 4
  if k ≤ 1 || lower < 1 then r.samples[0]?
  else if k ≤ lower then r.samples[k - 1]?
  else match r.samples[lower - 1]?, r.samples[lower]? with
    | some below, some above => some (below + ofNat (place % 4) / ofNat 4 * (above - below))
    | _, _ => none

/-- The mean of all values added, if there are any. -/
def mean? (r : Reservoir α) : Option α :=
  if r.count = 0 then none else some (r.sum / ofNat r.count)

/-- The mean of the sample. -/
def sampleMean (r : Reservoir α) : α :=
  r.samples.foldl (· + ·) (ofNat 0) / ofNat r.samples.size

/-- **The variance of the sample**, if it has two values at least. -/
def variance? (r : Reservoir α) : Option α :=
  if r.samples.size < 2 then none
  else
    let mean := r.sampleMean
    let squares := r.samples.foldl (fun sum x => sum + (x - mean) * (x - mean)) (ofNat 0)
    some (squares / ofNat (r.samples.size - 1))

end Reservoir

namespace Reservoir

open Number

/-- The smallest value added; infinite if none of them is a number, and
not a number if there are none. -/
def minimum (r : Reservoir Float) : Float :=
  if r.count = 0 then Binary64.notANumber else r.lowest.getD Binary64.infinity

/-- The largest value added; infinite if none of them is a number, and
not a number if there are none. -/
def maximum (r : Reservoir Float) : Float :=
  if r.count = 0 then Binary64.notANumber else r.highest.getD Binary64.negativeInfinity

/-- The mean of all values added. -/
def mean (r : Reservoir Float) : Float :=
  r.mean?.getD Binary64.notANumber

/-- The standard deviation of the sample. -/
def standardDeviation (r : Reservoir Float) : Float :=
  match r.variance? with
  | some variance => variance.sqrt
  | none => Binary64.notANumber

/-- A quartile of the sample. -/
def quartile (r : Reservoir Float) (q : Nat) : Float :=
  (r.quartile? q).getD Binary64.notANumber

end Reservoir

/-- **A reservoir that draws for itself.** -/
structure Sampler where
  /-- The reservoir. -/
  reservoir : Reservoir Float
  /-- Where its draws come from. -/
  generator : Random.Generator

namespace Sampler

/-- A sampler of a given size with the draws of a seed. -/
def ofSeed (capacity : Nat) (seed : UInt64) : Except ProfileError Sampler :=
  return { reservoir := ← Reservoir.ofCapacity capacity, generator := .ofSeed seed }

/-- **Adds a value.** A draw is made only when the sample has no room. -/
def add (s : Sampler) (value : Float) : Sampler :=
  if s.reservoir.hasRoom then { s with reservoir := s.reservoir.add value 0 }
  else
    let (j, generator) := s.generator.below (s.reservoir.count + 1)
    { reservoir := s.reservoir.add value j, generator }

end Sampler

end TableProfile
