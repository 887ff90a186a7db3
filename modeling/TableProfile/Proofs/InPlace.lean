import Mathlib.Data.List.Basic
import TableProfile.Reservoir

/-!
# Replacing a sample within the array

What a replacement does to a sample is said in two strokes: one sample is
taken out, and a value is put in. Within the array it is one shift: the
samples between the two places move by one, towards the gap, and the value is
written where they left. The shift copies a slice onto a slice that overlaps
it, in one direction or the other, and the slice, its copy and the place of
the value all have to lie within the array.

They always do, whatever the sample, and what comes out is the replacement
(`shifted?_eq_replaced`).
-/

namespace TableProfile

namespace Reservoir

section Slices

variable {α : Type}

/-- **A slice copied within an array**: the values from `first` on and before
`last` are written from `target` on. There is no such copy if the slice or the
place it is copied to leaves the array. -/
def copiedWithin? (values : Array α) (first last target : Nat) : Option (Array α) :=
  if first ≤ last ∧ last ≤ values.size ∧ target + (last - first) ≤ values.size then
    some (values.extract 0 target ++ values.extract first last
      ++ values.extract (target + (last - first)) values.size)
  else none

/-- A value written at a place of the array. -/
def writtenAt? (values : Array α) (place : Nat) (value : α) : Option (Array α) :=
  if h : place < values.size then some (values.set place value) else none

/-- **A copy within bounds** keeps all values but those it is written over. -/
theorem exists_copiedWithin? (values : Array α) (first last target : Nat) (slice : first ≤ last)
    (inside : last ≤ values.size) (fits : target + (last - first) ≤ values.size) :
    ∃ copied, copiedWithin? values first last target = some copied
      ∧ copied.size = values.size
      ∧ ∀ i : Nat, copied[i]? =
        if target ≤ i ∧ i < target + (last - first) then values[first + (i - target)]?
        else values[i]? := by
  have hfront : (values.extract 0 target).size = target := by
    rw [Array.size_extract]
    omega
  have hslice : (values.extract first last).size = last - first := by
    rw [Array.size_extract]
    omega
  refine ⟨_, if_pos ⟨slice, inside, fits⟩, ?_, fun i => ?_⟩
  · rw [Array.size_append, Array.size_append, hfront, hslice, Array.size_extract]
    omega
  · rw [Array.getElem?_append, Array.size_append, hfront, hslice, Array.getElem?_append, hfront,
      Array.getElem?_extract, Array.getElem?_extract, Array.getElem?_extract]
    grind

end Slices

variable {α : Type} [Quantity α]

/-- **The replacement as a shift within the array.** -/
def shifted? (samples : Array α) (victim : Nat) (value : α) : Option (Array α) :=
  let place := rank samples value
  if place ≤ victim then
    (copiedWithin? samples place victim (place + 1)).bind (writtenAt? · place value)
  else
    (copiedWithin? samples (victim + 1) place victim).bind (writtenAt? · (place - 1) value)

/-- **The shift never leaves the array**, and it is the replacement. -/
theorem shifted?_eq_replaced (samples : Array α) {victim : Nat} (h : victim < samples.size)
    (value : α) : shifted? samples victim value = some (replaced samples victim h value) := by
  have hle := rank_le samples value
  unfold shifted? replaced
  by_cases hplace : rank samples value ≤ victim
  · -- the samples from the place of the value on move up to the one taken out
    obtain ⟨copied, hcopied, hsize, hget⟩ := exists_copiedWithin? samples _ victim
      (rank samples value + 1) hplace (Nat.le_of_lt h) (by omega)
    simp only [if_pos hplace, hcopied, Option.bind_some, writtenAt?]
    rw [dif_pos (by omega)]
    refine congrArg some (Array.ext_getElem? fun i => ?_)
    rw [Array.getElem?_set, hget, Array.getElem?_insertIdx, Array.getElem?_eraseIdx]
    grind
  · -- the samples behind the one taken out move down to the place of the value
    obtain ⟨copied, hcopied, hsize, hget⟩ := exists_copiedWithin? samples (victim + 1)
      _ victim (Nat.lt_of_not_le hplace) hle (by omega)
    simp only [if_neg hplace, hcopied, Option.bind_some, writtenAt?]
    rw [dif_pos (by omega)]
    refine congrArg some (Array.ext_getElem? fun i => ?_)
    rw [Array.getElem?_set, hget, Array.getElem?_insertIdx, Array.getElem?_eraseIdx]
    grind

end Reservoir

end TableProfile
