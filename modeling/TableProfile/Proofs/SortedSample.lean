import Mathlib.Data.List.Sort
import TableProfile.Reservoir

/-!
# The order of a sample

A sample is kept in ascending order, and the place of a value in it is found
by halving. The search is right for any array in which the samples that come
before the value stand in front of all others (`before_getElem_iff`); it does
not have to know why they do.

Numbers in ascending order are such an array, whatever the value. They may be
doubles or exact fractions: what is used of them is that of two numbers one
comes before the other unless the other is up to it (`OrderedQuantity`). A
value added is then where an insertion into the sorted list puts it
(`toList_inserted`), and a value that replaces the sample of some rank where
an insertion puts it once that sample is taken out (`toList_replaced`). The
place is looked up while the sample is still there, so that a place behind it
moves by one.
-/

namespace TableProfile

namespace Number.Binary64

/-- **One double is up to another**: it comes before it or stands at the same
place, as the two zeros do. -/
def UpTo (x y : Float) : Prop :=
  place x ≤ place y

instance : DecidableRel UpTo :=
  fun x y => inferInstanceAs (Decidable (place x ≤ place y))

instance : IsTrans Float UpTo :=
  ⟨fun _ _ _ => le_trans⟩

instance : Std.Total UpTo :=
  ⟨fun x y => le_total (place x) (place y)⟩

/-- Of two numbers, one comes before the other unless the other is up to
it. -/
theorem before_iff {x y : Float} (hx : isNumber x = true) (hy : isNumber y = true) :
    before x y = true ↔ ¬ UpTo y x := by
  unfold before UpTo
  rw [hx, hy, Bool.true_and, Bool.true_and, decide_eq_true_iff, Int.not_le]

end Number.Binary64

/-- **A quantity whose numbers are in order.** -/
class OrderedQuantity (α : Type) [Quantity α] where
  /-- One value comes before another, or stands at the same place. -/
  upTo : α → α → Prop
  /-- It can be decided. -/
  decidableRel_upTo : DecidableRel upTo
  /-- What is up to a value is up to all that value is up to. -/
  isTrans_upTo : IsTrans α upTo
  /-- Of two values, one is up to the other. -/
  total_upTo : Std.Total upTo
  /-- Of two numbers, one comes before the other unless the other is up to it. -/
  before_iff : ∀ {x y : α}, Quantity.isNumber x = true → Quantity.isNumber y = true →
    (Quantity.before x y = true ↔ ¬ upTo y x)

attribute [reducible] OrderedQuantity.decidableRel_upTo

attribute [instance] OrderedQuantity.decidableRel_upTo OrderedQuantity.isTrans_upTo
  OrderedQuantity.total_upTo

instance : OrderedQuantity Float where
  upTo := Number.Binary64.UpTo
  decidableRel_upTo := inferInstance
  isTrans_upTo := inferInstance
  total_upTo := inferInstance
  before_iff := Number.Binary64.before_iff

instance : OrderedQuantity Rat where
  upTo := (· ≤ ·)
  decidableRel_upTo := inferInstance
  isTrans_upTo := ⟨fun _ _ _ => Rat.le_trans⟩
  total_upTo := ⟨fun _ _ => Rat.le_total⟩
  before_iff _ _ := decide_eq_true_iff.trans Rat.not_le.symm

namespace Reservoir

/-! ## The search -/

section Search

open Quantity

variable {α : Type} [Quantity α]

/-- **The samples that come before a value stand in front of all others.** -/
def PartedAt (samples : Array α) (value : α) : Prop :=
  ∀ (i j : Nat) (hi : i < samples.size) (hj : j < samples.size), i ≤ j →
    before samples[j] value = true → before samples[i] value = true

variable {samples : Array α} {value : α}

/-- **The stretch that is searched** keeps the place within it: what is in
front of the stretch comes before the value, and what is behind it does not. -/
theorem before_iff_lt_narrow (parted : PartedAt samples value) (base size : Nat)
    (h : base + size ≤ samples.size)
    (front : ∀ i (hi : i < samples.size), i < base → before samples[i] value = true)
    (behind : ∀ i (hi : i < samples.size), base + size ≤ i → before samples[i] value = false) :
    ∀ i (hi : i < samples.size),
      before samples[i] value = true ↔ i < narrow samples value base size h := by
  fun_induction narrow samples value base size h with
  | case1 base size h long half middle reached next ih =>
    -- halving keeps the half that the value before its middle points to
    refine ih (fun i hi hlt => ?_) (fun i hi hle => ?_)
    · by_cases hmiddle : before samples[middle] value = true
      · have hnext : next = middle := if_pos hmiddle
        exact parted i middle hi reached (hnext ▸ hlt).le hmiddle
      · have hnext : next = base := if_neg hmiddle
        exact front i hi (hnext ▸ hlt)
    · by_cases hmiddle : before samples[middle] value = true
      · have hnext : next = middle := if_pos hmiddle
        refine behind i hi ?_
        omega
      · have hnext : next = base := if_neg hmiddle
        have hle' : middle ≤ i := by omega
        exact Bool.eq_false_iff.mpr fun hi' => hmiddle (parted middle i reached hi hle' hi')
  | case2 base h short inside hbase =>
    intro i hi
    refine ⟨fun hbefore => ?_, fun hlt => ?_⟩
    · by_contra hle
      rw [behind i hi (Nat.not_lt.mp hle)] at hbefore
      exact Bool.false_ne_true hbefore
    · rcases Nat.lt_succ_iff_lt_or_eq.mp hlt with hlt | rfl
      · exact front i hi hlt
      · exact hbase
  | case3 base h short inside hbase =>
    intro i hi
    refine ⟨fun hbefore => ?_, front i hi⟩
    by_contra hle
    exact hbase (parted base i inside hi (Nat.not_lt.mp hle) hbefore)
  | case4 base size h short other =>
    intro i hi
    refine ⟨fun hbefore => ?_, front i hi⟩
    by_contra hle
    rw [behind i hi (by omega)] at hbefore
    exact Bool.false_ne_true hbefore

/-- **The place of a value**: the samples in front of it are those that come
before it. -/
theorem before_getElem_iff (parted : PartedAt samples value) (i : Nat) (hi : i < samples.size) :
    before samples[i] value = true ↔ i < rank samples value := by
  refine before_iff_lt_narrow parted 0 samples.size _ (fun i _ hlt => ?_) (fun i hi hle => ?_) i hi
  · exact absurd hlt (Nat.not_lt_zero i)
  · rw [Nat.zero_add] at hle
    exact absurd hi hle.not_gt

end Search

/-! ## Numbers in ascending order -/

open Quantity OrderedQuantity

variable {α : Type} [Quantity α] [OrderedQuantity α]

/-- **Numbers in ascending order.** -/
structure IsAscending (list : List α) : Prop where
  /-- All of them are numbers. -/
  numbers : ∀ x ∈ list, isNumber x = true
  /-- Each is up to those after it. -/
  pairwise : list.Pairwise upTo

theorem isAscending_nil : IsAscending ([] : List α) :=
  ⟨fun _ h => absurd h List.not_mem_nil, .nil⟩

theorem IsAscending.eraseIdx {list : List α} (h : IsAscending list) (i : Nat) :
    IsAscending (list.eraseIdx i) :=
  ⟨fun x hx => h.numbers x (List.mem_of_mem_eraseIdx hx), h.pairwise.eraseIdx i⟩

theorem IsAscending.orderedInsert {list : List α} (h : IsAscending list) {value : α}
    (number : isNumber value = true) : IsAscending (list.orderedInsert upTo value) where
  numbers x hx := by
    rcases (List.mem_orderedInsert upTo).mp hx with rfl | hx
    · exact number
    · exact h.numbers x hx
  pairwise := List.Pairwise.orderedInsert value list h.pairwise

/-- Numbers in ascending order are parted at any value. -/
theorem IsAscending.partedAt {samples : Array α} (h : IsAscending samples.toList)
    {value : α} (number : isNumber value = true) : PartedAt samples value := by
  intro i j hi hj hij
  have hmem : ∀ k (hk : k < samples.size), isNumber samples[k] = true :=
    fun k hk => h.numbers _ (Array.getElem_mem_toList hk)
  show before samples[j] value = true → before samples[i] value = true
  rw [before_iff (hmem j hj) number, before_iff (hmem i hi) number]
  rcases Nat.lt_or_eq_of_le hij with hlt | rfl
  · have hup : upTo samples[i] samples[j] := List.pairwise_iff_getElem.mp h.pairwise i j hi hj hlt
    exact fun hj' hi' => hj' (IsTrans.trans _ _ _ hi' hup)
  · exact id

/-- **To insert at the place of a value is to insert in order.** -/
theorem insertIdx_eq_orderedInsert {list : List α} {value : α} {place : Nat}
    (h : ∀ i (hi : i < list.length), ¬ upTo value list[i] ↔ i < place)
    (hplace : place ≤ list.length) :
    list.insertIdx place value = list.orderedInsert upTo value := by
  induction list generalizing place with
  | nil =>
    obtain rfl := Nat.le_zero.mp hplace
    rfl
  | cons x rest ih =>
    rw [List.orderedInsert_cons]
    have hx : ¬ upTo value x ↔ 0 < place := h 0 (Nat.zero_lt_succ _)
    by_cases hup : upTo value x
    · obtain rfl : place = 0 := Nat.eq_zero_of_not_pos fun hpos => hx.mpr hpos hup
      rw [if_pos hup]
      rfl
    · obtain ⟨place, rfl⟩ := Nat.exists_eq_succ_of_ne_zero (hx.mp hup).ne'
      rw [if_neg hup, List.insertIdx_succ_cons]
      refine congrArg (x :: ·) (ih (fun i hi => ?_) (Nat.le_of_succ_le_succ hplace))
      exact (h (i + 1) (Nat.succ_lt_succ hi)).trans Nat.succ_lt_succ_iff

variable {samples : Array α} {value : α}

/-- The place of a number in an ascending sample, in terms of the order. -/
theorem not_upTo_iff_lt_rank (h : IsAscending samples.toList) (number : isNumber value = true)
    (i : Nat) (hi : i < samples.toList.length) :
    ¬ upTo value samples.toList[i] ↔ i < rank samples value := by
  rw [← before_iff (h.numbers _ (List.getElem_mem hi)) number]
  exact before_getElem_iff (h.partedAt number) i hi

/-- **A value added is inserted in order.** -/
theorem toList_inserted (h : IsAscending samples.toList) (number : isNumber value = true) :
    (inserted samples value).toList = samples.toList.orderedInsert upTo value := by
  unfold inserted
  rw [Array.toList_insertIdx]
  exact insertIdx_eq_orderedInsert (not_upTo_iff_lt_rank h number) (rank_le samples value)

/-- **A value that replaces a sample** is inserted in order, once the sample is
taken out. -/
theorem toList_replaced (h : IsAscending samples.toList) (number : isNumber value = true)
    {victim : Nat} (hvictim : victim < samples.size) :
    (replaced samples victim hvictim value).toList
      = (samples.toList.eraseIdx victim).orderedInsert upTo value := by
  have hle := rank_le samples value
  unfold replaced
  rw [Array.toList_insertIdx, Array.toList_eraseIdx]
  refine insertIdx_eq_orderedInsert (fun i hi => ?_) ?_
  · rw [List.getElem_eraseIdx]
    split
    · rw [not_upTo_iff_lt_rank h number]
      split <;> omega
    · rw [not_upTo_iff_lt_rank h number]
      split <;> omega
  · rw [List.length_eraseIdx_of_lt hvictim, Array.length_toList]
    split <;> omega

end Reservoir

end TableProfile
