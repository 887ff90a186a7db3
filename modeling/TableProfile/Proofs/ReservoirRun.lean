import Mathlib.Data.List.Perm.Subperm
import TableProfile.Proofs.Draws
import TableProfile.Proofs.InPlace
import TableProfile.Proofs.SortedSample

/-!
# What a reservoir keeps of the values added to it

Numbers are added to a reservoir one after the other, and nothing is known of
the draws. At each moment the reservoir then knows how many there were and
which were the smallest and the largest, and its samples are some of them, in
ascending order: all of them as long as they fit, and as many as fit
afterwards.

One value keeps it so (`IsSampleOf.add`), hence so do all (`IsSampleOf.addAll`).
What a value does to a full sample is said exactly: it is passed over, or it
takes the place of the sample whose rank was drawn, in the order of the
others, by one shift within the array (`samples_add_of_full`).
-/

namespace TableProfile

namespace Reservoir

section Quantities

open Quantity OrderedQuantity

variable {α : Type} [Quantity α]

/-- **Adds values**, each with the draw for it. -/
def addAll (r : Reservoir α) (steps : List (α × Nat)) : Reservoir α :=
  steps.foldl (fun r step => r.add step.1 step.2) r

theorem capacity_addAll (r : Reservoir α) (steps : List (α × Nat)) :
    (r.addAll steps).capacity = r.capacity := by
  induction steps generalizing r with
  | nil => rfl
  | cons step rest ih => exact ih (r.add step.1 step.2)

/-! ## Extremes -/

/-- **The first of all values** in an order of the numbers, if there are
any. -/
def IsExtreme (R : α → α → Prop) (values : List α) : Option α → Prop
  | none => values = []
  | some x => x ∈ values ∧ isNumber x = true ∧ ∀ y ∈ values, R x y

theorem IsExtreme.getD {R : α → α → Prop} {values : List α} {extreme : Option α}
    (h : IsExtreme R values extreme) (hne : values ≠ []) (other : α) :
    extreme.getD other ∈ values ∧ isNumber (extreme.getD other) = true
      ∧ ∀ y ∈ values, R (extreme.getD other) y := by
  cases extreme with
  | none => exact absurd h hne
  | some x => exact h

theorem IsExtreme.exists_eq_some {R : α → α → Prop} {values : List α} {extreme : Option α}
    (h : IsExtreme R values extreme) (hne : values ≠ []) :
    ∃ x, extreme = some x ∧ x ∈ values ∧ ∀ y ∈ values, R x y := by
  cases extreme with
  | none => exact absurd h hne
  | some x => exact ⟨x, rfl, h.1, h.2.2⟩

/-- **One more value** is the first of all if it comes before the one that
was. -/
theorem IsExtreme.concat {R : α → α → Prop} [IsTrans α R] [Std.Total R]
    (ahead : α → α → Bool)
    (hahead : ∀ {x y}, isNumber x = true → isNumber y = true → (ahead x y = true ↔ ¬ R y x))
    {values : List α} {extreme : Option α} (h : IsExtreme R values extreme)
    {value : α} (number : isNumber value = true) :
    IsExtreme R (values ++ [value]) (some (match extreme with
      | none => value
      | some x => if ahead value x then value else x)) := by
  have hrefl : R value value := (Std.Total.total value value).elim id id
  cases extreme with
  | none =>
    obtain rfl : values = [] := h
    exact ⟨List.mem_singleton_self _, number, fun y hy => (List.mem_singleton.mp hy) ▸ hrefl⟩
  | some x =>
    obtain ⟨hmem, hx, hfirst⟩ := h
    dsimp only
    by_cases hvalue : ahead value x = true
    · rw [if_pos hvalue]
      have hle : R value x := (Std.Total.total value x).resolve_right ((hahead number hx).mp hvalue)
      refine ⟨List.mem_append_right _ (List.mem_singleton_self _), number, fun y hy => ?_⟩
      rcases List.mem_append.mp hy with hy | hy
      · exact IsTrans.trans _ _ _ hle (hfirst y hy)
      · exact (List.mem_singleton.mp hy) ▸ hrefl
    · rw [if_neg hvalue]
      refine ⟨List.mem_append_left _ hmem, hx, fun y hy => ?_⟩
      rcases List.mem_append.mp hy with hy | hy
      · exact hfirst y hy
      · rw [List.mem_singleton.mp hy]
        exact not_not.mp (mt (hahead number hx).mpr hvalue)

variable [OrderedQuantity α]

theorem isExtreme_lower {values : List α} {least : Option α}
    (h : IsExtreme upTo values least) {value : α} (number : isNumber value = true) :
    IsExtreme upTo (values ++ [value]) (lower least value) := by
  have hnext := h.concat before before_iff number
  cases least with
  | none =>
    show IsExtreme upTo _ (if isNumber value then some value else none)
    rwa [if_pos number]
  | some least => exact hnext

theorem isExtreme_higher {values : List α} {greatest : Option α}
    (h : IsExtreme (flip upTo) values greatest) {value : α} (number : isNumber value = true) :
    IsExtreme (flip upTo) (values ++ [value]) (higher greatest value) := by
  have : IsTrans α (flip upTo) := ⟨fun _ _ _ hxy hyz => isTrans_upTo.trans _ _ _ hyz hxy⟩
  have : Std.Total (flip (upTo (α := α))) := ⟨fun x y => total_upTo.total y x⟩
  have hnext := h.concat (flip before) (fun hx hy => before_iff hy hx) number
  cases greatest with
  | none =>
    show IsExtreme _ _ (if isNumber value then some value else none)
    rwa [if_pos number]
  | some greatest => exact hnext

/-! ## One value -/

/-- **What a reservoir says of the values added to it.** -/
structure IsSampleOf (r : Reservoir α) (values : List α) : Prop where
  /-- Their number is exact. -/
  count : r.count = values.length
  /-- There are as many samples as values, up to the capacity. -/
  size : r.size = min values.length r.capacity
  /-- The samples are in ascending order. -/
  ascending : IsAscending r.samples.toList
  /-- The samples are some of the values. -/
  subperm : r.samples.toList.Subperm values
  /-- The smallest of them is known. -/
  lowest : IsExtreme upTo values r.lowest
  /-- The largest of them is known. -/
  highest : IsExtreme (flip upTo) values r.highest

variable {r : Reservoir α} {values : List α}

/-- **The samples after a value is added** to a reservoir with room. -/
theorem samples_add_of_hasRoom (ascending : IsAscending r.samples.toList)
    (room : r.size < r.capacity) {value : α} (number : isNumber value = true) (j : Nat) :
    (r.add value j).samples.toList = r.samples.toList.orderedInsert upTo value := by
  have hroom : r.hasRoom = true := decide_eq_true room
  show (r.resampled value j).toList = _
  unfold resampled
  rw [if_pos hroom]
  exact toList_inserted ascending number

/-- **The samples after a value is added** to a full reservoir: the value is
passed over, or it takes the place of the sample that was drawn. -/
theorem samples_add_of_full (ascending : IsAscending r.samples.toList)
    (full : r.size = r.capacity) {value : α} (number : isNumber value = true) (j : Nat) :
    (r.capacity ≤ j → (r.add value j).samples = r.samples)
      ∧ (j < r.capacity →
        (r.add value j).samples.toList
            = (r.samples.toList.eraseIdx j).orderedInsert upTo value
          ∧ shifted? r.samples j value = some (r.add value j).samples) := by
  have hroom : ¬ r.hasRoom = true := by
    unfold hasRoom
    rw [decide_eq_true_iff, Nat.not_lt]
    exact full.ge
  have hadd : (r.add value j).samples
      = if h : j < r.samples.size then replaced r.samples j h value else r.samples :=
    if_neg hroom
  rw [hadd, ← full]
  refine ⟨fun hle => dif_neg hle.not_gt, fun hlt => ?_⟩
  have hlt' : j < r.samples.size := hlt
  rw [dif_pos hlt']
  exact ⟨toList_replaced ascending number hlt', shifted?_eq_replaced r.samples hlt' value⟩

theorem isAscending_add (h : r.IsSampleOf values) {value : α}
    (number : isNumber value = true) (j : Nat) :
    IsAscending (r.add value j).samples.toList
      ∧ (r.add value j).samples.toList.Subperm (values ++ [value]) := by
  have hsub : (value :: r.samples.toList).Subperm (values ++ [value]) :=
    ((List.subperm_cons value).mpr h.subperm).trans
      (List.perm_append_singleton value values).symm.subperm
  rcases Nat.lt_or_eq_of_le (h.size.trans_le (Nat.min_le_right _ _)) with hroom | hfull
  · rw [samples_add_of_hasRoom h.ascending hroom number]
    exact ⟨h.ascending.orderedInsert number,
      (List.perm_orderedInsert upTo value _).subperm.trans hsub⟩
  · obtain ⟨hpast, hreplaced⟩ := samples_add_of_full h.ascending hfull number j
    rcases Nat.lt_or_ge j r.capacity with hj | hj
    · rw [(hreplaced hj).1]
      have herase : (value :: r.samples.toList.eraseIdx j).Subperm (value :: r.samples.toList) :=
        (List.subperm_cons value).mpr (List.eraseIdx_sublist _ _).subperm
      exact ⟨(h.ascending.eraseIdx j).orderedInsert number,
        (List.perm_orderedInsert upTo value _).subperm.trans (herase.trans hsub)⟩
    · rw [hpast hj]
      exact ⟨h.ascending, h.subperm.trans (List.sublist_append_left _ _).subperm⟩

/-- **One value keeps a reservoir a sample** of what was added to it, whatever
is drawn. -/
theorem IsSampleOf.add (h : r.IsSampleOf values) {value : α} (number : isNumber value = true)
    (j : Nat) : (r.add value j).IsSampleOf (values ++ [value]) where
  count := by
    rw [List.length_append, List.length_singleton]
    exact congrArg (· + 1) h.count
  size := by
    have hsize : r.samples.size = min values.length r.capacity := h.size
    show (r.resampled value j).size = min _ r.capacity
    rw [size_resampled, hsize, List.length_append, List.length_singleton]
    split <;> omega
  ascending := (isAscending_add h number j).1
  subperm := (isAscending_add h number j).2
  lowest := isExtreme_lower h.lowest number
  highest := isExtreme_higher h.highest number

/-- **Values keep a reservoir a sample** of what was added to it. -/
theorem IsSampleOf.addAll (h : r.IsSampleOf values) {steps : List (α × Nat)}
    (numbers : ∀ step ∈ steps, isNumber step.1 = true) :
    (r.addAll steps).IsSampleOf (values ++ steps.map Prod.fst) := by
  induction steps generalizing r values with
  | nil => rwa [List.map_nil, List.append_nil]
  | cons step rest ih =>
    have hrest := ih (h.add (numbers step List.mem_cons_self) step.2)
      fun s hs => numbers s (List.mem_cons_of_mem _ hs)
    rwa [List.append_assoc] at hrest

/-- A new reservoir is a sample of no values. -/
theorem isSampleOf_ofCapacity {capacity : Nat} (h : ofCapacity capacity = .ok r) :
    r.capacity = capacity ∧ r.IsSampleOf [] := by
  unfold ofCapacity at h
  split at h
  · obtain rfl := Except.ok.inj h
    exact ⟨rfl, rfl, (Nat.zero_min _).symm, isAscending_nil, .refl _, rfl, rfl⟩
  · cases h

/-- **What is added to a new reservoir** is what it is a sample of. -/
theorem isSampleOf_of_ofCapacity {capacity : Nat} (h : ofCapacity capacity = .ok r)
    {steps : List (α × Nat)} (numbers : ∀ step ∈ steps, isNumber step.1 = true) :
    (r.addAll steps).capacity = capacity ∧ (r.addAll steps).IsSampleOf (steps.map Prod.fst) := by
  obtain ⟨hcapacity, hnone⟩ := isSampleOf_ofCapacity h
  exact ⟨(capacity_addAll r steps).trans hcapacity, hnone.addAll numbers⟩

/-! ## What a sample is -/

namespace IsSampleOf

/-- A sample of as many values as fit is all of them. -/
theorem perm (h : r.IsSampleOf values) (fits : values.length ≤ r.capacity) :
    r.samples.toList.Perm values := by
  refine h.subperm.perm_of_length_le ?_
  have hsize := h.size
  rw [Nat.min_eq_left fits] at hsize
  exact hsize.ge

/-- A reservoir knows whether values were left out. -/
theorem leavesOut_iff (h : r.IsSampleOf values) :
    r.leavesOut = true ↔ r.size < values.length := by
  unfold leavesOut
  rw [decide_eq_true_iff, h.size, h.count]
  omega

end IsSampleOf

end Quantities

/-! ## Doubles -/

open Number Binary64

namespace IsSampleOf

variable {r : Reservoir Float} {values : List Float}

theorem minimum (h : r.IsSampleOf values) (hne : values ≠ []) :
    r.minimum ∈ values ∧ isNumber r.minimum = true ∧ ∀ x ∈ values, UpTo r.minimum x := by
  have hcount : r.count ≠ 0 := by
    rw [h.count]
    exact (List.length_pos_of_ne_nil hne).ne'
  unfold Reservoir.minimum
  rw [if_neg hcount]
  exact h.lowest.getD hne _

theorem maximum (h : r.IsSampleOf values) (hne : values ≠ []) :
    r.maximum ∈ values ∧ isNumber r.maximum = true ∧ ∀ x ∈ values, UpTo x r.maximum := by
  have hcount : r.count ≠ 0 := by
    rw [h.count]
    exact (List.length_pos_of_ne_nil hne).ne'
  unfold Reservoir.maximum
  rw [if_neg hcount]
  exact h.highest.getD hne _

end IsSampleOf

/-- **What a reservoir keeps of the values added to it**, whatever is drawn.
It can be made for any capacity above zero. -/
theorem isSampleOf_addAll (capacity : Nat) (room : 0 < capacity) :
    ∃ empty : Reservoir Float, ofCapacity capacity = .ok empty
      ∧ ∀ steps : List (Float × Nat), (∀ step ∈ steps, isNumber step.1 = true) →
        let r := empty.addAll steps
        let values := steps.map Prod.fst
        r.count = values.length
          ∧ r.size = min r.count capacity
          ∧ r.samples.toList.Pairwise UpTo
          ∧ r.samples.toList.Subperm values
          ∧ (r.count ≤ capacity → r.samples.toList.Perm values)
          ∧ (values ≠ [] → (r.minimum ∈ values ∧ ∀ x ∈ values, UpTo r.minimum x)
            ∧ r.maximum ∈ values ∧ ∀ x ∈ values, UpTo x r.maximum)
          ∧ (r.leavesOut = true ↔ r.size < values.length)
          ∧ (capacity ≤ r.count → ∀ value j, isNumber value = true →
            (capacity ≤ j → (r.add value j).samples = r.samples)
              ∧ (j < capacity →
                (r.add value j).samples.toList
                    = (r.samples.toList.eraseIdx j).orderedInsert UpTo value
                  ∧ shifted? r.samples j value = some (r.add value j).samples)) := by
  have hok : ∃ empty : Reservoir Float, ofCapacity capacity = .ok empty := ⟨_, dif_pos room⟩
  obtain ⟨empty, hempty⟩ := hok
  obtain ⟨hcapacity, hnone⟩ := isSampleOf_ofCapacity hempty
  refine ⟨empty, hempty, fun steps numbers => ?_⟩
  have h : (empty.addAll steps).IsSampleOf (steps.map Prod.fst) := hnone.addAll numbers
  have hcap : (empty.addAll steps).capacity = capacity :=
    (capacity_addAll empty steps).trans hcapacity
  have hsize := h.size
  rw [hcap, ← h.count] at hsize
  refine ⟨h.count, hsize, h.ascending.pairwise, h.subperm, fun fits => ?_, fun hne => ?_,
    h.leavesOut_iff, fun full value j number => ?_⟩
  · exact h.perm (by rwa [← h.count, hcap])
  · exact ⟨⟨(h.minimum hne).1, (h.minimum hne).2.2⟩, (h.maximum hne).1, (h.maximum hne).2.2⟩
  · have hfull : (empty.addAll steps).size = (empty.addAll steps).capacity := by
      rw [hsize, hcap, Nat.min_eq_right full]
    have hadd := samples_add_of_full h.ascending hfull number j
    rwa [hcap] at hadd

/-- A reservoir for two holds two values, and a third is drawn to take the
place of the larger one. -/
theorem isSampleOf_addAll_three :
    let steps : List (Float × Nat) := [(1.5, 0), (-2.0, 0)]
    0 < 2 ∧ (∀ step ∈ steps, isNumber step.1 = true) ∧ isNumber 1.0 = true ∧ 1 < 2
      ∧ ∃ empty : Reservoir Float, ofCapacity 2 = .ok empty
        ∧ (empty.addAll steps).count = 2
        ∧ (empty.addAll steps).samples.toList.Perm [1.5, -2.0]
        ∧ (empty.addAll steps).maximum ∈ steps.map Prod.fst
        ∧ ((empty.addAll steps).add 1.0 1).samples.toList
          = ((empty.addAll steps).samples.toList.eraseIdx 1).orderedInsert UpTo 1.0 := by
  intro steps
  have room : 0 < 2 := Nat.zero_lt_two
  have numbers : ∀ step ∈ steps, isNumber step.1 = true := by decide
  have number : isNumber 1.0 = true := by decide
  obtain ⟨empty, hempty, hall⟩ := isSampleOf_addAll 2 room
  obtain ⟨hcount, -, -, -, hperm, hextremes, -, hadd⟩ := hall steps numbers
  exact ⟨room, numbers, number, Nat.one_lt_two, empty, hempty, hcount, hperm hcount.le,
    (hextremes (List.cons_ne_nil _ _)).2.1,
    ((hadd hcount.ge 1.0 1 number).2 Nat.one_lt_two).1⟩

end Reservoir

end TableProfile
