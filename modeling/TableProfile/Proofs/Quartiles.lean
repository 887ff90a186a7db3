import Mathlib.Data.Rat.Cast.Order
import Mathlib.Tactic.Linarith
import Mathlib.Tactic.Ring
import TableProfile.Proofs.ReservoirRun

/-!
# The quartiles of a sample

A quartile is read off at a rank. The rank may lie in front of the first
sample, behind the last one or between two of them, and `IsAtRank` says which
value stands there in each of the cases. Over exact fractions the quartile of
every sample that is not empty is the value at its rank
(`isAtRank_quartile?`), so that no sample is asked for that does not exist.

Along values in ascending order a later rank never holds a smaller value
(`IsAtRank.mono`). Two ranks in the same gap are told apart by how far they
are into it, and two ranks in different gaps by a value between them. The
three quartiles therefore ascend, and no quartile leaves the samples, hence
none leaves the extremes of all values.

A sample of as many values as fit is those values in ascending order. There is
one such order of them, so the quartiles cannot tell in which order they came
(`IsSampleOf.samples_eq_of_perm`). Beyond the capacity this fails: which
values are left depends on the draws.
-/

namespace TableProfile

namespace Reservoir

/-! ## The value at a rank -/

/-- **The value at a rank** of values in a row. Ranks count from one and may
be fractions. -/
inductive IsAtRank (row : List Rat) (rank : Rat) : Rat → Prop
  /-- Up to the first rank it is the first value. -/
  | first {x : Rat} (hx : row.head? = some x) (before : rank ≤ 1) : IsAtRank row rank x
  /-- From the last rank on it is the last value. -/
  | last {x : Rat} (hx : row.getLast? = some x) (behind : (row.length : Rat) ≤ rank) :
      IsAtRank row rank x
  /-- Between two neighbours it is as far from the one to the other as the
  rank is. -/
  | between {i : Nat} {x y t : Rat} (hx : row[i]? = some x) (hy : row[i + 1]? = some y)
      (nonneg : 0 ≤ t) (lt_one : t < 1) (hrank : rank = i + 1 + t) :
      IsAtRank row rank (x + t * (y - x))

section Row

variable {row : List Rat} {rank later x y t : Rat}

/-- A value interpolated between two is not below the smaller one. -/
theorem le_interpolated (hxy : x ≤ y) (nonneg : 0 ≤ t) : x ≤ x + t * (y - x) :=
  le_add_of_nonneg_right (mul_nonneg nonneg (sub_nonneg.mpr hxy))

/-- A value interpolated between two is not above the larger one. -/
theorem interpolated_le (hxy : x ≤ y) (lt_one : t < 1) : x + t * (y - x) ≤ y := by
  have hgap : t * (y - x) ≤ y - x := mul_le_of_le_one_left (sub_nonneg.mpr hxy) lt_one.le
  linarith

theorem getElem?_le (ascending : row.Pairwise (· ≤ ·)) {i j : Nat} (hij : i ≤ j)
    (hx : row[i]? = some x) (hy : row[j]? = some y) : x ≤ y := by
  obtain ⟨hi, rfl⟩ := List.getElem?_eq_some_iff.mp hx
  obtain ⟨hj, rfl⟩ := List.getElem?_eq_some_iff.mp hy
  rcases Nat.lt_or_eq_of_le hij with hlt | rfl
  · exact List.pairwise_iff_getElem.mp ascending i j hi hj hlt
  · exact le_rfl

theorem head?_le (ascending : row.Pairwise (· ≤ ·)) (hx : row.head? = some x) :
    ∀ a ∈ row, x ≤ a := by
  intro a ha
  obtain ⟨i, hi⟩ := List.mem_iff_getElem?.mp ha
  rw [List.head?_eq_getElem?] at hx
  exact getElem?_le ascending (Nat.zero_le i) hx hi

theorem le_getLast? (ascending : row.Pairwise (· ≤ ·)) (hx : row.getLast? = some x) :
    ∀ a ∈ row, a ≤ x := by
  intro a ha
  obtain ⟨i, hi⟩ := List.mem_iff_getElem?.mp ha
  rw [List.getLast?_eq_getElem?] at hx
  obtain ⟨hlt, -⟩ := List.getElem?_eq_some_iff.mp hi
  exact getElem?_le ascending (Nat.le_sub_one_of_lt hlt) hi hx

namespace IsAtRank

/-- No rank holds less than all values. -/
theorem le_of_forall_le (h : IsAtRank row rank x) (ascending : row.Pairwise (· ≤ ·))
    {lowest : Rat} (hlowest : ∀ a ∈ row, lowest ≤ a) : lowest ≤ x := by
  cases h with
  | first hx before => exact hlowest x (List.mem_of_head? hx)
  | last hx behind => exact hlowest x (List.mem_of_getLast? hx)
  | between hx hy nonneg lt_one hrank =>
    exact (hlowest _ (List.mem_of_getElem? hx)).trans
      (le_interpolated (getElem?_le ascending (Nat.le_succ _) hx hy) nonneg)

/-- No rank holds more than all values. -/
theorem le_of_forall_ge (h : IsAtRank row rank x) (ascending : row.Pairwise (· ≤ ·))
    {highest : Rat} (hhighest : ∀ a ∈ row, a ≤ highest) : x ≤ highest := by
  cases h with
  | first hx before => exact hhighest x (List.mem_of_head? hx)
  | last hx behind => exact hhighest x (List.mem_of_getLast? hx)
  | between hx hy nonneg lt_one hrank =>
    exact (interpolated_le (getElem?_le ascending (Nat.le_succ _) hx hy) lt_one).trans
      (hhighest _ (List.mem_of_getElem? hy))

/-- **A later rank never holds a smaller value.** -/
theorem mono (hx : IsAtRank row rank x) (hy : IsAtRank row later y)
    (ascending : row.Pairwise (· ≤ ·)) (hle : rank ≤ later) : x ≤ y := by
  cases hx with
  | first hx before => exact hy.le_of_forall_le ascending (head?_le ascending hx)
  | last hx behind =>
    cases hy with
    | first hy before =>
      -- the first rank is the last one, so that there is one value
      have hone : row.length ≤ 1 := by exact_mod_cast behind.trans (hle.trans before)
      rw [List.getLast?_eq_getElem?, Nat.sub_eq_zero_of_le hone] at hx
      rw [List.head?_eq_getElem?] at hy
      exact getElem?_le ascending le_rfl hx hy
    | last hy behind' => exact (Option.some.inj (hx.symm.trans hy)).le
    | @between j _ _ u hy hy' nonneg lt_one hlater =>
      -- a rank between two values is in front of the last one
      obtain ⟨hlt, -⟩ := List.getElem?_eq_some_iff.mp hy'
      have hlast : (j : Rat) + 1 + 1 ≤ row.length := by exact_mod_cast hlt
      linarith
  | @between i _ _ t hx hx' nonneg lt_one hrank =>
    have hgap := getElem?_le ascending (Nat.le_succ i) hx hx'
    cases hy with
    | first hy before =>
      -- the rank is the first one
      have hzero : (i : Rat) = 0 ∧ t = 0 := by
        have hi : (0 : Rat) ≤ i := Nat.cast_nonneg i
        constructor <;> linarith
      obtain ⟨hi, rfl⟩ := hzero
      obtain rfl : i = 0 := Nat.cast_eq_zero.mp hi
      rw [List.head?_eq_getElem?] at hy
      rw [zero_mul, add_zero]
      exact getElem?_le ascending le_rfl hx hy
    | last hy behind =>
      exact (between hx hx' nonneg lt_one hrank).le_of_forall_ge ascending
        (le_getLast? ascending hy)
    | @between j _ _ u hy hy' nonneg' lt_one' hlater =>
      have hij : i ≤ j := by
        have hlt : (i : Rat) < j + 1 := by linarith
        exact Nat.le_of_lt_succ (by exact_mod_cast hlt)
      rcases Nat.lt_or_eq_of_le hij with hlt | rfl
      · calc _ ≤ _ := interpolated_le hgap lt_one
          _ ≤ _ := getElem?_le ascending hlt hx' hy
          _ ≤ _ := le_interpolated (getElem?_le ascending (Nat.le_succ j) hy hy') nonneg'
      · obtain rfl := Option.some.inj (hx.symm.trans hy)
        obtain rfl := Option.some.inj (hx'.symm.trans hy')
        have htu : t ≤ u := by linarith
        exact add_le_add_right (mul_le_mul_of_nonneg_right htu (sub_nonneg.mpr hgap)) _

/-- **A rank holds one value.** -/
theorem unique (hx : IsAtRank row rank x) (hy : IsAtRank row rank y)
    (ascending : row.Pairwise (· ≤ ·)) : x = y :=
  le_antisymm (hx.mono hy ascending le_rfl) (hy.mono hx ascending le_rfl)

end IsAtRank

end Row

/-! ## One sample -/

section Quarters

variable {row : List Rat} {rank x y : Rat} {place : Nat}

/-- A quarter of a number is a whole number and a fraction. -/
theorem quarter_eq (place : Nat) :
    (place : Rat) / 4 = ((place / 4 : Nat) : Rat) + ((place % 4 : Nat) : Rat) / 4 := by
  have hdiv : (place : Rat) = 4 * (place / 4 : Nat) + (place % 4 : Nat) := by
    exact_mod_cast (Nat.div_add_mod place 4).symm
  linarith

/-- Every rank holds the only value. -/
theorem isAtRank_of_length_le_one (hone : row.length ≤ 1) (hx : row.head? = some x) :
    IsAtRank row rank x := by
  have hlast : row.getLast? = some x := by
    rw [List.getLast?_eq_getElem?, Nat.sub_eq_zero_of_le hone, ← List.head?_eq_getElem?, hx]
  have hlength : (row.length : Rat) ≤ 1 := by exact_mod_cast hone
  rcases le_total rank 1 with hle | hle
  · exact .first hx hle
  · exact .last hlast (hlength.trans hle)

theorem isAtRank_of_quarter_lt (hx : row.head? = some x) (hfront : place / 4 < 1) :
    IsAtRank row ((place : Rat) / 4) x := by
  have hlt : (place : Rat) ≤ 4 := by
    have : place ≤ 4 := by omega
    exact_mod_cast this
  exact .first hx (by linarith)

theorem isAtRank_of_le_quarter (hx : row.getLast? = some x) (hbehind : row.length ≤ place / 4) :
    IsAtRank row ((place : Rat) / 4) x := by
  have hlt : (row.length : Rat) * 4 ≤ place := by
    have : row.length * 4 ≤ place := by omega
    exact_mod_cast this
  exact .last hx (by linarith)

theorem isAtRank_quarter (hinside : 1 ≤ place / 4) (hx : row[place / 4 - 1]? = some x)
    (hy : row[place / 4]? = some y) :
    IsAtRank row ((place : Rat) / 4) (x + ((place % 4 : Nat) : Rat) / 4 * (y - x)) := by
  have hmod : ((place % 4 : Nat) : Rat) < 4 := by
    exact_mod_cast Nat.mod_lt place (by decide)
  have hnonneg : (0 : Rat) ≤ ((place % 4 : Nat) : Rat) := Nat.cast_nonneg _
  obtain ⟨i, hi⟩ : ∃ i, place / 4 = i + 1 := ⟨place / 4 - 1, (Nat.sub_add_cancel hinside).symm⟩
  rw [hi, Nat.add_sub_cancel] at hx
  rw [hi] at hy
  refine .between hx hy (by linarith) (by linarith) ?_
  rw [quarter_eq, hi, Nat.cast_succ]

end Quarters

/-- **A quartile is the value at its rank**, whatever the samples are. -/
theorem isAtRank_quartile? (r : Reservoir Rat) (held : 0 < r.size) (q : Nat) :
    ∃ x, r.quartile? q = some x
      ∧ IsAtRank r.samples.toList ((q : Rat) / 4 * (r.size + 1)) x := by
  obtain ⟨place, hplace⟩ : ∃ place, place = q * (r.size + 1) := ⟨_, rfl⟩
  have hrank : (q : Rat) / 4 * (r.size + 1) = (place : Rat) / 4 := by
    rw [hplace]
    push_cast
    ring
  obtain ⟨first, hfirst⟩ : ∃ x, r.samples[0]? = some x := ⟨_, Array.getElem?_eq_getElem held⟩
  have hhead : r.samples.toList.head? = some first := by
    rw [List.head?_eq_getElem?, Array.getElem?_toList, hfirst]
  rw [hrank]
  unfold quartile?
  dsimp only
  rw [show r.samples.size = r.size from rfl, ← hplace]
  by_cases hone : r.size ≤ 1
  · refine ⟨first, ?_, isAtRank_of_length_le_one hone hhead⟩
    rw [if_pos (by simp [hone]), hfirst]
  by_cases hfront : place / 4 < 1
  · refine ⟨first, ?_, isAtRank_of_quarter_lt hhead hfront⟩
    rw [if_pos (by simp [hfront]), hfirst]
  rw [if_neg (by simp [hone, hfront])]
  by_cases hbehind : r.size ≤ place / 4
  · obtain ⟨last, hlast⟩ : ∃ x, r.samples[r.size - 1]? = some x :=
      ⟨_, Array.getElem?_eq_getElem (Nat.sub_one_lt held.ne')⟩
    refine ⟨last, (if_pos hbehind).trans hlast, isAtRank_of_le_quarter ?_ hbehind⟩
    rwa [List.getLast?_eq_getElem?, Array.getElem?_toList]
  · have hlt : place / 4 < r.samples.size := Nat.not_le.mp hbehind
    obtain ⟨below, hbelow⟩ : ∃ x, r.samples[place / 4 - 1]? = some x :=
      ⟨_, Array.getElem?_eq_getElem (Nat.lt_of_le_of_lt (Nat.sub_le _ _) hlt)⟩
    obtain ⟨above, habove⟩ : ∃ x, r.samples[place / 4]? = some x :=
      ⟨_, Array.getElem?_eq_getElem hlt⟩
    rw [if_neg hbehind, hbelow, habove]
    refine ⟨_, rfl, isAtRank_quarter (Nat.not_lt.mp hfront) ?_ ?_⟩
    · rwa [Array.getElem?_toList]
    · rwa [Array.getElem?_toList]

/-! ## The samples of a run -/

section Run

variable {r r' : Reservoir Rat} {values values' : List Rat}

theorem IsSampleOf.size_pos (h : r.IsSampleOf values) (hne : values ≠ []) : 0 < r.size := by
  rw [h.size]
  exact Nat.lt_min.mpr ⟨List.length_pos_of_ne_nil hne, r.capacity_pos⟩

/-- **The extremes of all values** are known. -/
theorem IsSampleOf.exists_extremes (h : r.IsSampleOf values) (hne : values ≠ []) :
    ∃ lowest highest, r.lowest = some lowest ∧ r.highest = some highest
      ∧ lowest ∈ values ∧ highest ∈ values ∧ ∀ x ∈ values, lowest ≤ x ∧ x ≤ highest := by
  obtain ⟨lowest, hlowest, hmem, hle⟩ := h.lowest.exists_eq_some hne
  obtain ⟨highest, hhighest, hmem', hge⟩ := h.highest.exists_eq_some hne
  exact ⟨lowest, highest, hlowest, hhighest, hmem, hmem', fun x hx => ⟨hle x hx, hge x hx⟩⟩

/-- **The quartiles of a sample** ascend between the extremes of all values. -/
theorem IsSampleOf.exists_quartiles (h : r.IsSampleOf values) (hne : values ≠ []) :
    ∃ lowest p25 p50 p75 highest,
      (r.lowest = some lowest ∧ r.highest = some highest)
      ∧ (lowest ∈ values ∧ highest ∈ values ∧ ∀ x ∈ values, lowest ≤ x ∧ x ≤ highest)
      ∧ (r.quartile? 1 = some p25 ∧ r.quartile? 2 = some p50 ∧ r.quartile? 3 = some p75)
      ∧ IsAtRank r.samples.toList (1 / 4 * (r.size + 1)) p25
      ∧ IsAtRank r.samples.toList (1 / 2 * (r.size + 1)) p50
      ∧ IsAtRank r.samples.toList (3 / 4 * (r.size + 1)) p75
      ∧ lowest ≤ p25 ∧ p25 ≤ p50 ∧ p50 ≤ p75 ∧ p75 ≤ highest := by
  have ascending : r.samples.toList.Pairwise (· ≤ ·) := h.ascending.pairwise
  have held := h.size_pos hne
  obtain ⟨lowest, highest, hlowest, hhighest, hextreme⟩ := h.exists_extremes hne
  have hwithin : ∀ x ∈ r.samples.toList, lowest ≤ x ∧ x ≤ highest :=
    fun x hx => hextreme.2.2 x (h.subperm.subset hx)
  obtain ⟨p25, h25, hrank25⟩ := r.isAtRank_quartile? held 1
  obtain ⟨p50, h50, hrank50⟩ := r.isAtRank_quartile? held 2
  obtain ⟨p75, h75, hrank75⟩ := r.isAtRank_quartile? held 3
  have hsize : (0 : Rat) ≤ r.size := Nat.cast_nonneg _
  rw [Nat.cast_one] at hrank25
  rw [show ((2 : Nat) : Rat) / 4 = 1 / 2 by norm_num] at hrank50
  rw [Nat.cast_ofNat] at hrank75
  exact ⟨lowest, p25, p50, p75, highest, ⟨hlowest, hhighest⟩, hextreme, ⟨h25, h50, h75⟩,
    hrank25, hrank50, hrank75,
    hrank25.le_of_forall_le ascending fun x hx => (hwithin x hx).1,
    hrank25.mono hrank50 ascending (by linarith),
    hrank50.mono hrank75 ascending (by linarith),
    hrank75.le_of_forall_ge ascending fun x hx => (hwithin x hx).2⟩

/-- **Samples of as many values as fit** do not depend on the order of the
values. -/
theorem IsSampleOf.samples_eq_of_perm (h : r.IsSampleOf values) (h' : r'.IsSampleOf values')
    (hperm : values'.Perm values) (fits : values.length ≤ r.capacity)
    (fits' : values'.length ≤ r'.capacity) : r'.samples = r.samples := by
  have hsamples : r'.samples.toList.Perm r.samples.toList :=
    (h'.perm fits').trans (hperm.trans (h.perm fits).symm)
  have antisymm : ∀ x y : Rat, x ∈ r'.samples.toList → y ∈ r.samples.toList →
      x ≤ y → y ≤ x → x = y := fun _ _ _ _ => le_antisymm
  exact Array.toList_inj.mp
    (hsamples.eq_of_pairwise antisymm h'.ascending.pairwise h.ascending.pairwise)

/-- The quartiles are read off the samples alone. -/
theorem quartile?_congr (h : r.samples = r'.samples) (q : Nat) :
    r.quartile? q = r'.quartile? q := by
  unfold quartile?
  rw [h]

end Run

/-- **The quartiles of the values added**, whatever is drawn. They are the
values at their ranks among the samples, ascend between the extremes of all
values, and as long as the values fit do not depend on their order. -/
theorem quartiles_addAll (capacity : Nat) (room : 0 < capacity) :
    ∃ empty : Reservoir Rat, ofCapacity capacity = .ok empty
      ∧ ∀ steps : List (Rat × Nat), steps ≠ [] →
        let r := empty.addAll steps
        let values := steps.map Prod.fst
        let row := r.samples.toList
        (r.size = min steps.length capacity ∧ row.Pairwise (· ≤ ·) ∧ row.Subperm values)
        ∧ (∃ lowest p25 p50 p75 highest,
          (r.lowest = some lowest ∧ r.highest = some highest)
          ∧ (lowest ∈ values ∧ highest ∈ values ∧ ∀ x ∈ values, lowest ≤ x ∧ x ≤ highest)
          ∧ (r.quartile? 1 = some p25 ∧ r.quartile? 2 = some p50 ∧ r.quartile? 3 = some p75)
          ∧ IsAtRank row (1 / 4 * (r.size + 1)) p25
          ∧ IsAtRank row (1 / 2 * (r.size + 1)) p50
          ∧ IsAtRank row (3 / 4 * (r.size + 1)) p75
          ∧ lowest ≤ p25 ∧ p25 ≤ p50 ∧ p50 ≤ p75 ∧ p75 ≤ highest)
        ∧ (r.count ≤ capacity → ∀ steps' : List (Rat × Nat),
          (steps'.map Prod.fst).Perm values →
            ∀ q, (empty.addAll steps').quartile? q = r.quartile? q) := by
  obtain ⟨empty, hempty⟩ : ∃ empty : Reservoir Rat, ofCapacity capacity = .ok empty :=
    ⟨_, dif_pos room⟩
  have hrun : ∀ steps : List (Rat × Nat), (empty.addAll steps).capacity = capacity
      ∧ (empty.addAll steps).IsSampleOf (steps.map Prod.fst) :=
    fun steps => isSampleOf_of_ofCapacity hempty fun _ _ => rfl
  refine ⟨empty, hempty, fun steps hne => ?_⟩
  obtain ⟨hcapacity, h⟩ := hrun steps
  have hvalues : steps.map Prod.fst ≠ [] := mt List.map_eq_nil_iff.mp hne
  refine ⟨⟨?_, h.ascending.pairwise, h.subperm⟩, h.exists_quartiles hvalues,
    fun fits steps' hperm q => ?_⟩
  · rw [h.size, hcapacity, List.length_map]
  · obtain ⟨hcapacity', h'⟩ := hrun steps'
    have hfits : (steps.map Prod.fst).length ≤ capacity := h.count.ge.trans fits
    have hfits' : (steps'.map Prod.fst).length ≤ capacity := hperm.length_eq.trans_le hfits
    exact quartile?_congr
      (h.samples_eq_of_perm h' hperm (hcapacity.symm ▸ hfits) (hcapacity'.symm ▸ hfits')) q

/-- Four values have their quartiles at the ranks 5/4, 5/2 and 15/4, in the
order in which they came and in the opposite one. -/
theorem quartiles_addAll_four :
    let steps : List (Rat × Nat) := [(4, 0), (1, 0), (3, 0), (2, 0)]
    0 < 4 ∧ steps ≠ []
      ∧ ∃ empty : Reservoir Rat, ofCapacity 4 = .ok empty
        ∧ (empty.addAll steps).count ≤ 4
        ∧ (steps.reverse.map Prod.fst).Perm (steps.map Prod.fst)
        ∧ (empty.addAll steps).quartile? 1 = some (5 / 4)
        ∧ (empty.addAll steps).quartile? 2 = some (5 / 2)
        ∧ (empty.addAll steps).quartile? 3 = some (15 / 4)
        ∧ (empty.addAll steps.reverse).quartile? 3 = some (15 / 4) := by
  intro steps
  have room : 0 < 4 := by decide
  have hne : steps ≠ [] := List.cons_ne_nil _ _
  have hperm : (steps.reverse.map Prod.fst).Perm (steps.map Prod.fst) :=
    (List.reverse_perm steps).map Prod.fst
  obtain ⟨empty, hempty, hall⟩ := quartiles_addAll 4 room
  have fits : (empty.addAll steps).count ≤ 4 :=
    (isSampleOf_of_ofCapacity hempty fun _ _ => rfl).2.count.le
  obtain ⟨⟨hsize, ascending, hsub⟩, ⟨_, p25, p50, p75, _, -, -, ⟨h25, h50, h75⟩, hrank⟩, horder⟩ :=
    hall steps hne
  have hsteps : (empty.addAll steps).size = 4 := hsize
  have hrow : (empty.addAll steps).samples.toList = [1, 2, 3, 4] := by
    have hsorted : (steps.map Prod.fst).Perm [1, 2, 3, 4] := by decide
    exact ((hsub.perm_of_length_le hsteps.ge).trans hsorted).eq_of_pairwise
      (fun _ _ _ _ => le_antisymm) ascending (by decide)
  rw [hrow, hsteps] at hrank
  obtain ⟨hrank25, hrank50, hrank75, -⟩ := hrank
  have hpairwise : [(1 : Rat), 2, 3, 4].Pairwise (· ≤ ·) := by decide
  have hp25 : p25 = 1 + 1 / 4 * (2 - 1) :=
    hrank25.unique (.between (i := 0) rfl rfl (by norm_num) (by norm_num) (by norm_num)) hpairwise
  have hp50 : p50 = 2 + 1 / 2 * (3 - 2) :=
    hrank50.unique (.between (i := 1) rfl rfl (by norm_num) (by norm_num) (by norm_num)) hpairwise
  have hp75 : p75 = 3 + 3 / 4 * (4 - 3) :=
    hrank75.unique (.between (i := 2) rfl rfl (by norm_num) (by norm_num) (by norm_num)) hpairwise
  norm_num at hp25 hp50 hp75
  rw [hp25] at h25
  rw [hp50] at h50
  rw [hp75] at h75
  exact ⟨room, hne, empty, hempty, fits, hperm, h25, h50, h75,
    (horder fits steps.reverse hperm 3).trans h75⟩

end Reservoir

end TableProfile
