import TableProfile.Proofs.DoubleArithmetic
import TableProfile.Proofs.ReservoirRun

/-!
# Which summaries are finite

A reservoir of finite numbers has a finite smallest and a finite largest
number. Its other floats are computed, and what is computed can overflow. It
does not for numbers up to `2 ^ 403`, however many there are: the sum gains
fifty-four binary places at most, and so does the sum of the squares. This is
as far as the bound can be pushed for a variance below `2 ^ 971`, where no
result of an operation rounds to infinity.

What remains is the standard deviation of a single sample. There is none, and
what stands in its place is not a number (`isFinite_standardDeviation_iff`).
-/

namespace TableProfile

open Number Binary64

/-- **A number of a magnitude that can be summed up**: up to `2 ^ 403`, which is
more than `10 ^ 121`. -/
def IsModerate (x : Float) : Prop :=
  Within 403 x

instance (x : Float) : Decidable (IsModerate x) :=
  inferInstanceAs (Decidable (Within 403 x))

namespace Reservoir

/-- **The sum of the values added**, from the first to the last. -/
def HasSumOf (r : Reservoir Float) (values : List Float) : Prop :=
  r.sum = values.foldl (· + ·) (Binary64.ofNat 0)

variable {r : Reservoir Float} {values : List Float}

theorem HasSumOf.add (h : r.HasSumOf values) (value : Float) (j : Nat) :
    (r.add value j).HasSumOf (values ++ [value]) := by
  unfold HasSumOf
  rw [List.foldl_append, ← h]
  rfl

theorem hasSumOf_ofCapacity {capacity : Nat} (h : ofCapacity capacity = .ok r) :
    r.HasSumOf [] := by
  unfold ofCapacity at h
  split at h
  · obtain rfl := Except.ok.inj h
    rfl
  · cases h

/-! ## Extremes -/

theorem isFinite_minimum (h : r.IsSampleOf values) (hne : values ≠ [])
    (finite : ∀ x ∈ values, isFinite x = true) : isFinite r.minimum = true :=
  finite _ (h.minimum hne).1

theorem isFinite_maximum (h : r.IsSampleOf values) (hne : values ≠ [])
    (finite : ∀ x ∈ values, isFinite x = true) : isFinite r.maximum = true :=
  finite _ (h.maximum hne).1

/-! ## Computed floats -/

/-- **A single sample has no standard deviation.** -/
theorem isFinite_standardDeviation_of_single (h : r.size < 2) :
    isFinite r.standardDeviation = false := by
  have hsize : r.samples.size < 2 := h
  unfold standardDeviation variance?
  rw [if_pos hsize]
  rfl

section Moderate

variable (h : r.IsSampleOf values) (moderate : ∀ x ∈ values, IsModerate x)

include h moderate

theorem isModerate_of_mem_samples {x : Float} (hx : x ∈ r.samples) : IsModerate x :=
  moderate x (h.subperm.subset hx.val)

/-- **The mean of moderate numbers is finite**, for any number of them. -/
theorem isFinite_mean (sum : r.HasSumOf values) (hne : values ≠ []) :
    isFinite r.mean = true := by
  have hcount : 0 < r.count := h.count ▸ List.length_pos_of_ne_nil hne
  have hsum : Within 457 r.sum := by
    rw [sum]
    exact within_foldl_add (f := id) (by decide) moderate (within_ofNat_zero _)
  have hmean : Within 457 (r.sum / Binary64.ofNat r.count) :=
    hsum.div (isLarge_ofNat hcount) (by decide)
  unfold mean mean?
  rw [if_neg hcount.ne']
  exact hmean.isFinite (by decide)

theorem within_sampleMean (hsize : 0 < r.samples.size) : Within 457 r.sampleMean := by
  have hsum : Within 457 (r.samples.foldl (· + ·) (Binary64.ofNat 0)) := by
    rw [← Array.foldl_toList]
    exact within_foldl_add (f := id) (by decide)
      (fun x hx => isModerate_of_mem_samples h moderate (Array.mem_toList_iff.mp hx))
      (within_ofNat_zero _)
  exact hsum.div (isLarge_ofNat hsize) (by decide)

/-- **The quartiles of moderate numbers are finite.** -/
theorem isFinite_quartile (hsize : 0 < r.size) (q : Nat) : isFinite (r.quartile q) = true := by
  have hsample : ∀ {i}, i < r.samples.size → ∃ x, r.samples[i]? = some x ∧ IsModerate x := by
    intro i hi
    exact ⟨_, Array.getElem?_eq_getElem hi,
      isModerate_of_mem_samples h moderate (Array.getElem_mem hi)⟩
  have hfinite : ∀ {i}, i < r.samples.size →
      isFinite (r.samples[i]?.getD notANumber) = true := by
    intro i hi
    obtain ⟨x, hx, hmoderate⟩ := hsample hi
    rw [hx]
    exact Within.isFinite hmoderate (by decide)
  have hpos : 0 < r.samples.size := hsize
  unfold quartile quartile?
  dsimp only
  split
  · exact hfinite hpos
  · rename_i hfirst
    rw [Bool.or_eq_true, not_or, decide_eq_true_iff, decide_eq_true_iff] at hfirst
    split
    · exact hfinite (Nat.sub_lt hpos Nat.one_pos)
    · rename_i hlast
      obtain ⟨x, hx, hbelow⟩ := hsample (i := q * (r.samples.size + 1) / 4 - 1) (by omega)
      obtain ⟨y, hy, habove⟩ := hsample (i := q * (r.samples.size + 1) / 4) (by omega)
      rw [hx, hy]
      have hpart : Within 2 (Binary64.ofNat (q * (r.samples.size + 1) % 4) / Binary64.ofNat 4) :=
        (within_ofNat (Nat.mod_lt _ (by decide))).div (isLarge_ofNat (by decide)) (by decide)
      have hstep := hpart.mul (habove.sub hbelow (by decide)) (by decide)
      have hquartile := (Within.mono hbelow (by decide)).add hstep (by decide)
      exact hquartile.isFinite (by decide)

/-- **The standard deviation of moderate numbers is finite** if and only if
there are two samples at least. -/
theorem isFinite_standardDeviation_iff : isFinite r.standardDeviation = true ↔ 2 ≤ r.size := by
  refine ⟨fun hfinite => Nat.not_lt.mp fun hsingle => ?_, fun hsize => ?_⟩
  · rw [isFinite_standardDeviation_of_single hsingle] at hfinite
    exact Bool.false_ne_true hfinite
  · have hsize' : 2 ≤ r.samples.size := hsize
    have hmean : Within 457 r.sampleMean := within_sampleMean h moderate (by omega)
    have hsquare : ∀ x ∈ r.samples.toList,
        Within 916 ((x - r.sampleMean) * (x - r.sampleMean)) := by
      intro x hx
      have hmoderate := isModerate_of_mem_samples h moderate (Array.mem_toList_iff.mp hx)
      have hdistance : Within 458 (x - r.sampleMean) :=
        (Within.mono hmoderate (by decide)).sub hmean (by decide)
      have hproduct : Within (458 + 458) _ := hdistance.mul hdistance (by omega)
      exact hproduct
    have hsquares := within_foldl_add (k := 916) (by decide) hsquare (within_ofNat_zero _)
    have hpositive := isNegative_foldl_add
      (fun x (_ : x ∈ r.samples.toList) => isNegative_mul_self (x - r.sampleMean))
      (isNegative_ofNat 0)
    rw [Array.foldl_toList] at hsquares hpositive
    have hvariance := hsquares.div (isLarge_ofNat (n := r.samples.size - 1) (by omega)) (by decide)
    have hroot := hvariance.sqrt (isNegative_div hpositive (isNegative_ofNat _)) (by decide)
    unfold standardDeviation variance?
    rw [if_neg (Nat.not_lt.mpr hsize')]
    exact hroot.isFinite (by decide)

end Moderate

end Reservoir

/-! ## Columns -/

namespace ColumnProfile

/-- **The numbers among cells.** -/
def cellNumbers (cells : List String) : List Float :=
  cells.filterMap fun cell => finite? (content cell)

theorem isFinite_of_mem_cellNumbers {cells : List String} {x : Float} (hx : x ∈ cellNumbers cells) :
    isFinite x = true := by
  obtain ⟨cell, -, hcell⟩ := List.mem_filterMap.mp hx
  exact (Option.filter_eq_some_iff.mp hcell).2

theorem isNumber_of_isFinite {x : Float} (h : isFinite x = true) : isNumber x = true :=
  decide_eq_true (of_decide_eq_true h).le

variable {p : ColumnProfile} {cells : List String} {cell : String}

/-- **The sample of a column holds its numbers**, as long as every value is
one. -/
def Samples (p : ColumnProfile) (cells : List String) : Prop :=
  p.allNumbers = true → ∀ s ∈ p.sampler, p.settings.samplerSize = some s.reservoir.capacity
    ∧ s.reservoir.IsSampleOf (cellNumbers cells) ∧ s.reservoir.HasSumOf (cellNumbers cells)

/-- Values that are no numbers stay what they are. -/
theorem allNumbers_of_tally (h : (p.tally cell).allNumbers = true) : p.allNumbers = true := by
  unfold tally at h
  cases hcounting : p.counting with
  | cells =>
    rw [hcounting] at h
    dsimp only at h
    split at h
    · exact h
    · unfold allNumbers narrow at h
      unfold allNumbers
      rw [Bool.or_eq_true] at h ⊢
      exact h.imp (fun h => (Bool.and_eq_true_iff.mp h).1) (fun h => (Bool.and_eq_true_iff.mp h).1)
  | words =>
    rw [hcounting] at h
    exact h

theorem sampler_bound (p : ColumnProfile) : p.bound.sampler = p.sampler := by
  unfold bound
  split <;> rfl

theorem allNumbers_bound (p : ColumnProfile) : p.bound.allNumbers = p.allNumbers := by
  unfold bound
  split <;> rfl

/-- Values that are no numbers stay what they are, whatever cell comes next. -/
theorem allNumbers_of_observe (h : (p.observe cell).allNumbers = true) : p.allNumbers = true := by
  have hnow : (((p.measure cell).tally cell).decide).allNumbers = true := by
    rw [observe_eq, allNumbers_bound, takeIn, sample_eq] at h
    exact h
  obtain ⟨counting, values, hdecide⟩ := decide_eq ((p.measure cell).tally cell)
  rw [hdecide] at hnow
  exact allNumbers_of_tally (p := p.measure cell) hnow

/-- **What a cell does to a sampler**: a number is added to it as long as every
value is one. -/
theorem sampler_observe (p : ColumnProfile) (cell : String) :
    (p.observe cell).sampler = if (p.observe cell).allNumbers then
        match finite? (content cell) with
        | some number => p.sampler.map (·.add number)
        | none => p.sampler
      else p.sampler := by
  rw [observe_eq, sampler_bound, allNumbers_bound, takeIn, sample_eq]
  show (((p.measure cell).tally cell).decide).nextSampler cell = _
  unfold nextSampler
  rw [sampler_measure_tally_decide]
  rfl

theorem cellNumbers_concat (cells : List String) (cell : String) :
    cellNumbers (cells ++ [cell]) = cellNumbers cells ++ (finite? (content cell)).toList := by
  unfold cellNumbers
  rw [List.filterMap_append]
  cases hcell : finite? (content cell) with
  | none => exact congrArg _ (List.filterMap_cons_none hcell)
  | some number => exact congrArg _ (List.filterMap_cons_some hcell)

/-- **A cell is sampled** if it is a number and every value is one. -/
theorem Samples.observe (h : p.Samples cells) (cell : String) :
    (p.observe cell).Samples (cells ++ [cell]) := by
  intro hall s hs
  have hbefore := allNumbers_of_observe hall
  rw [sampler_observe, if_pos hall] at hs
  rw [cellNumbers_concat, observe_eq, settings_bound, settings_takeIn]
  cases hcell : finite? (content cell) with
  | none =>
    rw [hcell] at hs
    rw [Option.toList_none, List.append_nil]
    exact h hbefore s hs
  | some number =>
    rw [hcell] at hs
    obtain ⟨s', hs', rfl⟩ := Option.map_eq_some_iff.mp (Option.mem_def.mp hs)
    obtain ⟨hcapacity, hsample, hsum⟩ := h hbefore s' hs'
    obtain ⟨j, hadd⟩ := s'.reservoir_add number
    have hnumber : isNumber number = true :=
      isNumber_of_isFinite (Option.filter_eq_some_iff.mp hcell).2
    rw [hadd]
    exact ⟨hcapacity, hsample.add hnumber j, hsum.add number j⟩

section Start

variable {name : String} {declared : Option String} {settings : ProfileLimits} {seed : UInt64}

/-- A column that is to have a sample begins if there is room for one value. -/
theorem start_eq_map {capacity : Nat} (sampled : settings.samplerSize = some capacity) :
    start name declared settings seed = (Reservoir.ofCapacity capacity).map fun reservoir =>
      { name, settings
        declared := declared.filter (!isBlankCell ·)
        sampler := some { reservoir, generator := .ofSeed seed } } := by
  have hsampler : (some capacity).mapM (Sampler.ofSeed · seed)
      = (Reservoir.ofCapacity capacity).map fun r => some ⟨r, .ofSeed seed⟩ := by
    show (Sampler.ofSeed capacity seed).map some = _
    unfold Sampler.ofSeed
    cases Reservoir.ofCapacity (α := Float) capacity <;> rfl
  unfold start
  rw [sampled, hsampler]
  cases Reservoir.ofCapacity (α := Float) capacity <;> rfl

/-- The sampler of a column that begins. -/
theorem sampler_of_start {capacity : Nat} (sampled : settings.samplerSize = some capacity)
    (h : start name declared settings seed = .ok p) :
    ∃ reservoir, Reservoir.ofCapacity capacity = .ok reservoir
      ∧ p.sampler = some { reservoir, generator := .ofSeed seed } := by
  rw [start_eq_map sampled] at h
  cases hreservoir : Reservoir.ofCapacity (α := Float) capacity with
  | error e =>
    rw [hreservoir] at h
    cases h
  | ok reservoir =>
    rw [hreservoir] at h
    obtain rfl := Except.ok.inj h
    exact ⟨reservoir, rfl, rfl⟩

/-- A column that begins has a sample of no numbers, or none. -/
theorem samples_start (h : start name declared settings seed = .ok p) : p.Samples [] := by
  intro _ s hs
  cases hcapacity : settings.samplerSize with
  | none =>
    unfold start at h
    rw [hcapacity] at h
    obtain rfl := Except.ok.inj h
    cases hs
  | some capacity =>
    obtain ⟨r, hreservoir, hsampler⟩ := sampler_of_start hcapacity h
    rw [hsampler] at hs
    obtain rfl := Option.some.inj hs
    obtain ⟨hr, hsample⟩ := Reservoir.isSampleOf_ofCapacity hreservoir
    rw [settings_of_start h]
    exact ⟨hcapacity.trans (congrArg some hr.symm), hsample,
      Reservoir.hasSumOf_ofCapacity hreservoir⟩

/-- **The sample of a column holds its numbers** after any cells. -/
theorem samples_observeAll (h : start name declared settings seed = .ok p) (cells : List String) :
    (p.observeAll cells).Samples cells := by
  induction cells using List.reverseRecOn with
  | nil => exact samples_start h
  | append_singleton cells cell ih =>
    rw [observeAll_concat]
    exact ih.observe cell

/-- **What a column says of its numbers** is what a sample of them says. -/
theorem exists_of_mem_numbers (h : start name declared settings seed = .ok p) {n : Report.Numbers}
    (hn : n ∈ (p.observeAll cells).finish.numbers) :
    ∃ r : Reservoir Float, n = r.toNumbers ∧ p.settings.samplerSize = some r.capacity ∧ 0 < r.size
      ∧ r.IsSampleOf (cellNumbers cells) ∧ r.HasSumOf (cellNumbers cells) := by
  have hsamples := samples_observeAll h cells
  rw [numbers_eq_bind] at hn
  obtain ⟨s, hs, hbody⟩ := Option.bind_eq_some_iff.mp (Option.mem_def.mp hn)
  split at hbody
  · rename_i hall
    rw [Bool.and_eq_true, bne_iff_ne] at hall
    obtain ⟨hcapacity, hsample, hsum⟩ := hsamples hall.1 s hs
    rw [settings_observeAll] at hcapacity
    exact ⟨s.reservoir, (Option.some.inj hbody).symm, hcapacity, Nat.pos_of_ne_zero hall.2,
      hsample, hsum⟩
  · cases hbody

end Start

end ColumnProfile

end TableProfile
