import TableProfile.Proofs.DoubleValues
import TableProfile.Proofs.FiniteSummaries
import TableProfile.Proofs.InferredTypes

/-!
# The summary of a column of numbers

A column with a sample has a summary of its numbers if and only if it has a
value and all its values are finite numbers. The summary then covers all of
them: a number is added to the sample with every cell that is not blank, so that
their count is exact, and so are the smallest and the largest. Whether the
quartiles are estimates is a question of how many there are
(`exists_numbers_report_iff`).

A value that is no number ends all that. The types of the column are given up
before the sample is reached, so the value itself is not sampled, and as types
never come back, neither is any cell after it
(`ComesTo.sampler_eq_of_no_number`).
-/

namespace TableProfile

namespace ColumnProfile

open Number Binary64

variable {p q : ColumnProfile} {cells : List String} {cell : String}

/-! ## The numbers among cells -/

/-- What is blank is no number. -/
theorem isBlankCell_eq_false_of_isSome (h : (finite? (content cell)).isSome = true) :
    isBlankCell cell = false := by
  refine Bool.eq_false_iff.mpr fun hblank => ?_
  have hnone : finite? (content cell) = none := by
    rw [List.isEmpty_iff.mp hblank]
    rfl
  rw [hnone] at h
  cases h

/-- **Among cells of numbers, all that are not blank count.** -/
theorem length_cellNumbers (numbers : ValueType.real.AdmitsAll cells) :
    (cellNumbers cells).length = cells.countP fun cell => !isBlankCell cell := by
  unfold cellNumbers
  rw [List.length_filterMap_eq_countP]
  refine List.countP_congr fun cell hcell => ?_
  rw [Bool.not_eq_true']
  exact ⟨isBlankCell_eq_false_of_isSome, numbers cell hcell⟩

theorem cellNumbers_ne_nil_iff (numbers : ValueType.real.AdmitsAll cells) :
    cellNumbers cells ≠ [] ↔ ∃ cell ∈ cells, isBlankCell cell = false := by
  rw [← List.length_pos_iff, length_cellNumbers numbers, List.countP_pos_iff]
  simp only [Bool.not_eq_true']

/-! ## The sampler of a run -/

theorem isSome_sampler_observe (p : ColumnProfile) (cell : String) :
    (p.observe cell).sampler.isSome = p.sampler.isSome := by
  rw [sampler_observe]
  split
  · cases finite? (content cell) with
    | none => rfl
    | some number => exact Option.isSome_map
  · rfl

/-- **A sampler is never lost.** -/
theorem isSome_sampler_observeAll (p : ColumnProfile) (cells : List String) :
    (p.observeAll cells).sampler.isSome = p.sampler.isSome := by
  induction cells using List.reverseRecOn with
  | nil => rfl
  | append_singleton cells cell ih => rw [observeAll_concat, isSome_sampler_observe, ih]

/-- **Once a value was no number, nothing is sampled.** -/
theorem sampler_observeAll_of_not_allNumbers (ended : p.allNumbers = false) (cells : List String) :
    (p.observeAll cells).sampler = p.sampler := by
  induction cells generalizing p with
  | nil => rfl
  | cons cell cells ih =>
    have hnext : (p.observe cell).allNumbers = false :=
      Bool.eq_false_iff.mpr fun hall =>
        Bool.false_ne_true (ended.symm.trans (allNumbers_of_observe hall))
    calc ((p.observe cell).observeAll cells).sampler = (p.observe cell).sampler := ih hnext
      _ = p.sampler := by rw [sampler_observe, hnext, if_neg Bool.false_ne_true]

namespace ComesTo

theorem sampler_eq (state : p.ComesTo cells q) : q.sampler = (p.observeAll cells).sampler := by
  cases state <;> rfl

theorem allNumbers_iff (fresh : p.IsFresh) (state : p.ComesTo cells q) :
    q.allNumbers = true ↔ ValueType.real.AdmitsAll cells := by
  rw [state.allNumbers_eq fresh]
  exact ValueType.keptBy_iff_of_comesTo .real fresh state

/-- **A value that is no number ends the sampling**: whatever follows, the
sampler stays what it was before the value. -/
theorem sampler_eq_of_no_number (fresh : p.IsFresh) {earlier later : List String}
    (value : isBlankCell cell = false) (noNumber : finite? (content cell) = none)
    (state : p.ComesTo (earlier ++ cell :: later) q) :
    q.sampler = (p.observeAll earlier).sampler := by
  have hended : ((p.observeAll earlier).observe cell).allNumbers = false := by
    rw [← observeAll_concat, Bool.eq_false_iff, ne_eq, ComesTo.running.allNumbers_iff fresh]
    intro hall
    have hnumber : (finite? (content cell)).isSome = true :=
      hall cell (List.mem_append_right _ List.mem_cons_self) value
    rw [noNumber] at hnumber
    cases hnumber
  rw [state.sampler_eq, List.append_cons, observeAll_append, observeAll_concat,
    sampler_observeAll_of_not_allNumbers hended, sampler_observe, hended,
    if_neg Bool.false_ne_true]

section Sampled

variable {name : String} {declared : Option String} {settings : ProfileLimits} {seed : UInt64}
  {capacity : Nat} (sampled : settings.samplerSize = some capacity)
  (started : start name declared settings seed = .ok p) (state : p.ComesTo cells q)

include sampled started state

/-- **There is a sampler in every state**, and it has sampled all numbers as
long as every value is one. -/
theorem exists_sampler : ∃ s, q.sampler = some s ∧ (q.allNumbers = true →
    s.reservoir.capacity = capacity ∧ s.reservoir.IsSampleOf (cellNumbers cells)) := by
  obtain ⟨r, -, hstart⟩ := sampler_of_start sampled started
  obtain ⟨s, hs⟩ : ∃ s, q.sampler = some s := by
    rw [← Option.isSome_iff_exists, state.sampler_eq, isSome_sampler_observeAll, hstart,
      Option.isSome_some]
  have hsamples : q.Samples cells := by
    cases state <;> exact samples_observeAll started cells
  have hsettings : q.settings = settings := state.settings_eq.trans (settings_of_start started)
  refine ⟨s, hs, fun hall => ?_⟩
  obtain ⟨hcapacity, hsample, -⟩ := hsamples hall s hs
  rw [hsettings, sampled] at hcapacity
  exact ⟨(Option.some.inj hcapacity).symm, hsample⟩

/-- **A column has a summary of its numbers** if and only if it has a value and
all its values are numbers. -/
theorem isSome_numbers_iff :
    q.numbers.isSome = true
      ↔ (∃ cell ∈ cells, isBlankCell cell = false) ∧ ValueType.real.AdmitsAll cells := by
  obtain ⟨s, hs, hsample⟩ := state.exists_sampler sampled started
  have hall := state.allNumbers_iff (isFresh_of_start started)
  rw [numbers_eq_bind, hs, Option.bind_some]
  by_cases hnumbers : q.allNumbers = true
  · have hsize := (hsample hnumbers).2.size
    have hroom := s.reservoir.capacity_pos
    have hsome : s.reservoir.size ≠ 0 ↔ cellNumbers cells ≠ [] := by
      rw [hsize, ← List.length_pos_iff]
      omega
    rw [hnumbers, Bool.true_and, Option.isSome_ite, bne_iff_ne, hsome,
      cellNumbers_ne_nil_iff (hall.mp hnumbers)]
    exact (and_iff_left (hall.mp hnumbers)).symm
  · rw [Bool.eq_false_iff.mpr hnumbers, Bool.false_and, if_neg Bool.false_ne_true]
    exact iff_of_false Bool.false_ne_true fun h => hnumbers (hall.mpr h.2)

/-- **What a summary says** of the numbers of a column is exact, the quartiles,
the mean and the deviation apart. -/
theorem of_mem_numbers {n : Report.Numbers} (hn : n ∈ q.numbers) :
    (∃ s, q.sampler = some s ∧ s.reservoir.count + q.blanks = q.rows)
      ∧ (n.minimum ∈ cellNumbers cells
        ∧ ∀ x ∈ cellNumbers cells, exactValue n.minimum ≤ exactValue x)
      ∧ (n.maximum ∈ cellNumbers cells
        ∧ ∀ x ∈ cellNumbers cells, exactValue x ≤ exactValue n.maximum)
      ∧ (n.estimated = true ↔ capacity < cells.countP fun cell => !isBlankCell cell) := by
  have fresh := isFresh_of_start started
  obtain ⟨hvalue, hnumbers⟩ :=
    (state.isSome_numbers_iff sampled started).mp (Option.isSome_of_mem hn)
  obtain ⟨s, hs, hsample⟩ := state.exists_sampler sampled started
  obtain ⟨hcapacity, hsample⟩ := hsample ((state.allNumbers_iff fresh).mpr hnumbers)
  have hne : cellNumbers cells ≠ [] := (cellNumbers_ne_nil_iff hnumbers).mpr hvalue
  have hcount : s.reservoir.count = cells.countP fun cell => !isBlankCell cell :=
    hsample.count.trans (length_cellNumbers hnumbers)
  obtain rfl : n = s.reservoir.toNumbers := by
    rw [numbers_eq_bind, hs, Option.bind_some] at hn
    exact (Option.some.inj (Option.ite_none_right_eq_some.mp hn).2).symm
  have hminimum := hsample.minimum hne
  have hmaximum := hsample.maximum hne
  refine ⟨⟨s, hs, ?_⟩,
    ⟨hminimum.1, fun x hx => upTo_iff_exactValue_le.mp (hminimum.2.2 x hx)⟩,
    ⟨hmaximum.1, fun x hx => upTo_iff_exactValue_le.mp (hmaximum.2.2 x hx)⟩, ?_⟩
  · rw [hcount, state.blanks_eq cells fresh, state.rows_eq cells fresh]
    have hrows := List.length_eq_countP_add_countP isBlankCell (l := cells)
    simp only [Bool.not_eq_true, Bool.decide_eq_false] at hrows
    rw [hrows, Nat.add_comm]
  · show s.reservoir.leavesOut = true ↔ _
    unfold Reservoir.leavesOut
    rw [decide_eq_true_iff, hcapacity, hcount]

end Sampled

end ComesTo

/-- **The summary of a column of numbers** is there if and only if it should be,
and it covers every value. A column begins with a sample of any size above zero,
whatever type is declared. In every state, the report has a summary exactly if
the cells are numbers or blank, and not all of them blank. The number of values
sampled is then that of the rows without the blank ones, the extremes are those
of all cells in exact arithmetic, and the summary is an estimate if and only if
there are more values than the sample has room for. From a value on that is no
number, the sampler never changes. -/
theorem exists_numbers_report_iff {capacity : Nat} (room : 0 < capacity) (name : String)
    (declared : Option String) {settings : ProfileLimits}
    (sampled : settings.samplerSize = some capacity) (seed : UInt64) :
    ∃ p, start name declared settings seed = .ok p
      ∧ (∀ cells q, p.ComesTo cells q → ∀ knownRows least,
        let report := q.report knownRows least
        (report.numbers.isSome = true
            ↔ (∃ cell ∈ cells, isBlankCell cell = false)
              ∧ ∀ cell ∈ cells, isBlankCell cell = false →
                (finite? (content cell)).isSome = true)
          ∧ ∀ n ∈ report.numbers,
            (∃ s, q.sampler = some s ∧ s.reservoir.count + q.blanks = q.rows)
            ∧ (n.minimum ∈ cellNumbers cells
              ∧ ∀ x ∈ cellNumbers cells, exactValue n.minimum ≤ exactValue x)
            ∧ (n.maximum ∈ cellNumbers cells
              ∧ ∀ x ∈ cellNumbers cells, exactValue x ≤ exactValue n.maximum)
            ∧ (n.estimated = true ↔ capacity < cells.countP fun cell => !isBlankCell cell))
      ∧ ∀ earlier cell later q, p.ComesTo (earlier ++ cell :: later) q →
        isBlankCell cell = false → finite? (content cell) = none →
        q.sampler = (p.observeAll earlier).sampler := by
  have hreservoir : ∃ r : Reservoir Float, Reservoir.ofCapacity capacity = .ok r :=
    ⟨_, dif_pos room⟩
  obtain ⟨r, hr⟩ := hreservoir
  obtain ⟨p, started⟩ : ∃ p, start name declared settings seed = .ok p := by
    rw [start_eq_map sampled, hr]
    exact ⟨_, rfl⟩
  refine ⟨p, started, fun cells q state knownRows least => ⟨?_, fun n hn => ?_⟩,
    fun earlier cell later q state value noNumber => ?_⟩
  · exact state.isSome_numbers_iff sampled started
  · exact state.of_mem_numbers sampled started hn
  · exact state.sampler_eq_of_no_number (isFresh_of_start started) value noNumber

/-- Of two numbers a sample of one keeps one, and the smaller is known all the
same. A word ends the sampling, though a number follows. -/
theorem exists_numbers_report_iff_two_numbers :
    let settings : ProfileLimits := { samplerSize := some 1 }
    let cells := ["2", " ", "-1.5"]
    0 < 1 ∧ settings.samplerSize = some 1
      ∧ ∃ p, start "size" (some "text") settings 0 = .ok p
        ∧ p.ComesTo cells (p.observeAll cells).finish
        ∧ (∃ n ∈ ((p.observeAll cells).finish.report none 0).numbers,
          n.minimum = -1.5 ∧ n.maximum = 2.0 ∧ n.estimated = true)
        ∧ isBlankCell "x" = false ∧ finite? (content "x") = none
        ∧ (p.observeAll (cells ++ ["x", "7"])).sampler = (p.observeAll cells).sampler := by
  intro settings cells
  have room : 0 < 1 := Nat.one_pos
  have sampled : settings.samplerSize = some 1 := rfl
  have value : isBlankCell "x" = false := by decide +kernel
  have noNumber : finite? (content "x") = none := by decide +kernel
  have hnumbers : cellNumbers cells = [2.0, -1.5] := by decide +kernel
  obtain ⟨p, started, hreport, hended⟩ :=
    exists_numbers_report_iff room "size" (some "text") sampled 0
  obtain ⟨hsome, hsays⟩ := hreport cells _ .finished none 0
  obtain ⟨n, hn⟩ := Option.isSome_iff_exists.mp (hsome.mpr (by decide +kernel))
  obtain ⟨-, ⟨hmin, hleast⟩, ⟨hmax, hgreatest⟩, hestimated⟩ := hsays n hn
  rw [hnumbers] at hmin hleast hmax hgreatest
  refine ⟨room, sampled, p, started, .finished, ⟨n, hn, ?_, ?_, ?_⟩, value, noNumber,
    hended cells "x" ["7"] _ .running value noNumber⟩
  · refine (List.mem_pair.mp hmin).resolve_left fun htwo => ?_
    have hle := upTo_iff_exactValue_le.mpr (hleast (-1.5) (List.mem_pair.mpr (.inr rfl)))
    rw [htwo] at hle
    exact absurd hle (by decide +kernel)
  · refine (List.mem_pair.mp hmax).resolve_right fun hless => ?_
    have hle := upTo_iff_exactValue_le.mpr (hgreatest 2.0 (List.mem_pair.mpr (.inl rfl)))
    rw [hless] at hle
    exact absurd hle (by decide +kernel)
  · exact hestimated.mpr (by decide +kernel)

end ColumnProfile

end TableProfile
