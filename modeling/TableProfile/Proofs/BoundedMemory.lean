import TableProfile.Proofs.NumberSummaries
import TableProfile.Proofs.Ranking
import TableProfile.Proofs.Termination

/-!
# The memory of a column is bounded

A cell can make the sheet of a column longer by a value, or by as many words as
the cell has, or exchange it for a sheet of the words of all values. None of
this is bounded by the settings. But whatever came to be, a trim follows, and
what the trim leaves depends on the size of the sheet alone: it is as large as
it was where that is within the room, and as large as a report otherwise
(`ColumnProfile.size_bound`). So the bound after a cell needs no bound before it
(`ColumnProfile.size_values_observe_le`).

The sample is different. It grows by one number at most, and only if there is
room, so that its bound is carried from cell to cell.
-/

namespace TableProfile

/-- **A sample grows only where there is room.** -/
theorem Reservoir.size_add_le {α : Type} [Quantity α] {r : Reservoir α}
    (h : r.size ≤ r.capacity) (value : α) (j : Nat) : (r.add value j).size ≤ r.capacity := by
  show (r.resampled value j).size ≤ r.capacity
  rw [size_resampled]
  split
  · assumption
  · exact h

namespace ColumnProfile

open Number

/-- **A column within its memory.** -/
structure IsBounded (p : ColumnProfile) : Prop where
  /-- The sheet has no more than there is room for. -/
  values : p.values.size ≤ p.room
  /-- The sample has the size of the settings, and no more numbers than that. -/
  sample : ∀ s ∈ p.sampler,
    p.settings.samplerSize = some s.reservoir.capacity ∧ s.reservoir.size ≤ s.reservoir.capacity

variable {p : ColumnProfile}

/-- **After any cell the sheet is within the room**, however large it was and
whatever the cell added to it. -/
theorem size_values_observe_le (p : ColumnProfile) (cell : String) :
    (p.observe cell).values.size ≤ p.room := by
  have hroom : (p.takeIn cell).room = p.room := by
    unfold room
    rw [settings_takeIn]
  have hwidth : (p.takeIn cell).settings.maxToReport ≤ p.room := by
    rw [settings_takeIn]
    exact le_max_right _ _
  rw [observe_eq, size_bound, hroom]
  split
  · assumption
  · exact hwidth

/-- A cell leaves a sample within its size. -/
theorem IsBounded.sample_observe (h : p.IsBounded) (cell : String) :
    ∀ s ∈ (p.observe cell).sampler, p.settings.samplerSize = some s.reservoir.capacity
      ∧ s.reservoir.size ≤ s.reservoir.capacity := by
  rw [sampler_observe]
  split
  · cases finite? (content cell) with
    | none => exact h.sample
    | some number =>
      intro s hs
      obtain ⟨s', hs', rfl⟩ := Option.map_eq_some_iff.mp (Option.mem_def.mp hs)
      obtain ⟨hcapacity, hsize⟩ := h.sample s' hs'
      obtain ⟨j, hadd⟩ := s'.reservoir_add number
      rw [hadd]
      exact ⟨hcapacity, Reservoir.size_add_le hsize number j⟩
  · exact h.sample

/-- **A cell leaves a column within its memory.** -/
theorem IsBounded.observe (h : p.IsBounded) (cell : String) : (p.observe cell).IsBounded := by
  have hsettings : (p.observe cell).settings = p.settings := by
    rw [observe_eq, settings_bound, settings_takeIn]
  have hroom : (p.observe cell).room = p.room := by
    unfold room
    rw [hsettings]
  refine ⟨?_, ?_⟩
  · rw [hroom]
    exact size_values_observe_le p cell
  · rw [hsettings]
    exact h.sample_observe cell

/-- Cells leave a column within its memory. -/
theorem IsBounded.observeAll (h : p.IsBounded) (cells : List String) :
    (p.observeAll cells).IsBounded := by
  induction cells generalizing p with
  | nil => exact h
  | cons cell rest ih => exact ih (h.observe cell)

section Start

variable {name : String} {declared : Option String} {settings : ProfileLimits} {seed : UInt64}

/-- A column begins with nothing in its memory. -/
theorem isBounded_start (started : start name declared settings seed = .ok p) : p.IsBounded where
  values := by
    rw [isFresh_of_start started]
    exact Nat.zero_le _
  sample s hs := by
    have hnumbers : p.allNumbers = true := by
      rw [isFresh_of_start started]
      rfl
    obtain ⟨hcapacity, hsample, -⟩ := samples_start started hnumbers s hs
    refine ⟨hcapacity, ?_⟩
    rw [hsample.size]
    exact min_le_right _ _

/-- **The memory of a column is bounded**, for any cells and in every state. The
sheet never has more values after a cell than the larger of the two limits, which
is the first one for settings that are accepted. The sample never has more
numbers than it was made for, and there is none where none was asked for. Once
the column has ended, the sheet has no more values than a report, and no report
has more than its limit. -/
theorem size_le_of_start (started : start name declared settings seed = .ok p) :
    (∀ cells, (p.observeAll cells).values.size ≤ max settings.maxInMemory settings.maxToReport)
      ∧ (∀ scanned : Settings, scanned.validate = .ok () → settings = scanned.profile →
        ∀ cells, (p.observeAll cells).values.size ≤ scanned.maxInMemory)
      ∧ (∀ cells q, p.ComesTo cells q → ∀ s ∈ q.sampler,
        settings.samplerSize = some s.reservoir.capacity
          ∧ s.reservoir.size ≤ s.reservoir.capacity)
      ∧ (∀ cells, (p.observeAll cells).finish.values.size ≤ settings.maxToReport)
      ∧ ∀ cells q, p.ComesTo cells q → ∀ knownRows least,
        (q.report knownRows least).values.length ≤ settings.maxToReport := by
  have hbounded : ∀ cells, (p.observeAll cells).IsBounded := fun cells =>
    (isBounded_start started).observeAll cells
  have hsettings : ∀ cells q, p.ComesTo cells q → q.settings = settings := fun cells q state =>
    state.settings_eq.trans (settings_of_start started)
  have hsize : ∀ cells, (p.observeAll cells).values.size
      ≤ max settings.maxInMemory settings.maxToReport := fun cells => by
    have hvalues := (hbounded cells).values
    unfold room at hvalues
    rwa [hsettings cells _ .running] at hvalues
  refine ⟨hsize, fun scanned accepted hscanned cells => ?_, fun cells q state s hs => ?_,
    fun cells => ?_, fun cells q state knownRows least => ?_⟩
  · obtain rfl := hscanned
    exact (hsize cells).trans_eq
      (max_eq_left (Settings.validate_eq_ok_iff.mp accepted).maxInMemory)
  · rw [state.sampler_eq] at hs
    rw [← hsettings cells _ .running]
    exact (hbounded cells).sample s hs
  · rw [← hsettings cells _ .running]
    exact (TallySheet.size_trim _ _).trans_le (min_le_right _ _)
  · rw [← hsettings cells q state]
    exact TallySheet.length_topAtLeast_le _ _ _

end Start

/-- The second of these cells turns the column into a text of five words. There
is room for two, and one is left. The number before it was sampled. -/
theorem size_le_of_start_two_cells :
    let scanned : Settings :=
      { numericStats := true, samplerSize := 1, maxInMemory := 2, maxToReport := 1
        checkpoint := 2, minAverageLength := 4 }
    let cells := ["1.5", "ab cd ef gh"]
    ∃ p, start "note" none scanned.profile 0 = .ok p ∧ scanned.validate = .ok ()
      ∧ ((p.observeAll ["1.5"]).takeIn "ab cd ef gh").values.size = 5
      ∧ (p.observeAll cells).values.size ≤ 2 ∧ (p.observeAll cells).finish.values.size ≤ 1
      ∧ (∃ s ∈ (p.observeAll cells).sampler, s.reservoir.size ≤ s.reservoir.capacity)
      ∧ ((p.observeAll cells).finish.report none 0).values.length ≤ 1 := by
  intro scanned cells
  obtain ⟨p, started, hwords, hsampler⟩ : ∃ p, start "note" none scanned.profile 0 = .ok p
      ∧ ((p.observeAll ["1.5"]).takeIn "ab cd ef gh").values.size = 5
      ∧ (p.observeAll cells).sampler.isSome = true :=
    ⟨_, rfl, by decide +kernel, by decide +kernel⟩
  have accepted : scanned.validate = .ok () := rfl
  obtain ⟨-, hscanned, hsample, hfinish, hreport⟩ := size_le_of_start started
  obtain ⟨s, hs⟩ := Option.isSome_iff_exists.mp hsampler
  exact ⟨p, started, accepted, hwords, hscanned scanned accepted rfl cells, hfinish cells,
    ⟨s, hs, (hsample cells _ .running s hs).2⟩, hreport cells _ .finished none 0⟩

end ColumnProfile

end TableProfile
