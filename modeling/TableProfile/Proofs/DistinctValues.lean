import TableProfile.Proofs.BoundedMemory
import TableProfile.Proofs.ReportedCounts
import TableProfile.Proofs.Shares
import TableProfile.Proofs.TextDecision

/-!
# How many distinct values a column has

A column counts the cells that are new to its sheet. That is the number of its
distinct values as long as the sheet still holds what was seen. A value that was
discarded and is seen again is new to the sheet a second time, and from its turn on a
text counts no values at all. So the counter is the number of distinct values among
the cells that are counted as values, and in addition the number of times that a value
comes back (`newcomers_observeAll`).

The column tells whether the number is a bound. Where it says no, the number is exact,
and it says no for every column of values that has no more of them than there is room
for (`discardsNothing_iff_card_le`). Where it says yes, the number need not be a bound
from below. It is one if and only if the values that come back are no more than those
that are first seen in a text after its turn (`distinct_le_iff_of_comesTo`); a column of
values has none of the latter.
-/

namespace TableProfile

namespace ColumnProfile

open TallySheet Number.Binary64

variable (p : ColumnProfile) (cell : String) (cells : List String)

/-- **The cells that are counted as values**: all of them, or those up to the
checkpoint once the column is a text. -/
def valueCells : List String :=
  if (p.observeAll cells).isText then cells.take p.settings.checkpoint else cells

/-- **A value comes back** with a cell: it was seen before, and the sheet of values
holds it no more. -/
def ComesBack : Prop :=
  cell ∈ cells ∧ (p.observeAll cells).counting = .cells
    ∧ (p.observeAll cells).values.holds cell = false

instance : Decidable (p.ComesBack cell cells) :=
  inferInstanceAs (Decidable (_ ∧ _))

/-- **How often values come back** in a run. -/
def comebacks : Nat :=
  cells.zipIdx.countP fun seen => Decidable.decide (p.ComesBack seen.1 (cells.take seen.2))

/-! ## The counter -/

theorem newcomers_tally :
    (p.tally cell).newcomers
      = if p.counting = .cells ∧ p.values.holds cell = false then p.newcomers + 1
        else p.newcomers := by
  unfold tally
  cases p.counting with
  | cells =>
    have hblank : ∀ p' : ColumnProfile, (if isBlankCell cell then p'
        else p'.narrow (content cell)).newcomers = p'.newcomers := by
      intro p'
      split <;> rfl
    rw [hblank]
    cases p.values.holds cell <;> rfl
  | words => rfl

/-- **A cell is counted** if cells are counted as values, and it is new to the
sheet. -/
theorem newcomers_observe :
    (p.observe cell).newcomers
      = if p.counting = .cells ∧ p.values.holds cell = false then p.newcomers + 1
        else p.newcomers := by
  obtain ⟨_, _, hbound⟩ := bound_eq (p.takeIn cell)
  obtain ⟨_, _, hdecide⟩ := decide_eq ((p.measure cell).tally cell)
  rw [observe_eq, hbound, takeIn, sample_eq, hdecide]
  exact newcomers_tally (p.measure cell) cell

theorem comebacks_concat :
    p.comebacks (cells ++ [cell])
      = p.comebacks cells + if p.ComesBack cell cells then 1 else 0 := by
  have hearlier : cells.zipIdx.countP
        (fun seen => Decidable.decide (p.ComesBack seen.1 ((cells ++ [cell]).take seen.2)))
      = p.comebacks cells := by
    refine List.countP_congr fun seen hmem => ?_
    rw [List.take_append_of_le_length (List.snd_lt_of_mem_zipIdx hmem).le]
  unfold comebacks at hearlier ⊢
  rw [List.zipIdx_append, List.countP_append, hearlier, Nat.zero_add, List.zipIdx_singleton,
    List.countP_singleton, List.take_left]
  simp only [decide_eq_true_eq]

variable {p cell cells}

theorem valueCells_of_cells (h : (p.observeAll cells).counting = .cells) :
    p.valueCells cells = cells := by
  unfold valueCells isText
  rw [h]
  rfl

variable (p cells) in
/-- The cells that are counted as values are among the cells. -/
theorem valueCells_subset : (p.valueCells cells).toFinset ⊆ cells.toFinset := by
  have hsub : p.valueCells cells ⊆ cells := by
    unfold valueCells
    split
    · exact List.take_subset _ _
    · exact fun _ => id
  exact fun v hv => List.mem_toFinset.mpr (hsub (List.mem_toFinset.mp hv))

variable (cell) in
/-- **A cell that discards** leaves the first of the entries in order. -/
theorem observe_eq_of_perm {l : List Tally} (h : (p.takeIn cell).values.entries.Perm l)
    (ordered : l.Pairwise Tally.Precedes)
    (crowded : (p.takeIn cell).room < (p.takeIn cell).values.size) :
    p.observe cell
      = { p.takeIn cell with
          values := { counts := countsOf (l.take p.settings.maxToReport), hasDiscarded := true }
          discardedEarly := true } := by
  have hreport : (p.takeIn cell).settings.maxToReport < (p.takeIn cell).values.size :=
    (le_max_right _ _).trans_lt crowded
  rw [observe_eq, bound_of_lt _ crowded, trim_eq_of_perm h ordered hreport]
  simp only [settings_takeIn]

section Run

variable (fresh : p.IsFresh)

include fresh

/-- A column that counts values counts the next cell among them, also where the cell
turns it into a text. -/
theorem valueCells_concat_of_cells (h : (p.observeAll cells).counting = .cells) (cell : String) :
    p.valueCells (cells ++ [cell]) = cells ++ [cell] := by
  have hrows : (p.observeAll cells).rows = cells.length := ComesTo.running.rows_eq _ fresh
  have hcounts := counts_takeIn cell (turned_observeAll cells fresh)
  rw [← counting_bound, ← observe_eq, ← observeAll_concat] at hcounts
  generalize ((p.observeAll cells).takeIn cell).values = values at hcounts
  generalize hnext : (p.observeAll (cells ++ [cell])).counting = counting at hcounts
  cases hcounts with
  | value was stays => exact valueCells_of_cells hnext
  | turn was here resembles =>
    rw [hrows, settings_observeAll] at here
    unfold valueCells isText
    rw [hnext, ← here]
    exact List.take_of_length_le List.length_append.le
  | words was =>
    rw [h] at was
    cases was

/-- A text has counted all its values. -/
theorem valueCells_concat_of_words (h : (p.observeAll cells).counting = .words) (cell : String) :
    p.valueCells (cells ++ [cell]) = p.valueCells cells := by
  have htext : (p.observeAll cells).isText = true := beq_iff_eq.mpr h
  have hreached := turned_observeAll cells fresh h
  rw [settings_observeAll, ComesTo.running.rows_eq cells fresh] at hreached
  unfold valueCells
  rw [htext, isText_observeAll_append fresh htext, if_pos rfl, if_pos rfl,
    List.take_append_of_le_length hreached]

/-- **The counter of a column**: the distinct values among the cells that are counted as
values, and one more for each time that a value comes back. -/
theorem newcomers_observeAll (cells : List String) :
    (p.observeAll cells).newcomers = (p.valueCells cells).toFinset.card + p.comebacks cells := by
  induction cells using List.reverseRecOn with
  | nil =>
    have hcells : (p.observeAll []).counting = .cells := congrArg ColumnProfile.counting fresh
    rw [valueCells_of_cells hcells]
    exact congrArg newcomers fresh
  | append_singleton cells cell ih =>
    rw [observeAll_concat, newcomers_observe, ih, comebacks_concat]
    cases hcounting : (p.observeAll cells).counting with
    | cells =>
      have hunder := understates_observeAll cells fresh
      rw [hcounting] at hunder
      rw [valueCells_of_cells hcounting, valueCells_concat_of_cells fresh hcounting,
        List.toFinset_append, List.toFinset_cons, List.toFinset_nil, Finset.union_insert,
        Finset.union_empty]
      cases hholds : (p.observeAll cells).values.holds cell with
      | true =>
        -- what the sheet holds was seen
        have hmem : cell ∈ cells := hunder.mem_of_holds hholds
        have hstays : ¬ p.ComesBack cell cells := fun ⟨_, _, hnew⟩ =>
          Bool.noConfusion (hholds.symm.trans hnew)
        rw [if_neg fun h => Bool.noConfusion h.2, if_neg hstays,
          Finset.insert_eq_of_mem (List.mem_toFinset.mpr hmem)]
        rfl
      | false =>
        rw [if_pos ⟨rfl, rfl⟩]
        by_cases hmem : cell ∈ cells
        · rw [if_pos (show p.ComesBack cell cells from ⟨hmem, hcounting, hholds⟩),
            Finset.insert_eq_of_mem (List.mem_toFinset.mpr hmem), Nat.add_assoc]
        · rw [if_neg fun h : p.ComesBack cell cells => hmem h.1,
            Finset.card_insert_of_notMem fun h => hmem (List.mem_toFinset.mp h)]
          exact Nat.add_right_comm _ _ _
    | words =>
      have hstays : ¬ p.ComesBack cell cells := fun ⟨_, hcells, _⟩ =>
        Counting.noConfusion (hcounting.symm.trans hcells)
      rw [valueCells_concat_of_words fresh hcounting, if_neg fun h => Counting.noConfusion h.1,
        if_neg hstays]
      rfl

/-- A cell is counted once at most. -/
theorem newcomers_le_rows (cells : List String) :
    (p.observeAll cells).newcomers ≤ (p.observeAll cells).rows := by
  induction cells using List.reverseRecOn with
  | nil =>
    rw [observeAll_nil, fresh]
  | append_singleton cells cell ih =>
    rw [observeAll_concat, newcomers_observe, observe_eq, rows_bound, rows_takeIn]
    split
    · exact Nat.succ_le_succ ih
    · exact Nat.le_succ_of_le ih

/-- **Nothing comes back of what was not discarded.** -/
theorem not_comesBack (lossless : p.DiscardsNothing cells) (cell : String) :
    ¬ p.ComesBack cell cells := by
  rintro ⟨hmem, hcounting, hnew⟩
  have htally := isTallyOf_observeAll cells fresh lossless
  rw [hcounting] at htally
  exact Bool.false_ne_true (hnew.symm.trans ((htally.holds_iff cell).mpr hmem))

theorem comebacks_eq_zero (lossless : p.DiscardsNothing cells) : p.comebacks cells = 0 := by
  induction cells using List.reverseRecOn with
  | nil => rfl
  | append_singleton cells cell ih =>
    obtain ⟨hearlier, -⟩ := (discardsNothing_concat p cell cells).mp lossless
    rw [comebacks_concat, ih hearlier, if_neg (not_comesBack fresh hearlier cell)]

end Run

/-! ## What is told of the number -/

variable {q : ColumnProfile} (knownRows : Option Int) (least : Nat)

theorem distinct_report (p : ColumnProfile) :
    (p.report knownRows least).distinct = p.newcomers := rfl

theorem distinctIsBound_report (p : ColumnProfile) :
    (p.report knownRows least).distinctIsBound = (p.discardedEarly || p.isText) := rfl

/-- In every state, the number is that of the counter. -/
theorem ComesTo.distinct_eq (fresh : p.IsFresh) (state : p.ComesTo cells q) :
    (q.report knownRows least).distinct
      = (p.valueCells cells).toFinset.card + p.comebacks cells := by
  rw [state.report_eq, distinct_report, newcomers_observeAll fresh]

/-- In every state, the number is a bound once the column is a text, or has discarded
values. -/
theorem ComesTo.distinctIsBound_eq_false_iff (fresh : p.IsFresh) (state : p.ComesTo cells q) :
    (q.report knownRows least).distinctIsBound = false
      ↔ q.isText = false ∧ p.DiscardsNothing cells := by
  rw [state.report_eq, distinctIsBound_report, Bool.or_eq_false_iff, and_comm, state.isText_eq,
    discardedEarly_observeAll cells fresh]

/-- In every state, a column that is no text has counted cells. -/
theorem ComesTo.valueCells_eq (state : p.ComesTo cells q) (typed : q.isText = false) :
    p.valueCells cells = cells :=
  valueCells_of_cells (counting_eq_cells (state.isText_eq.symm.trans typed))

section Start

variable {name : String} {declared : Option String} {settings : ProfileLimits} {seed : UInt64}

/-- **A column of values discards nothing** if and only if there is room for its distinct
values. -/
theorem discardsNothing_iff_card_le (started : start name declared settings seed = .ok p)
    (typed : (p.observeAll cells).counting = .cells) :
    p.DiscardsNothing cells
      ↔ cells.toFinset.card ≤ max settings.maxInMemory settings.maxToReport := by
  have fresh := isFresh_of_start started
  have hroom : p.room = max settings.maxInMemory settings.maxToReport := by
    unfold room
    rw [settings_of_start started]
  rw [← hroom]
  refine ⟨fun lossless => ?_, discardsNothing_of_card_le fresh typed⟩
  have htally := isTallyOf_observeAll cells fresh lossless
  rw [typed] at htally
  have hsize := ((isBounded_start started).observeAll cells).values
  unfold room at hsize ⊢
  rw [settings_observeAll] at hsize
  exact htally.size_eq.symm.trans_le hsize

/-- **A number that is no bound is exact.** In every state, a report says that the number
of distinct values is no bound if and only if the column counts values and has no more
of them than there is room for; and then the number is that of the distinct values among
all cells. Whatever it says, the number and that of the blank cells are no greater than
that of the rows, so that the shares are between nothing and one, where the rows can be
counted in sixty-four bits. -/
theorem distinctIsBound_eq_false_iff_of_comesTo
    (started : start name declared settings seed = .ok p) (state : p.ComesTo cells q) :
    let report := q.report knownRows least
    (report.distinctIsBound = false
        ↔ q.isText = false
          ∧ cells.toFinset.card ≤ max settings.maxInMemory settings.maxToReport)
      ∧ (report.distinctIsBound = false → report.distinct = cells.toFinset.card)
      ∧ report.rows = cells.length ∧ report.distinct ≤ report.rows
      ∧ q.blanks = cells.countP isBlankCell ∧ q.blanks ≤ report.rows
      ∧ (cells.length < UInt64.size → IsShare report.distinctShare ∧ IsShare report.blankShare) := by
  intro report
  have fresh := isFresh_of_start started
  have hflag : report.distinctIsBound = false ↔ q.isText = false ∧ p.DiscardsNothing cells :=
    state.distinctIsBound_eq_false_iff knownRows least fresh
  have hrows : report.rows = cells.length := state.rows_eq _ fresh
  have hdistinct : report.distinct ≤ report.rows := by
    rw [show report = (p.observeAll cells).report knownRows least from state.report_eq]
    exact newcomers_le_rows fresh cells
  have hblanks : q.blanks = cells.countP isBlankCell := state.blanks_eq _ fresh
  have hfewer : q.blanks ≤ report.rows := by
    rw [hblanks, hrows]
    exact List.countP_le_length
  refine ⟨?_, fun hexact => ?_, hrows, hdistinct, hblanks, hfewer, fun inRange => ?_⟩
  · exact hflag.trans (and_congr_right fun typed =>
      discardsNothing_iff_card_le started (counting_eq_cells (state.isText_eq.symm.trans typed)))
  · obtain ⟨typed, lossless⟩ := hflag.mp hexact
    calc report.distinct
        = (p.valueCells cells).toFinset.card + p.comebacks cells :=
          state.distinct_eq knownRows least fresh
      _ = cells.toFinset.card := by
          rw [state.valueCells_eq typed, comebacks_eq_zero fresh lossless, Nat.add_zero]
  · have hfinite : isFinite (ofNat report.rows) = true := by
      rw [hrows]
      exact (within_ofNat (k := 64) inRange).isFinite (by decide)
    exact ⟨isShare_fraction hdistinct hfinite, isShare_fraction hfewer hfinite⟩

/-- There is memory for two values, but the report is wide enough for the three that
occur, of which one is blank; a fourth is one too many. -/
theorem distinctIsBound_eq_false_iff_of_comesTo_four_cells :
    let settings : ProfileLimits := { maxInMemory := 2, maxToReport := 3 }
    let p : ColumnProfile := { name := "code", declared := none, settings }
    let cells := ["b", "a", "b", " "]
    let report := (p.observeAll cells).finish.report none 2
    start "code" none settings 0 = .ok p ∧ p.ComesTo cells (p.observeAll cells).finish
      ∧ report.distinctIsBound = false ∧ report.distinct = 3 ∧ report.rows = 4
      ∧ IsShare report.distinctShare ∧ IsShare report.blankShare
      ∧ ((p.observeAll (cells ++ ["é"])).report none 0).distinctIsBound = true := by
  intro settings p cells report
  have started : start "code" none settings 0 = .ok p := rfl
  have state : p.ComesTo cells (p.observeAll cells).finish := .finished
  have later : p.ComesTo (cells ++ ["é"]) (p.observeAll (cells ++ ["é"])) := .running
  obtain ⟨hflag, hexact, hrows, -, -, -, hshares⟩ :=
    distinctIsBound_eq_false_iff_of_comesTo none 2 started state
  obtain ⟨hflag', -⟩ := distinctIsBound_eq_false_iff_of_comesTo none 0 started later
  obtain ⟨hdistinct, hblank⟩ := hshares (by decide +kernel)
  have hfour : report.distinctIsBound = false := hflag.mpr (by decide +kernel)
  refine ⟨started, state, hfour, (hexact hfour).trans (by decide +kernel), hrows, hdistinct,
    hblank, Bool.of_not_eq_false fun hfive => ?_⟩
  exact absurd (hflag'.mp hfive).2 (by decide +kernel)

/-- **What "at least" is worth.** In every state, the number of distinct values that is
reported counts those among the cells that are counted as values, and one more for each
time that a value comes back. So it is no greater than the number of distinct values
among all cells if and only if the values that come back are no more than those that are
first seen after the turn into a text; for a column of values, if and only if none comes
back. Where values come back, the report says that the number is a bound. -/
theorem distinct_le_iff_of_comesTo
    (started : start name declared settings seed = .ok p) (state : p.ComesTo cells q) :
    let report := q.report knownRows least
    report.distinct = (p.valueCells cells).toFinset.card + p.comebacks cells
      ∧ (report.distinct ≤ cells.toFinset.card
        ↔ p.comebacks cells ≤ (cells.toFinset \ (p.valueCells cells).toFinset).card)
      ∧ (q.isText = false → (report.distinct ≤ cells.toFinset.card ↔ p.comebacks cells = 0))
      ∧ (p.comebacks cells ≠ 0 → report.distinctIsBound = true) := by
  intro report
  have fresh := isFresh_of_start started
  have hdistinct : report.distinct = (p.valueCells cells).toFinset.card + p.comebacks cells :=
    state.distinct_eq knownRows least fresh
  have hlater := Finset.card_sdiff_add_card_eq_card (valueCells_subset p cells)
  refine ⟨hdistinct, ?_, fun typed => ?_, fun hback => ?_⟩
  · rw [hdistinct]
    omega
  · rw [hdistinct, state.valueCells_eq typed]
    omega
  · refine Bool.of_not_eq_false fun hflag => hback (comebacks_eq_zero fresh ?_)
    exact ((state.distinctIsBound_eq_false_iff knownRows least fresh).mp hflag).2

/-- There is room for one value, and the second is discarded. It comes back as the third
cell, which turns the column into a text, so that the fourth is not counted. -/
theorem distinct_le_iff_of_comesTo_four_cells :
    let settings : ProfileLimits :=
      { maxInMemory := 1, maxToReport := 1, checkpoint := 3, minAverageLength := 1 }
    let p : ColumnProfile := { name := "code", declared := none, settings }
    let cells := ["a", "b", "b", "c"]
    let report := (p.observeAll cells).finish.report none 0
    start "code" none settings 0 = .ok p ∧ p.ComesTo cells (p.observeAll cells).finish
      ∧ p.comebacks cells = 1 ∧ report.distinct = 3 ∧ report.distinct ≤ cells.toFinset.card
      ∧ report.distinctIsBound = true := by
  intro settings p cells report
  have started : start "code" none settings 0 = .ok p := rfl
  have fresh := isFresh_of_start started
  have state : p.ComesTo cells (p.observeAll cells).finish := .finished
  obtain ⟨hcount, hiff, -, hbound⟩ := distinct_le_iff_of_comesTo none 0 started state
  have hsecond := observe_eq_of_perm (p := p.observeAll ["a"]) "b"
    (l := [⟨"a", 1⟩, ⟨"b", 1⟩]) (by decide +kernel) (by decide +kernel) (by decide +kernel)
  have hthird : (p.observeAll ["a", "b", "b"]).newcomers = 3 := by
    rw [show ["a", "b", "b"] = ["a"] ++ ["b"] ++ ["b"] from rfl, observeAll_concat,
      observeAll_concat, newcomers_observe, hsecond]
    decide +kernel
  have hturned : (p.observeAll ["a", "b", "b"]).counting = .words :=
    beq_iff_eq.mp ((isText_observeAll_iff fresh _).mpr (by decide +kernel))
  have hvalues : p.valueCells cells = ["a", "b", "b"] := by
    unfold valueCells
    rw [if_pos ((isText_observeAll_iff fresh _).mpr (by decide +kernel))]
    rfl
  have hfourth : (p.observeAll cells).newcomers = 3 := by
    rw [show cells = ["a", "b", "b"] ++ ["c"] from rfl, observeAll_concat, newcomers_observe,
      hturned]
    exact hthird
  have hcounter := newcomers_observeAll fresh cells
  have hdistinct : report.distinct = 3 := hcount.trans (hcounter.symm.trans hfourth)
  have hback : p.comebacks cells = 1 := by
    rw [hfourth, hvalues] at hcounter
    exact Nat.add_left_cancel (hcounter.symm.trans (by decide +kernel : 3 = _ + 1))
  refine ⟨started, state, hback, hdistinct, hiff.mpr ?_, hbound ?_⟩
  · rw [hback, hvalues]
    decide +kernel
  · rw [hback]
    decide

/-- **A number that is a bound need not be one from below.** There is room for one value,
and the second is discarded; when it comes back it is counted a second time. -/
theorem not_distinct_le_three_cells :
    let settings : ProfileLimits := { maxInMemory := 1, maxToReport := 1 }
    let p : ColumnProfile := { name := "code", declared := none, settings }
    let cells := ["a", "b", "b"]
    let report := (p.observeAll cells).finish.report none 0
    start "code" none settings 0 = .ok p ∧ p.ComesTo cells (p.observeAll cells).finish
      ∧ report.distinctIsBound = true ∧ report.distinct = 3
      ∧ ¬ report.distinct ≤ cells.toFinset.card := by
  intro settings p cells report
  have started : start "code" none settings 0 = .ok p := rfl
  have fresh := isFresh_of_start started
  have state : p.ComesTo cells (p.observeAll cells).finish := .finished
  have hsecond := observe_eq_of_perm (p := p.observeAll ["a"]) "b"
    (l := [⟨"a", 1⟩, ⟨"b", 1⟩]) (by decide +kernel) (by decide +kernel) (by decide +kernel)
  have hthird : (p.observeAll cells).newcomers = 3 := by
    rw [show cells = ["a"] ++ ["b"] ++ ["b"] from rfl, observeAll_concat, observeAll_concat,
      newcomers_observe, hsecond]
    decide +kernel
  have hcard : cells.toFinset.card = 2 := by decide +kernel
  have hcounter : (p.valueCells cells).toFinset.card + p.comebacks cells = 3 :=
    (newcomers_observeAll fresh cells).symm.trans hthird
  have hdistinct : report.distinct = 3 := (state.distinct_eq none 0 fresh).trans hcounter
  refine ⟨started, state, Bool.of_not_eq_false fun hflag => ?_, hdistinct, ?_⟩
  · -- nothing would come back, and there are only two values to count
    obtain ⟨-, lossless⟩ := (state.distinctIsBound_eq_false_iff none 0 fresh).mp hflag
    have hfew := Finset.card_le_card (valueCells_subset p cells)
    rw [comebacks_eq_zero fresh lossless] at hcounter
    omega
  · rw [hdistinct, hcard]
    decide

end Start

end ColumnProfile

end TableProfile
