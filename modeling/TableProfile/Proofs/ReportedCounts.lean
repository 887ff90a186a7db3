import TableProfile.Proofs.ColumnRun
import TableProfile.Proofs.Ranking

/-!
# What a reported count is worth

A value in a report comes with a count, and the count decides whether the value
may be shown at all: values seen too rarely are left out. Entries can be lost on
the way, and values that were lost can come back as new ones and be taken apart
into words together with others. Whatever happens, a count never says more than
was seen, so that what is shown was seen often enough
(`count_le_of_mem_values_report`).

A column of few distinct values loses nothing. As many as fit into memory, or
into the report if it is wider, are never trimmed, and the report is then the
ranking of all values, without the rare ones and cut to its width
(`exists_table_report`). The trim at the end does not show in it, as it keeps
the entries that are reported.
-/

namespace TableProfile

namespace ColumnProfile

open TallySheet

variable {p q : ColumnProfile} {cells : List String} {knownRows : Option Int} {least : Nat}

/-- **The trim at the end does not show** in the values of a report. -/
theorem values_finish_report :
    (p.finish.report knownRows least).values
      = (p.values.ranked.filter fun e => least ≤ e.count).take p.settings.maxToReport :=
  entries_topAtLeast_trim p.values p.settings.maxToReport least

/-- **The mark of a report** stands if and only if the list is shorter than the sheet,
or the sheet has discarded an entry. That there is more than the width allows need not
be said apart, as the list is then shorter. -/
theorem valuesMissing_report_iff :
    (p.report knownRows least).valuesMissing = true
      ↔ (p.report knownRows least).values.length < p.values.size
        ∨ p.values.hasDiscarded = true := by
  let top := p.values.topAtLeast least p.settings.maxToReport
  have hmore : top.hasMore = true → top.entries.length < p.values.size := by
    intro h
    have hlength : (p.values.ranked.filter fun e => least ≤ e.count).length ≤ p.values.size :=
      (List.length_filter_le _ _).trans (length_ranked _).le
    exact (length_topAtLeast_le _ _ _).trans_lt ((of_decide_eq_true h).trans_le hlength)
  show (top.hasMore || Decidable.decide (top.entries.length < p.values.size)
      || p.values.hasDiscarded) = true ↔ top.entries.length < p.values.size ∨ _
  rw [Bool.or_eq_true, Bool.or_eq_true, decide_eq_true_iff, or_iff_right_of_imp hmore]

/-- **The trim at the end does not show** in a report. What the cut to the width of the
report says before it, the flag of the sheet says after it. -/
theorem finish_report_eq : p.finish.report knownRows least = p.report knownRows least := by
  have hvalues : (p.finish.report knownRows least).values = (p.report knownRows least).values :=
    entries_topAtLeast_trim p.values p.settings.maxToReport least
  have hwidth : (p.report knownRows least).values.length ≤ p.settings.maxToReport :=
    length_topAtLeast_le _ _ _
  have hmark : (p.finish.report knownRows least).valuesMissing
      = (p.report knownRows least).valuesMissing := by
    have hsize : p.finish.values.size = min p.values.size p.settings.maxToReport := size_trim _ _
    have hflag : p.finish.values.hasDiscarded
        = (p.values.hasDiscarded || Decidable.decide (p.settings.maxToReport < p.values.size)) :=
      hasDiscarded_trim _ _
    have hcut : (p.report knownRows least).values.length
          < min p.values.size p.settings.maxToReport ∨ p.settings.maxToReport < p.values.size
        ↔ (p.report knownRows least).values.length < p.values.size := by omega
    rw [Bool.eq_iff_iff, valuesMissing_report_iff, valuesMissing_report_iff, hvalues, hsize, hflag,
      Bool.or_eq_true, decide_eq_true_iff, or_comm (a := p.values.hasDiscarded = true), ← or_assoc,
      hcut]
  calc p.finish.report knownRows least
      = { p.report knownRows least with
          values := (p.finish.report knownRows least).values
          valuesMissing := (p.finish.report knownRows least).valuesMissing } := rfl
    _ = p.report knownRows least := by rw [hvalues, hmark]

/-- **In all its states**, a column reports the same of its cells. -/
theorem ComesTo.report_eq (state : p.ComesTo cells q) :
    q.report knownRows least = (p.observeAll cells).report knownRows least := by
  cases state with
  | running => rfl
  | finished => exact finish_report_eq

/-- What is no text counts cells. -/
theorem counting_eq_cells (typed : p.isText = false) : p.counting = .cells := by
  unfold isText at typed
  cases hcounting : p.counting with
  | cells => rfl
  | words =>
    rw [hcounting] at typed
    cases typed

/-! ## No count is too great -/

/-- **In all its states, a column understates what it counts.** -/
theorem ComesTo.understates (fresh : p.IsFresh) (h : p.ComesTo cells q) :
    q.values.Understates (q.counting.seen cells) := by
  cases h with
  | running => exact understates_observeAll cells fresh
  | finished => exact (understates_observeAll cells fresh).trim _

/-- **Reported counts never say too much.** Each value in a report was seen as
often as its count says at least, as a cell or, in a text, as a word; the count
is not below the threshold of the report; and no value is reported twice. -/
theorem count_le_of_mem_values_report {name : String} {declared : Option String}
    {settings : ProfileLimits} {seed : UInt64}
    (started : start name declared settings seed = .ok p) (state : p.ComesTo cells q) :
    ((q.report knownRows least).values.map (·.value)).Nodup
      ∧ ∀ e ∈ (q.report knownRows least).values, least ≤ e.count
        ∧ e.count ≤ (if q.isText then cells.flatMap cellWords else cells).count e.value := by
  refine ⟨nodup_values_topAtLeast _ _ _, fun e he => ?_⟩
  obtain ⟨hmem, hleast⟩ := mem_topAtLeast _ _ he
  have hseen : (if q.isText then cells.flatMap cellWords else cells) = q.counting.seen cells := by
    unfold isText
    cases q.counting <;> rfl
  refine ⟨hleast, ?_⟩
  rw [hseen, ← ((mem_entries _).mp hmem).2]
  exact (state.understates (isFresh_of_start started)).count_le e.value

/-- A value that comes back after a trim is counted anew: of three cells `c`,
the report knows the last two. -/
theorem count_le_of_mem_values_report_five_cells :
    let settings : ProfileLimits := { maxInMemory := 2, maxToReport := 1 }
    let p : ColumnProfile := { name := "code", declared := none, settings }
    let cells := ["c", "b", "a", "c", "c"]
    let q := (p.observeAll cells).finish
    start "code" none settings 0 = .ok p ∧ p.ComesTo cells q
      ∧ ⟨"c", 2⟩ ∈ (q.report none 2).values
      ∧ 2 ≤ (if q.isText then cells.flatMap cellWords else cells).count "c"
      ∧ cells.count "c" = 3 := by
  intro settings p cells q
  have started : start "code" none settings 0 = .ok p := rfl
  have state : p.ComesTo cells q := .finished
  -- the third value is one too many, and the first in order is kept
  have hthird : ((p.observe "c").observe "b").observe "a"
      = { ((p.observe "c").observe "b").takeIn "a" with
          values := { counts := countsOf [⟨"a", 1⟩], hasDiscarded := true }
          discardedEarly := true } := by
    have hsettings : (((p.observe "c").observe "b").takeIn "a").settings.maxToReport = 1 := by
      decide +kernel
    have htrim : (((p.observe "c").observe "b").takeIn "a").values.trim 1
        = { counts := countsOf [⟨"a", 1⟩], hasDiscarded := true } :=
      trim_eq_of_perm (l := [⟨"a", 1⟩, ⟨"b", 1⟩, ⟨"c", 1⟩]) (by decide +kernel)
        (by decide +kernel) (by decide +kernel)
    rw [observe_eq, bound_of_lt _ (by decide +kernel), hsettings, htrim]
  have hrun : p.observeAll cells
      = ((((p.observe "c").observe "b").observe "a").observe "c").observe "c" := by
    rw [observeAll, List.foldl_cons, List.foldl_cons, List.foldl_cons, List.foldl_cons,
      List.foldl_cons, List.foldl_nil]
  rw [hthird] at hrun
  have hranked : (p.observeAll cells).values.ranked = [⟨"c", 2⟩, ⟨"a", 1⟩] := by
    rw [hrun]
    exact ranked_eq_of_perm (by decide +kernel) (by decide +kernel)
  have hmem : ⟨"c", 2⟩ ∈ (q.report none 2).values := by
    rw [values_finish_report, hranked, settings_observeAll]
    decide +kernel
  exact ⟨started, state, hmem, ((count_le_of_mem_values_report started state).2 _ hmem).2,
    by decide +kernel⟩

/-! ## Few values lose nothing -/

/-- **A column of few distinct values discards nothing**, as long as it counts
values. -/
theorem discardsNothing_of_card_le (fresh : p.IsFresh)
    (typed : (p.observeAll cells).counting = .cells) (few : cells.toFinset.card ≤ p.room) :
    p.DiscardsNothing cells := by
  induction cells using List.reverseRecOn with
  | nil => exact (discardedEarly_observeAll [] fresh).mp (congrArg discardedEarly fresh)
  | append_singleton cells cell ih =>
    rw [observeAll_concat, observe_eq, counting_bound] at typed
    have turned := turned_observeAll cells fresh
    have hbefore : (p.observeAll cells).counting = .cells := by
      have hcounts := counts_takeIn cell turned
      rw [typed] at hcounts
      generalize ((p.observeAll cells).takeIn cell).values = values at hcounts
      cases hcounts with
      | value was stays => exact was
    have hsubset : cells.toFinset ⊆ (cells ++ [cell]).toFinset := fun v hv =>
      List.mem_toFinset.mpr (List.mem_append_left _ (List.mem_toFinset.mp hv))
    have hearlier := ih hbefore ((Finset.card_le_card hsubset).trans few)
    have htally := isTallyOf_observeAll cells fresh hearlier
    rw [hbefore] at htally
    have hsize : ((p.observeAll cells).takeIn cell).values.size
        = (cells ++ [cell]).toFinset.card := by
      rw [values_takeIn_of_cells cell turned typed]
      exact (htally.addAll [cell]).size_eq
    refine (discardsNothing_concat p cell cells).mpr ⟨hearlier, fun hdiscards => ?_⟩
    rw [discards_iff, hsize, room, settings_takeIn, settings_observeAll] at hdiscards
    exact absurd few (Nat.not_le.mpr hdiscards)

/-- The mark of a report on a sheet that has discarded nothing: it stands if and only
if the list is shorter than the sheet was before the last trim. -/
theorem valuesMissing_finish_iff (flag : p.values.hasDiscarded = false) :
    (p.finish.report knownRows least).valuesMissing = true
      ↔ (p.finish.report knownRows least).values.length < p.values.size := by
  rw [finish_report_eq, valuesMissing_report_iff, flag, or_iff_left Bool.false_ne_true]

/-- **The report of few values** is exact. There is one table of the cells in
order, each value with its number of occurrences; its counts sum to the number
of rows. What is reported are the first of its entries that are frequent enough,
and the mark says whether there are values that are not reported. -/
theorem exists_table_report {name : String} {declared : Option String}
    {settings : ProfileLimits} {seed : UInt64}
    (started : start name declared settings seed = .ok p)
    (typed : (p.observeAll cells).isText = false)
    (few : cells.toFinset.card ≤ max settings.maxInMemory settings.maxToReport) :
    let report := (p.observeAll cells).finish.report knownRows least
    ∃ table, IsTableOf table cells ∧ table.Pairwise Tally.Precedes
      ∧ report.values = (table.filter fun e => least ≤ e.count).take settings.maxToReport
      ∧ (table.map (·.count)).sum = report.rows
      ∧ (report.valuesMissing = true ↔ report.values.length < cells.toFinset.card) := by
  intro report
  have fresh := isFresh_of_start started
  obtain rfl := settings_of_start started
  have hcells := counting_eq_cells typed
  have lossless := discardsNothing_of_card_le fresh hcells few
  have htally := isTallyOf_observeAll cells fresh lossless
  rw [hcells] at htally
  have hrows : report.rows = cells.length := ComesTo.finished.rows_eq cells fresh
  refine ⟨(p.observeAll cells).values.ranked, htally.isTableOf_ranked, pairwise_ranked _, ?_, ?_, ?_⟩
  · exact values_finish_report.trans (by rw [settings_observeAll])
  · exact htally.isTableOf_ranked.sum_count.trans hrows.symm
  · have hmark : report.valuesMissing = true
        ↔ report.values.length < (p.observeAll cells).values.size :=
      valuesMissing_finish_iff (hasDiscarded_observeAll cells fresh lossless)
    rwa [htally.size_eq] at hmark

/-- There is memory for two values, but the report is wide enough for the three
of them; the two that occur once are too rare. -/
theorem exists_table_report_three_values :
    let settings : ProfileLimits := { maxInMemory := 2, maxToReport := 3 }
    let p : ColumnProfile := { name := "code", declared := none, settings }
    let cells := ["b", "a", "b", "é"]
    let report := (p.observeAll cells).finish.report none 2
    start "code" none settings 0 = .ok p ∧ (p.observeAll cells).isText = false
      ∧ cells.toFinset.card ≤ max settings.maxInMemory settings.maxToReport
      ∧ report.values = [⟨"b", 2⟩] ∧ report.valuesMissing = true := by
  intro settings p cells report
  have started : start "code" none settings 0 = .ok p := rfl
  have typed : (p.observeAll cells).isText = false := by decide +kernel
  have few : cells.toFinset.card ≤ max settings.maxInMemory settings.maxToReport := by
    decide +kernel
  obtain ⟨table, htable, hordered, hvalues, -, hmark⟩ :
      ∃ table, IsTableOf table cells ∧ table.Pairwise Tally.Precedes
        ∧ report.values = (table.filter fun e => 2 ≤ e.count).take settings.maxToReport
        ∧ (table.map (·.count)).sum = report.rows
        ∧ (report.valuesMissing = true ↔ report.values.length < cells.toFinset.card) :=
    exists_table_report started typed few
  have hperm : (cells.dedup.map fun v => (⟨v, cells.count v⟩ : Tally)).Perm
      [⟨"b", 2⟩, ⟨"a", 1⟩, ⟨"é", 1⟩] := by decide +kernel
  obtain rfl : table = [⟨"b", 2⟩, ⟨"a", 1⟩, ⟨"é", 1⟩] :=
    htable.eq_of_pairwise ((isTableOf_congr hperm).mp (isTableOf_map_dedup cells)) hordered
      (by decide +kernel)
  have hlist : report.values = [⟨"b", 2⟩] := hvalues.trans (by decide +kernel)
  refine ⟨started, typed, few, hlist, hmark.mpr ?_⟩
  rw [hlist]
  decide +kernel

end ColumnProfile

end TableProfile
