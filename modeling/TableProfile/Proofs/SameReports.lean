import TableProfile.Proofs.DistinctValues
import TableProfile.Proofs.TypeChanges

/-!
# Columns that report the same

Two things do not show in a report. The first is the trim that finishes a column: what
the list is cut to before it, the sheet is cut to by it, and the mark that values are
missing comes from the cut in one case and from the sheet in the other.

The second is the order of the cells, where it should not show. The turn into free text
is decided by the cells up to the checkpoint, and from there on no new value is counted.
So what comes before the checkpoint and what comes after it must not be mixed; but on
either side, the cells may come in any order, as long as no trim discards an entry: a
trim chooses by the counts so far, and these are a matter of order. Without one, all
that a column keeps, its sampler apart, is the same (`Rearranged.observeAll_eq`). Nor
does it matter in which order a sheet lists its entries, as it is taken apart in any
order, and ranked in one.
-/

namespace TableProfile

/-- What a column counts of its cells comes in another order too. -/
theorem Counting.perm_seen (counting : Counting) {cells cells' : List String}
    (h : cells.Perm cells') : (counting.seen cells).Perm (counting.seen cells') := by
  cases counting with
  | cells => exact h
  | words => exact h.flatMap_right _

theorem TallySheet.IsTallyOf.of_perm {sheet : TallySheet} {seen seen' : List String}
    (h : sheet.IsTallyOf seen) (perm : seen.Perm seen') : sheet.IsTallyOf seen' :=
  ⟨h.noneZero, fun v => (h.count_eq v).trans (perm.count_eq v)⟩

namespace ColumnProfile

open TallySheet

/-! ## The trim at the end -/

/-- **The trim at the end does not show** in a report, whatever was looked at and
discarded before. It leaves the column as it is only if all its entries can be
reported. -/
theorem finish_report_observeAll (p : ColumnProfile) (cells : List String)
    (knownRows : Option Int) (least : Nat) :
    (p.observeAll cells).finish.report knownRows least
        = (p.observeAll cells).report knownRows least
      ∧ ((p.observeAll cells).finish = p.observeAll cells
        ↔ (p.observeAll cells).values.size ≤ p.settings.maxToReport) := by
  refine ⟨finish_report_eq, ?_⟩
  rw [← settings_observeAll p cells]
  constructor
  · intro h
    have hsize : (p.observeAll cells).finish.values.size
        = min (p.observeAll cells).values.size (p.observeAll cells).settings.maxToReport :=
      size_trim _ _
    rw [h] at hsize
    exact left_eq_inf.mp hsize
  · intro h
    unfold finish
    rw [trim_of_size_le _ _ h]

/-! ## What does not depend on an order -/

variable (p : ColumnProfile) {p' : ColumnProfile} (cells : List String) {cells' : List String}

theorem name_observeAll : (p.observeAll cells).name = p.name := by
  induction cells using List.reverseRecOn with
  | nil => rfl
  | append_singleton cells cell ih =>
    obtain ⟨_, _, _, _, _, _, _, htakeIn⟩ := takeIn_eq (p.observeAll cells) cell
    obtain ⟨_, _, hbound⟩ := bound_eq ((p.observeAll cells).takeIn cell)
    rw [observeAll_concat, observe_eq, hbound, htakeIn]
    exact ih

/-- The longest of the cells. -/
theorem longest_observeAll :
    (p.observeAll cells).longest = (cells.map String.length).foldl max p.longest := by
  induction cells using List.reverseRecOn with
  | nil => rfl
  | append_singleton cells cell ih =>
    obtain ⟨_, _, _, _, _, _, _, htakeIn⟩ := takeIn_eq (p.observeAll cells) cell
    obtain ⟨_, _, hbound⟩ := bound_eq ((p.observeAll cells).takeIn cell)
    rw [observeAll_concat, observe_eq, hbound, htakeIn, List.map_append, List.foldl_append, ← ih]
    rfl

variable {p cells}

/-- **Whether cells look like free text** is not a matter of their order. -/
theorem looksLikeText_iff_of_perm (h : cells.Perm cells') (least : Nat) :
    LooksLikeText least cells ↔ LooksLikeText least cells' := by
  unfold LooksLikeText
  rw [(h.map String.length).sum_eq, h.countP_eq]
  simp only [h.mem_iff]

/-- **The types that are kept** are not a matter of the order of the cells. -/
theorem keptBy_eq_of_perm (h : cells.Perm cells') (fresh : p.IsFresh) (fresh' : p'.IsFresh)
    (t : ValueType) : t.keptBy (p.observeAll cells) = t.keptBy (p'.observeAll cells') := by
  rw [Bool.eq_iff_iff, t.keptBy_observeAll_iff cells fresh, t.keptBy_observeAll_iff cells' fresh']
  unfold ValueType.AdmitsAll
  simp only [h.mem_iff]

/-! ## The order of the cells -/

/-- **Cells in another order** around a checkpoint: those up to it among themselves,
and those after it among themselves. -/
structure Rearranged (checkpoint : Nat) (cells cells' : List String) : Prop where
  /-- The cells up to the checkpoint. -/
  earlier : (cells.take checkpoint).Perm (cells'.take checkpoint)
  /-- The cells after it. -/
  later : (cells.drop checkpoint).Perm (cells'.drop checkpoint)

namespace Rearranged

variable {checkpoint : Nat}

/-- No more cells than up to the checkpoint may come in any order. -/
theorem of_length_le (h : cells.Perm cells') (short : cells.length ≤ checkpoint) :
    Rearranged checkpoint cells cells' := by
  have short' : cells'.length ≤ checkpoint := h.length_eq ▸ short
  refine ⟨?_, ?_⟩
  · rwa [List.take_of_length_le short, List.take_of_length_le short']
  · rw [List.drop_of_length_le short, List.drop_of_length_le short']

theorem perm (h : Rearranged checkpoint cells cells') : cells.Perm cells' := by
  rw [← List.take_append_drop checkpoint cells, ← List.take_append_drop checkpoint cells']
  exact h.earlier.append h.later

section Run

variable (h : Rearranged p.settings.checkpoint cells cells') (fresh : p.IsFresh)
  (fresh' : p'.IsFresh) (settings : p.settings = p'.settings)

include h fresh fresh' settings

/-- **The decision for free text** is the same. -/
theorem isText_eq : (p.observeAll cells).isText = (p'.observeAll cells').isText := by
  rw [Bool.eq_iff_iff, isText_observeAll_iff fresh, isText_observeAll_iff fresh', ← settings,
    h.perm.length_eq, looksLikeText_iff_of_perm h.earlier]

theorem counting_eq : (p.observeAll cells).counting = (p'.observeAll cells').counting := by
  have htext := h.isText_eq fresh fresh' settings
  cases hcounting : (p.observeAll cells).counting with
  | cells =>
    have htyped : (p.observeAll cells).isText = false := by
      rw [isText, hcounting]
      rfl
    exact (counting_eq_cells (htext.symm.trans htyped)).symm
  | words =>
    have hwords : (p.observeAll cells).isText = true := beq_iff_eq.mpr hcounting
    exact (beq_iff_eq.mp (htext.symm.trans hwords)).symm

/-- The cells that are counted as values are the same. -/
theorem perm_valueCells : (p.valueCells cells).Perm (p'.valueCells cells') := by
  unfold valueCells
  rw [h.isText_eq fresh fresh' settings, ← settings]
  split
  · exact h.earlier
  · exact h.perm

variable (lossless : p.DiscardsNothing cells) (lossless' : p'.DiscardsNothing cells')

include lossless lossless'

/-- As nothing comes back, the counters are those of the values. -/
theorem newcomers_eq : (p.observeAll cells).newcomers = (p'.observeAll cells').newcomers := by
  have hvalues := h.perm_valueCells fresh fresh' settings
  rw [newcomers_observeAll fresh, newcomers_observeAll fresh', comebacks_eq_zero fresh lossless,
    comebacks_eq_zero fresh' lossless', List.toFinset_eq_of_perm _ _ hvalues]

/-- **The sheets are the same**, as they are tallies of the same. -/
theorem values_eq : (p.observeAll cells).values = (p'.observeAll cells').values := by
  have htally := isTallyOf_observeAll cells fresh lossless
  have htally' := isTallyOf_observeAll cells' fresh' lossless'
  rw [← h.counting_eq fresh fresh' settings] at htally'
  refine (htally.of_perm (Counting.perm_seen _ h.perm)).ext htally' ?_
  rw [hasDiscarded_observeAll cells fresh lossless, hasDiscarded_observeAll cells' fresh' lossless']

/-- **What a column keeps**, its sampler apart, is not a matter of the order of the cells
on either side of the checkpoint, as long as nothing is discarded. -/
theorem observeAll_eq (hname : p.name = p'.name) (hdeclared : p.declared = p'.declared) :
    { p.observeAll cells with sampler := none }
      = { p'.observeAll cells' with sampler := none } := by
  have htotal : p.totalLength = p'.totalLength :=
    (congrArg totalLength fresh).trans (congrArg totalLength fresh').symm
  have hlongest : p.longest = p'.longest :=
    (congrArg longest fresh).trans (congrArg longest fresh').symm
  rw [ColumnProfile.mk.injEq]
  refine ⟨?_, ?_, ?_, h.counting_eq fresh fresh' settings, ?_, ?_, ?_, ?_,
    keptBy_eq_of_perm h.perm fresh fresh' .integer, keptBy_eq_of_perm h.perm fresh fresh' .real,
    keptBy_eq_of_perm h.perm fresh fresh' .date,
    h.newcomers_eq fresh fresh' settings lossless lossless',
    h.values_eq fresh fresh' settings lossless lossless', ?_, rfl⟩
  · rw [name_observeAll, name_observeAll, hname]
  · rw [declared_observeAll, declared_observeAll, hdeclared]
  · rw [settings_observeAll, settings_observeAll, settings]
  · rw [ComesTo.running.rows_eq cells fresh, ComesTo.running.rows_eq cells' fresh',
      h.perm.length_eq]
  · rw [ComesTo.running.blanks_eq cells fresh, ComesTo.running.blanks_eq cells' fresh',
      h.perm.countP_eq]
  · rw [totalLength_observeAll, totalLength_observeAll, (h.perm.map _).sum_eq, htotal]
  · rw [longest_observeAll, longest_observeAll, (h.perm.map _).foldl_eq, hlongest]
  · rw [(discardedEarly_observeAll cells fresh).mpr lossless,
      (discardedEarly_observeAll cells' fresh').mpr lossless']

end Run

end Rearranged

/-- **The order of the cells does not show** in a report. Two columns with the same name,
declared type and limits look at cells that are rearranged on either side of the
checkpoint. If neither discards an entry before it is finished, their reports agree in
all but the numbers, which come from a sample. The order in which a sheet lists its
entries does not show either: in any order they are taken apart into the same words, and
there is one order in which they are ranked. -/
theorem report_eq_of_rearranged {name : String} {declared : Option String}
    {settings : ProfileLimits} {seed seed' : UInt64}
    (started : start name declared settings seed = .ok p)
    (started' : start name declared settings seed' = .ok p')
    (rearranged : Rearranged settings.checkpoint cells cells')
    (lossless : p.DiscardsNothing cells) (lossless' : p'.DiscardsNothing cells') :
    (∀ knownRows least,
      { (p.observeAll cells).finish.report knownRows least with numbers := none }
        = { (p'.observeAll cells').finish.report knownRows least with numbers := none })
      ∧ ∀ (sheet : TallySheet) (order : List Tally), order.Perm sheet.entries →
        order.foldl addWords {} = tokenize sheet
          ∧ (order.Pairwise Tally.Precedes → order = sheet.ranked) := by
  have fresh := isFresh_of_start started
  have fresh' := isFresh_of_start started'
  have hp := eq_of_start started
  have hp' := eq_of_start started'
  have hname : p.name = p'.name :=
    (congrArg ColumnProfile.name hp).trans (congrArg ColumnProfile.name hp').symm
  have hdeclared : p.declared = p'.declared :=
    (declared_of_start started).trans (declared_of_start started').symm
  have hsettings : p.settings = p'.settings :=
    (settings_of_start started).trans (settings_of_start started').symm
  rw [← settings_of_start started] at rearranged
  have hkept := rearranged.observeAll_eq fresh fresh' hsettings lossless lossless' hname hdeclared
  refine ⟨fun knownRows least => ?_, fun sheet order perm => ?_⟩
  · -- a report reads the sampler for the numbers only
    exact congrArg (fun q : ColumnProfile => q.finish.report knownRows least) hkept
  · refine ⟨foldl_addWords_perm {} perm, fun ordered => ?_⟩
    exact (ranked_eq_of_perm perm.symm ordered).symm

/-- The third cell is the checkpoint and turns the column into a text, which has four words
in the end and a report of one. The first three cells come in another order, and so do
the last two; the first two alone may come in any order. -/
theorem report_eq_of_rearranged_five_cells :
    let settings : ProfileLimits := { maxToReport := 1, checkpoint := 3, minAverageLength := 2 }
    let p : ColumnProfile := { name := "note", declared := none, settings }
    let cells := ["b a", " ", "Ab", "a c", "c"]
    let cells' := ["Ab", "b a", " ", "c", "a c"]
    start "note" none settings 0 = .ok p ∧ Rearranged settings.checkpoint cells cells'
      ∧ p.DiscardsNothing cells ∧ p.DiscardsNothing cells'
      ∧ (p.observeAll cells).isText = true
      ∧ { (p.observeAll cells).finish.report none 2 with numbers := none }
        = { (p.observeAll cells').finish.report none 2 with numbers := none }
      ∧ { (p.observeAll ["b a", " "]).finish.report none 0 with numbers := none }
        = { (p.observeAll [" ", "b a"]).finish.report none 0 with numbers := none } := by
  intro settings p cells cells'
  have started : start "note" none settings 0 = .ok p := rfl
  have fresh := isFresh_of_start started
  have rearranged : Rearranged settings.checkpoint cells cells' :=
    ⟨by decide +kernel, by decide +kernel⟩
  have lossless : p.DiscardsNothing cells :=
    (discardedEarly_observeAll cells fresh).mp (by decide +kernel)
  have lossless' : p.DiscardsNothing cells' :=
    (discardedEarly_observeAll cells' fresh).mp (by decide +kernel)
  obtain ⟨hreports, -⟩ := report_eq_of_rearranged started started rearranged lossless lossless'
  obtain ⟨hearly, -⟩ := report_eq_of_rearranged started started
    (Rearranged.of_length_le (List.Perm.swap " " "b a" []) (by decide))
    ((discardedEarly_observeAll ["b a", " "] fresh).mp (by decide +kernel))
    ((discardedEarly_observeAll [" ", "b a"] fresh).mp (by decide +kernel))
  exact ⟨started, rearranged, lossless, lossless',
    (isText_observeAll_iff fresh cells).mpr (by decide +kernel), hreports none 2, hearly none 0⟩

end ColumnProfile

end TableProfile
