import TableProfile.Proofs.ColumnRun

/-!
# What a report that misses no value is worth

A report lists the most frequent values of a column and says whether values
are missing from the list. Entries can be lost in several places: to a trim
during the scan, to the trim at its end, to the threshold for rare values,
and to the width of the report. The mark is assembled from what the last
three leave behind and from the flag of the sheet.

For a column of values that is enough: a list without the mark is the table
of all its cells. For a column of text it is not, as the sheet of words knows
nothing of the trims before the turn. There the list is the table of all
words exactly if the values held before the checkpoint had their full
counts, values without words apart (`isTableOf_values_report_iff`).
-/

namespace TableProfile

namespace ColumnProfile

open TallySheet

variable {p : ColumnProfile} {cells : List String} {knownRows : Option Int} {least : Nat}

/-- **A list without the mark is the whole sheet**, and the sheet has
discarded nothing that it knows of. -/
theorem perm_values_report (unmarked : (p.finish.report knownRows least).valuesMissing = false) :
    (p.finish.report knownRows least).values.Perm p.values.entries
      ∧ p.values.hasDiscarded = false := by
  set trimmed := p.values.trim p.settings.maxToReport with htrimmed
  set top := trimmed.topAtLeast least p.settings.maxToReport with htop
  have hsignals : (top.hasMore || Decidable.decide (top.entries.length < trimmed.size)
      || trimmed.hasDiscarded) = false := unmarked
  rw [Bool.or_eq_false_iff, Bool.or_eq_false_iff, decide_eq_false_iff_not, Nat.not_lt] at hsignals
  obtain ⟨⟨-, hlength⟩, hflag⟩ := hsignals
  rw [htrimmed, hasDiscarded_trim, Bool.or_eq_false_iff, decide_eq_false_iff_not,
    Nat.not_lt] at hflag
  have hsame : trimmed = p.values := trim_of_size_le _ _ hflag.2
  refine ⟨?_, hflag.1⟩
  show top.entries.Perm p.values.entries
  rw [← hsame]
  exact perm_topAtLeast_of_length trimmed hlength

/-- The values that are held before the checkpoint have their full counts,
those without words apart. -/
def FullBeforeTurn (p : ColumnProfile) (cells : List String) : Prop :=
  ∀ v, cellWords v ≠ [] →
    (p.observeAll (cells.take (p.settings.checkpoint - 1))).values.count v
      = (cells.take (p.settings.checkpoint - 1)).count v

/-- A sheet of words without the flag is the tally of the words exactly if
nothing was missing before the turn. -/
theorem isTallyOf_words_iff (fresh : p.IsFresh) (h : (p.observeAll cells).counting = .words)
    (flag : (p.observeAll cells).values.hasDiscarded = false) :
    (p.observeAll cells).values.IsTallyOf (cells.flatMap cellWords) ↔ p.FullBeforeTurn cells := by
  obtain ⟨before, turn, after, rfl, hlength, hcells, hcount⟩ :=
    count_of_hasDiscarded_eq_false cells fresh h flag
  have hzero := (understates_observeAll (before ++ turn :: after) fresh).noneZero
  have hbefore := understates_observeAll before fresh
  rw [hcells] at hbefore
  have htake : (before ++ turn :: after).take (p.settings.checkpoint - 1) = before := by
    rw [← hlength, Nat.add_sub_cancel, List.take_left]
  have hsplit : ∀ w, ((before ++ turn :: after).flatMap cellWords).count w
      = ((before ++ [turn]).flatMap cellWords).count w + (after.flatMap cellWords).count w := by
    intro w
    rw [← List.count_append, ← List.flatMap_append, List.append_assoc]
    rfl
  calc (p.observeAll (before ++ turn :: after)).values.IsTallyOf _
      ↔ ∀ w, (tokenize ((p.observeAll before).values.add turn)).count w
          = ((before ++ [turn]).flatMap cellWords).count w := by
        refine ⟨fun hall w => ?_, fun hall => ⟨hzero, fun w => ?_⟩⟩
        · have hw := hall.count_eq w
          rw [hcount, hsplit] at hw
          exact Nat.add_right_cancel hw
        · rw [hcount, hsplit, hall]
    _ ↔ ∀ v, cellWords v ≠ [] → ((p.observeAll before).values.add turn).count v
          = (before ++ [turn]).count v :=
        count_tokenize_eq_iff (hbefore.addAll [turn])
    _ ↔ p.FullBeforeTurn (before ++ turn :: after) := by
        unfold FullBeforeTurn
        rw [htake]
        refine forall₂_congr (fun v _ => ?_)
        rw [count_add, List.count_append, Nat.add_right_cancel_iff]

/-- Where nothing is discarded before the checkpoint, the counts are full. -/
theorem fullBeforeTurn_of_discardsNothing (fresh : p.IsFresh)
    (lossless : p.DiscardsNothing (cells.take (p.settings.checkpoint - 1))) :
    p.FullBeforeTurn cells := by
  intro v hv
  have htally := isTallyOf_observeAll _ fresh lossless
  cases hcounting : (p.observeAll (cells.take (p.settings.checkpoint - 1))).counting with
  | cells =>
    rw [hcounting] at htally
    exact htally.count_eq v
  | words =>
    -- the checkpoint is still to come, or there are no cells
    have hpast := turned_observeAll (cells.take (p.settings.checkpoint - 1)) fresh hcounting
    rw [settings_observeAll, rows_observeAll, show p.rows = 0 from congrArg rows fresh] at hpast
    have hshort := cells.length_take_le (p.settings.checkpoint - 1)
    have hnone : p.settings.checkpoint - 1 = 0 := by omega
    rw [hnone, List.take_zero, observeAll_nil, fresh] at hcounting
    cases hcounting

/-- **What the mark promises.** A list without it is the table of everything
that the column counted – each value, or each word, with its number of
occurrences, and nothing else – if and only if the column is no text, or its
sheet was full before the turn. -/
theorem isTableOf_values_report_iff {name : String} {declared : Option String}
    {settings : ProfileLimits} {seed : UInt64}
    (started : start name declared settings seed = .ok p)
    (unmarked : ((p.observeAll cells).finish.report knownRows least).valuesMissing = false) :
    IsTableOf ((p.observeAll cells).finish.report knownRows least).values
        ((p.observeAll cells).counting.seen cells)
      ↔ ((p.observeAll cells).isText = true → p.FullBeforeTurn cells) := by
  have fresh := isFresh_of_start started
  obtain ⟨hperm, hflag⟩ := perm_values_report unmarked
  have hzero := (understates_observeAll cells fresh).noneZero
  rw [isTableOf_congr hperm, isTableOf_entries_iff hzero, isText]
  cases hcounting : (p.observeAll cells).counting with
  | cells =>
    have hlossless := hasDiscarded_observeAll_of_cells cells fresh hcounting
    rw [hflag, eq_comm, discardedEarly_observeAll cells fresh] at hlossless
    have htally := isTallyOf_observeAll cells fresh hlossless
    rw [hcounting] at htally
    exact iff_of_true htally (fun h => absurd h Bool.false_ne_true)
  | words =>
    exact (isTallyOf_words_iff fresh hcounting hflag).trans
      ⟨fun hfull _ => hfull, fun h => h rfl⟩

/-- A column of text that discards nothing before its turn has a list worth
its word. -/
theorem isTableOf_values_report_two_cells :
    let settings : ProfileLimits := { checkpoint := 2, minAverageLength := 1 }
    let p : ColumnProfile := { name := "note", declared := none, settings }
    let cells := ["Ab ab", " ", "ab"]
    start "note" none settings 0 = .ok p
      ∧ ((p.observeAll cells).finish.report none 0).valuesMissing = false
      ∧ IsTableOf ((p.observeAll cells).finish.report none 0).values
          ((p.observeAll cells).counting.seen cells) := by
  intro settings p cells
  have started : start "note" none settings 0 = .ok p := rfl
  have unmarked : ((p.observeAll cells).finish.report none 0).valuesMissing = false := by
    decide +kernel
  refine ⟨started, unmarked, (isTableOf_values_report_iff started unmarked).mpr (fun _ => ?_)⟩
  have fresh := isFresh_of_start started
  exact fullBeforeTurn_of_discardsNothing fresh
    ((discardedEarly_observeAll _ fresh).mp (by decide +kernel))

/-- **The mark is not honest for texts.** With room for one value, the value
`beta` is discarded before the third cell turns the column into text. The
list then has the word `alpha` alone, and no mark. -/
theorem not_isTableOf_values_report :
    let settings : ProfileLimits :=
      { maxInMemory := 1, maxToReport := 1, checkpoint := 3, minAverageLength := 1 }
    let p : ColumnProfile := { name := "c", declared := none, settings }
    let cells := ["alpha", "beta", "alpha"]
    start "c" none settings 0 = .ok p
      ∧ (p.observeAll cells).isText = true
      ∧ ((p.observeAll cells).finish.report none 0).valuesMissing = false
      ∧ ¬ IsTableOf ((p.observeAll cells).finish.report none 0).values
          (cells.flatMap cellWords) := by
  intro settings p cells
  have turned : p.Turned := turned_observeAll [] rfl
  have halpha : (p.observe "alpha").values = ({} : TallySheet).add "alpha" := by
    rw [observe_of_not_discards (by decide +kernel),
      values_takeIn_of_cells "alpha" turned (by decide +kernel)]
  have hboth : ((p.observe "alpha").takeIn "beta").values
      = (({} : TallySheet).add "alpha").add "beta" := by
    rw [values_takeIn_of_cells "beta" (turned_observe turned) (by decide +kernel), halpha]
  -- the trim after `beta` keeps the value that comes first
  have hranked : ((({} : TallySheet).add "alpha").add "beta").ranked
      = [⟨"alpha", 1⟩, ⟨"beta", 1⟩] := by
    have hentries : ((({} : TallySheet).add "alpha").add "beta").entries
        = [⟨"alpha", 1⟩, ⟨"beta", 1⟩] := by decide +kernel
    rw [TallySheet.ranked, hentries]
    exact List.mergeSort_of_pairwise (by decide +kernel)
  have hbeta : ((p.observe "alpha").observe "beta")
      = { (p.observe "alpha").takeIn "beta" with
          values := { counts := .insert ∅ "alpha" 1, hasDiscarded := true }
          discardedEarly := true } := by
    rw [observe_eq, bound_of_lt _ (by decide +kernel)]
    refine congrArg (fun values => { (p.observe "alpha").takeIn "beta" with
      values, discardedEarly := true }) ?_
    rw [hboth, settings_takeIn, observe_eq, settings_bound, settings_takeIn, trim,
      if_neg (by decide +kernel), hranked]
    rfl
  have hrun : p.observeAll cells = ((p.observe "alpha").observe "beta").observe "alpha" := by
    rw [observeAll, List.foldl_cons, List.foldl_cons, List.foldl_cons, List.foldl_nil]
  rw [hbeta] at hrun
  rw [hrun]
  refine ⟨rfl, by decide +kernel, by decide +kernel, ?_⟩
  rintro ⟨-, htable⟩
  have hcount : (cells.flatMap cellWords).count "beta" = 1 := by decide +kernel
  exact absurd ((htable "beta" 1).mpr ⟨Nat.one_pos, hcount.symm⟩) (by decide +kernel)

end ColumnProfile

end TableProfile
