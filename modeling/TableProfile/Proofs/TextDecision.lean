import TableProfile.Proofs.InferredTypes

/-!
# When a column turns into free text

Whether a column is free text is decided at one moment, and the cells up to
then decide it. The test reads five things that are kept along the way, three
types, the length of all cells and the number of blank ones, and each of them is
what it would be if the cells were looked at together
(`resemblesText_tested_iff`). So the test is a property of the first cells
(`LooksLikeText`), and in every state the column is free text if and only if it
has come to its checkpoint and the cells up to there look like text
(`isText_observeAll_iff`). What was discarded in the meantime plays no part.

A column without a type has a value, so that the mean length is never taken of
no values.
-/

namespace TableProfile

namespace ColumnProfile

open Number

/-- **Cells that look like free text**: not all values are whole numbers of
sixty-four bits, nor finite numbers, nor dates, and the cells have so many
characters for each value. Blank cells are no values, but they have characters. -/
def LooksLikeText (least : Nat) (cells : List String) : Prop :=
  (∃ cell ∈ cells, isBlankCell cell = false ∧ int64? (content cell) = none)
    ∧ (∃ cell ∈ cells, isBlankCell cell = false ∧ finite? (content cell) = none)
    ∧ (∃ cell ∈ cells, isBlankCell cell = false ∧ Calendar.isDate (content cell) = false)
    ∧ least ≤ (cells.map String.length).sum / cells.countP (fun cell => !isBlankCell cell)

instance (least : Nat) (cells : List String) : Decidable (LooksLikeText least cells) :=
  inferInstanceAs (Decidable (_ ∧ _))

variable {p q : ColumnProfile} {cells : List String} {cell : String}

/-! ## What the test reads -/

@[simp] theorem totalLength_takeIn (p : ColumnProfile) (cell : String) :
    (p.takeIn cell).totalLength = p.totalLength + cell.length := by
  obtain ⟨_, _, _, _, _, _, _, h⟩ := takeIn_eq p cell
  rw [h]
  rfl

@[simp] theorem totalLength_bound (p : ColumnProfile) : p.bound.totalLength = p.totalLength := by
  unfold bound
  split <;> rfl

/-- The lengths of the cells are added up. -/
theorem totalLength_observeAll (p : ColumnProfile) (cells : List String) :
    (p.observeAll cells).totalLength = p.totalLength + (cells.map String.length).sum := by
  induction cells using List.reverseRecOn with
  | nil => rfl
  | append_singleton cells cell ih =>
    rw [observeAll_concat, observe_eq, totalLength_bound, totalLength_takeIn, ih, List.map_append,
      List.sum_append, List.map_singleton, List.sum_singleton, Nat.add_assoc]

/-- **The state in which the test is made**: the cell is counted, and the sheet
is not taken apart yet. -/
def tested (p : ColumnProfile) (cell : String) : ColumnProfile :=
  (p.measure cell).tally cell

/-- The cells that are not blank are the ones that are left. -/
theorem countP_not_isBlankCell (cells : List String) :
    cells.countP (fun cell => !isBlankCell cell) = cells.length - cells.countP isBlankCell := by
  have hlength := List.length_eq_countP_add_countP isBlankCell (l := cells)
  simp only [Bool.not_eq_true, Bool.decide_eq_false] at hlength
  omega

section Run

variable (fresh : p.IsFresh)

include fresh

theorem measured_tested (cells : List String) (cell : String) :
    ((p.observeAll cells).tested cell).totalLength = ((cells ++ [cell]).map String.length).sum
      ∧ ((p.observeAll cells).tested cell).rows - ((p.observeAll cells).tested cell).blanks
          = (cells ++ [cell]).countP (fun cell => !isBlankCell cell) := by
  -- taking in the cell measures it in the same way
  obtain ⟨_, _, _, _, _, htally⟩ := tally_eq ((p.observeAll cells).measure cell) cell
  have hlength : ((p.observeAll cells).tested cell).totalLength
      = (p.observeAll (cells ++ [cell])).totalLength := by
    rw [observeAll_concat, observe_eq, totalLength_bound, totalLength_takeIn, tested, htally]
    rfl
  have hrows : ((p.observeAll cells).tested cell).rows = (p.observeAll (cells ++ [cell])).rows := by
    rw [observeAll_concat, observe_eq, rows_bound, rows_takeIn, tested, htally]
    rfl
  have hblanks : ((p.observeAll cells).tested cell).blanks
      = (p.observeAll (cells ++ [cell])).blanks := by
    rw [observeAll_concat, observe_eq, blanks_bound, blanks_takeIn, tested, htally]
    rfl
  have hfirst : p.totalLength = 0 := congrArg totalLength fresh
  rw [hlength, hrows, hblanks, ComesTo.running.rows_eq _ fresh, ComesTo.running.blanks_eq _ fresh,
    totalLength_observeAll, countP_not_isBlankCell, hfirst, Nat.zero_add]
  exact ⟨rfl, rfl⟩

/-- **The types that are kept at the test** are those of all cells, the new one
with them. -/
theorem keptBy_tested_iff (t : ValueType) (cells : List String) (cell : String) :
    t.keptBy ((p.observeAll cells).tested cell) = true ↔ t.AdmitsAll (cells ++ [cell]) := by
  have hrun := ValueType.keptBy_observeAll_iff t (cells ++ [cell]) fresh
  rw [observeAll_concat, ValueType.keptBy_observe] at hrun
  rw [tested, ValueType.keptBy_tally]
  cases t <;> exact hrun

/-- **A type that is given up** is not that of some value. -/
theorem keptBy_tested_eq_false_iff (t : ValueType) (cells : List String) (cell : String) :
    t.keptBy ((p.observeAll cells).tested cell) = false
      ↔ ∃ c ∈ cells ++ [cell], isBlankCell c = false ∧ t.admits (content c) = false := by
  rw [← Bool.not_eq_true, keptBy_tested_iff fresh, ValueType.AdmitsAll]
  simp only [not_forall, Bool.not_eq_true, exists_prop]

/-- **Without a type there is a value**, and the mean length is a mean of
something. -/
theorem divisor_pos (t : ValueType) (cells : List String) (cell : String)
    (given : t.keptBy ((p.observeAll cells).tested cell) = false) :
    0 < ((p.observeAll cells).tested cell).rows - ((p.observeAll cells).tested cell).blanks := by
  obtain ⟨c, hmem, hvalue, -⟩ := (keptBy_tested_eq_false_iff fresh t cells cell).mp given
  rw [(measured_tested fresh cells cell).2]
  exact List.countP_pos_iff.mpr ⟨c, hmem, by rw [hvalue]; rfl⟩

/-- **The test is a property of the cells** up to the one that it is made at. -/
theorem resemblesText_tested_iff (cells : List String) (cell : String) :
    ((p.observeAll cells).tested cell).resemblesText = true
      ↔ LooksLikeText p.settings.minAverageLength (cells ++ [cell]) := by
  have hsettings : ((p.observeAll cells).tested cell).settings = p.settings := by
    obtain ⟨_, _, _, _, _, htally⟩ := tally_eq ((p.observeAll cells).measure cell) cell
    rw [tested, htally]
    exact settings_observeAll p cells
  have hpos := divisor_pos fresh .integer cells cell
  obtain ⟨hlength, hvalues⟩ := measured_tested fresh cells cell
  have hinteger : ((p.observeAll cells).tested cell).allIntegers = false
      ↔ ∃ c ∈ cells ++ [cell], isBlankCell c = false ∧ int64? (content c) = none := by
    simp only [← Option.isNone_iff_eq_none, ← Option.isSome_eq_false_iff]
    exact keptBy_tested_eq_false_iff fresh .integer cells cell
  have hreal : ((p.observeAll cells).tested cell).allReals = false
      ↔ ∃ c ∈ cells ++ [cell], isBlankCell c = false ∧ finite? (content c) = none := by
    simp only [← Option.isNone_iff_eq_none, ← Option.isSome_eq_false_iff]
    exact keptBy_tested_eq_false_iff fresh .real cells cell
  have hdate : ((p.observeAll cells).tested cell).allDates = false
      ↔ ∃ c ∈ cells ++ [cell], isBlankCell c = false ∧ Calendar.isDate (content c) = false :=
    keptBy_tested_eq_false_iff fresh .date cells cell
  unfold resemblesText LooksLikeText
  simp only [Bool.and_eq_true, Bool.not_eq_true', decide_eq_true_eq, and_assoc]
  rw [hsettings, hlength, hvalues, hinteger, hreal, hdate]
  refine and_congr_right fun hno => and_congr_right fun _ => and_congr_right fun _ => ?_
  exact and_iff_right (Nat.lt_of_sub_pos (hpos (hinteger.mpr hno)))

/-! ## The decision -/

/-- **A column is free text** if and only if it has come to its checkpoint and
the cells up to there look like text. -/
theorem isText_observeAll_iff (cells : List String) :
    (p.observeAll cells).isText = true
      ↔ 1 ≤ p.settings.checkpoint ∧ p.settings.checkpoint ≤ cells.length
        ∧ LooksLikeText p.settings.minAverageLength (cells.take p.settings.checkpoint) := by
  induction cells using List.reverseRecOn with
  | nil =>
    refine iff_of_false ?_ fun h => Nat.not_succ_le_zero _ (h.1.trans h.2.1)
    rw [observeAll_nil, fresh]
    exact Bool.false_ne_true
  | append_singleton cells cell ih =>
    have hrows : (p.observeAll cells).rows = cells.length := ComesTo.running.rows_eq _ fresh
    have hlength : (cells ++ [cell]).length = cells.length + 1 := List.length_append
    have hcounts := counts_takeIn cell (turned_observeAll cells fresh)
    rw [← counting_bound, ← observe_eq, ← observeAll_concat] at hcounts
    generalize ((p.observeAll cells).takeIn cell).values = values at hcounts
    generalize hnext : (p.observeAll (cells ++ [cell])).counting = counting at hcounts
    unfold isText at ih ⊢
    rw [hnext, hlength]
    -- a checkpoint that is behind has the same cells in front of it
    have htake : p.settings.checkpoint ≤ cells.length →
        (cells ++ [cell]).take p.settings.checkpoint = cells.take p.settings.checkpoint :=
      fun hle => List.take_append_of_le_length hle
    cases hcounts with
    | value was stays =>
      rw [was] at ih
      rw [hrows, settings_observeAll] at stays
      refine iff_of_false Bool.false_ne_true ?_
      rintro ⟨hpos, hle, hlooks⟩
      rcases Nat.le_succ_iff.mp hle with hle | heq
      · rw [htake hle] at hlooks
        exact Bool.false_ne_true (ih.mpr ⟨hpos, hle, hlooks⟩)
      · rw [heq, List.take_of_length_le hlength.le] at hlooks
        exact stays ⟨heq.symm, (resemblesText_tested_iff fresh cells cell).mpr hlooks⟩
    | turn was here resembles =>
      rw [hrows, settings_observeAll] at here
      refine iff_of_true rfl ⟨here ▸ Nat.succ_pos _, here.ge, ?_⟩
      rw [← here, List.take_of_length_le hlength.le]
      exact (resemblesText_tested_iff fresh cells cell).mp resembles
    | words was =>
      rw [was] at ih
      obtain ⟨hpos, hle, hlooks⟩ := ih.mp rfl
      exact iff_of_true rfl ⟨hpos, hle.trans (Nat.le_succ _), by rwa [htake hle]⟩

/-- **A text stays a text.** -/
theorem isText_observeAll_append {earlier : List String}
    (text : (p.observeAll earlier).isText = true) (later : List String) :
    (p.observeAll (earlier ++ later)).isText = true := by
  obtain ⟨hpos, hle, hlooks⟩ := (isText_observeAll_iff fresh earlier).mp text
  refine (isText_observeAll_iff fresh (earlier ++ later)).mpr ⟨hpos, ?_, ?_⟩
  · rw [List.length_append]
    exact hle.trans (Nat.le_add_right _ _)
  · rwa [List.take_append_of_le_length hle]

end Run

theorem ComesTo.isText_eq (state : p.ComesTo cells q) : q.isText = (p.observeAll cells).isText := by
  cases state <;> rfl

/-- **The decision for free text is made once**, at the checkpoint, from the
cells up to there. In every state, the column is free text if and only if the
checkpoint is one of its cells, and the cells up to it have a value that is no
whole number, one that is no number, one that is no date, and the mean length
that is asked for. If a cell changes it, the cell is the checkpoint; and what is
text stays text. When the test comes to the mean length, there is a value. -/
theorem isText_iff_of_comesTo {name : String} {declared : Option String}
    {settings : ProfileLimits} {seed : UInt64}
    (started : start name declared settings seed = .ok p) :
    (∀ cells q, p.ComesTo cells q → (q.isText = true
        ↔ 1 ≤ settings.checkpoint ∧ settings.checkpoint ≤ cells.length
          ∧ LooksLikeText settings.minAverageLength (cells.take settings.checkpoint)))
      ∧ (∀ cells cell,
        (p.observeAll (cells ++ [cell])).isText ≠ (p.observeAll cells).isText →
          cells.length + 1 = settings.checkpoint
            ∧ (p.observeAll (cells ++ [cell])).isText = true)
      ∧ (∀ earlier later, (p.observeAll earlier).isText = true →
        (p.observeAll (earlier ++ later)).isText = true)
      ∧ ∀ cells cell, let q := (p.observeAll cells).tested cell
        (q.allIntegers && q.allReals && q.allDates) = false → 0 < q.rows - q.blanks := by
  have fresh := isFresh_of_start started
  have hsettings := settings_of_start started
  refine ⟨fun cells q state => ?_, fun cells cell hchanged => ?_,
    fun earlier later text => isText_observeAll_append fresh text later, fun cells cell => ?_⟩
  · rw [state.isText_eq, isText_observeAll_iff fresh, hsettings]
  · -- what was text before would be text after, so it is the cell that made it one
    have hbefore : ¬ (p.observeAll cells).isText = true := fun text =>
      hchanged ((isText_observeAll_append fresh text [cell]).trans text.symm)
    have hafter : (p.observeAll (cells ++ [cell])).isText = true :=
      Bool.of_not_eq_false fun hno => hchanged (hno.trans (Bool.of_not_eq_true hbefore).symm)
    obtain ⟨hpos, hle, hlooks⟩ := (isText_observeAll_iff fresh (cells ++ [cell])).mp hafter
    rw [isText_observeAll_iff fresh, hsettings] at hbefore
    rw [hsettings] at hpos hle hlooks
    rw [List.length_append, List.length_singleton] at hle
    refine ⟨le_antisymm (Nat.lt_of_not_le fun hearly => hbefore ⟨hpos, hearly, ?_⟩) hle, hafter⟩
    rwa [List.take_append_of_le_length hearly] at hlooks
  · intro q hgiven
    obtain ⟨t, ht⟩ : ∃ t : ValueType, t.keptBy q = false := by
      rcases Bool.and_eq_false_iff.mp hgiven with hgiven | hdates
      · rcases Bool.and_eq_false_iff.mp hgiven with hintegers | hreals
        · exact ⟨.integer, hintegers⟩
        · exact ⟨.real, hreals⟩
      · exact ⟨.date, hdates⟩
    exact divisor_pos fresh t cells cell ht

/-- Of these cells the second is the checkpoint. It is blank, and with the first
it has three characters for one value, which is enough. The sheet has room for
one entry, and the third cell makes it trim. -/
theorem isText_iff_of_comesTo_three_cells :
    let settings : ProfileLimits :=
      { checkpoint := 2, minAverageLength := 3, maxInMemory := 1, maxToReport := 1 }
    let p : ColumnProfile := { name := "note", declared := none, settings }
    let cells := ["Ab", " ", "cd ef"]
    start "note" none settings 0 = .ok p ∧ p.ComesTo cells (p.observeAll cells).finish
      ∧ (p.observeAll cells).finish.isText = true ∧ (p.observeAll ["Ab"]).isText = false
      ∧ 0 < ((p.observeAll ["Ab"]).tested " ").rows
        - ((p.observeAll ["Ab"]).tested " ").blanks := by
  intro settings p cells
  have started : start "note" none settings 0 = .ok p := rfl
  have state : p.ComesTo cells (p.observeAll cells).finish := .finished
  obtain ⟨hdecision, -, hstays, hdivisor⟩ := isText_iff_of_comesTo started
  have turned : (p.observeAll ["Ab", " "]).isText = true :=
    (hdecision _ _ .running).mpr (by decide +kernel)
  have stays : (p.observeAll cells).isText = true := hstays ["Ab", " "] ["cd ef"] turned
  refine ⟨started, state, state.isText_eq.trans stays, ?_, hdivisor ["Ab"] " " (by decide +kernel)⟩
  exact Bool.eq_false_iff.mpr fun text =>
    absurd ((hdecision ["Ab"] _ .running).mp text) (by decide +kernel)

end ColumnProfile

end TableProfile
