import TableProfile.Proofs.TypeChanges

/-!
# The white space of blank cells

How much white space a blank cell holds should not matter to what is inferred of
its column. Of the types and of the number of blank cells that is true, as they are
told by the values and by how many cells there are: two columns whose cells differ
in blank cells only agree on them after every cell, also when only one of the two
has turned into free text.

It is not true of the turn itself. The test divides the length of all cells by the
number of values, so that white space in blank cells counts as length and not as a
cell (`looksLikeText_iff`). It decides where the values are too short for a text by
themselves: with enough white space between them they make one. Two such columns
have the same mode and the same type after every cell if and only if at the
checkpoint the white space makes up for what the values lack in both of them or in
none (`typeName_eq_iff_of_differInBlanks`).
-/

namespace TableProfile

namespace ColumnProfile

open Number

/-- **Cells that differ in blank cells only**: at each place stands the same cell,
or a blank one in both. -/
def DifferInBlanks (cells cells' : List String) : Prop :=
  List.Forall₂ (fun cell cell' =>
    cell = cell' ∨ isBlankCell cell = true ∧ isBlankCell cell' = true) cells cells'

instance (cells cells' : List String) : Decidable (DifferInBlanks cells cells') :=
  inferInstanceAs (Decidable (List.Forall₂ _ cells cells'))

/-- The values among cells. -/
def valuesAmong (cells : List String) : List String :=
  cells.filter fun cell => !isBlankCell cell

/-- The length of the values among cells. -/
def valueLength (cells : List String) : Nat :=
  ((valuesAmong cells).map String.length).sum

/-- **The white space of the blank cells** among cells. -/
def whiteSpace (cells : List String) : Nat :=
  ((cells.filter isBlankCell).map String.length).sum

variable {p p' : ColumnProfile} {cells cells' : List String}

/-! ## What the test sees -/

/-- A cell is a value or blank, and counts for the one length or the other. -/
theorem sum_length_eq (cells : List String) :
    (cells.map String.length).sum = valueLength cells + whiteSpace cells := by
  unfold valueLength valuesAmong whiteSpace
  induction cells with
  | nil => rfl
  | cons cell rest ih =>
    rw [List.map_cons, List.sum_cons, ih, List.filter_cons, List.filter_cons]
    cases isBlankCell cell with
    | true => exact Nat.add_left_comm _ _ _
    | false => exact (Nat.add_assoc _ _ _).symm

/-- A type admits cells if it admits the values among them. -/
theorem admitsAll_iff (t : ValueType) :
    t.AdmitsAll cells ↔ ∀ cell ∈ valuesAmong cells, t.admits (content cell) = true := by
  unfold ValueType.AdmitsAll valuesAmong
  simp only [List.mem_filter, Bool.not_eq_true', and_imp]

/-- **Cells look like free text** if no type admits their values, and these have the
length that is asked for together with the white space of the blank cells. -/
theorem looksLikeText_iff {least : Nat} :
    LooksLikeText least cells
      ↔ (∀ t : ValueType, ¬ t.AdmitsAll cells)
        ∧ least * (valuesAmong cells).length ≤ valueLength cells + whiteSpace cells := by
  have hno : ∀ t : ValueType, ¬ t.AdmitsAll cells
      ↔ ∃ cell ∈ cells, isBlankCell cell = false ∧ t.admits (content cell) = false := by
    intro t
    unfold ValueType.AdmitsAll
    simp only [not_forall, Bool.not_eq_true, exists_prop]
  have hall : (∀ t : ValueType, ¬ t.AdmitsAll cells)
      ↔ ¬ ValueType.integer.AdmitsAll cells ∧ ¬ ValueType.real.AdmitsAll cells
        ∧ ¬ ValueType.date.AdmitsAll cells := by
    refine ⟨fun h => ⟨h _, h _, h _⟩, ?_⟩
    rintro ⟨hinteger, hreal, hdate⟩ t
    cases t with
    | integer => exact hinteger
    | real => exact hreal
    | date => exact hdate
  have hinteger : ¬ ValueType.integer.AdmitsAll cells
      ↔ ∃ cell ∈ cells, isBlankCell cell = false ∧ int64? (content cell) = none := by
    simp only [← Option.isNone_iff_eq_none, ← Option.isSome_eq_false_iff]
    exact hno .integer
  have hreal : ¬ ValueType.real.AdmitsAll cells
      ↔ ∃ cell ∈ cells, isBlankCell cell = false ∧ finite? (content cell) = none := by
    simp only [← Option.isNone_iff_eq_none, ← Option.isSome_eq_false_iff]
    exact hno .real
  unfold LooksLikeText
  rw [hall, hinteger, hreal, hno .date, and_assoc, and_assoc, sum_length_eq,
    List.countP_eq_length_filter]
  refine and_congr_right fun hvalue => and_congr_right fun _ => and_congr_right fun _ => ?_
  -- without a type there is a value, so the mean length is a mean of something
  obtain ⟨cell, hmem, hblank, -⟩ := hvalue
  have hpos : 0 < (valuesAmong cells).length :=
    List.length_pos_of_mem (List.mem_filter.mpr ⟨hmem, by rw [hblank]; rfl⟩)
  exact Nat.le_div_iff_mul_le hpos

/-! ## Cells that differ in blank cells -/

namespace DifferInBlanks

theorem take (differ : DifferInBlanks cells cells') (n : Nat) :
    DifferInBlanks (cells.take n) (cells'.take n) :=
  List.forall₂_take n differ

/-- **The values are the same.** -/
theorem valuesAmong_eq (differ : DifferInBlanks cells cells') :
    valuesAmong cells = valuesAmong cells' := by
  unfold valuesAmong
  induction differ with
  | nil => rfl
  | @cons cell cell' rest rest' hcell _ ih =>
    rw [List.filter_cons, List.filter_cons, ih]
    rcases hcell with rfl | ⟨hblank, hblank'⟩
    · rfl
    · rw [hblank, hblank']
      rfl

theorem valueLength_eq (differ : DifferInBlanks cells cells') :
    valueLength cells = valueLength cells' :=
  congrArg (fun values => (values.map String.length).sum) differ.valuesAmong_eq

theorem admitsAll_iff (differ : DifferInBlanks cells cells') (t : ValueType) :
    t.AdmitsAll cells ↔ t.AdmitsAll cells' := by
  rw [ColumnProfile.admitsAll_iff, ColumnProfile.admitsAll_iff, differ.valuesAmong_eq]

/-- **A type is kept** in both columns or in none. -/
theorem keptBy_eq (differ : DifferInBlanks cells cells') (fresh : p.IsFresh) (fresh' : p'.IsFresh)
    (t : ValueType) : t.keptBy (p.observeAll cells) = t.keptBy (p'.observeAll cells') := by
  rw [Bool.eq_iff_iff, ValueType.keptBy_observeAll_iff t cells fresh,
    ValueType.keptBy_observeAll_iff t cells' fresh', differ.admitsAll_iff]

theorem rows_eq (differ : DifferInBlanks cells cells') (fresh : p.IsFresh) (fresh' : p'.IsFresh) :
    (p.observeAll cells).rows = (p'.observeAll cells').rows := by
  rw [ComesTo.running.rows_eq cells fresh, ComesTo.running.rows_eq cells' fresh',
    List.Forall₂.length_eq differ]

/-- **As many cells are blank** in both columns. -/
theorem blanks_eq (differ : DifferInBlanks cells cells') (fresh : p.IsFresh)
    (fresh' : p'.IsFresh) : (p.observeAll cells).blanks = (p'.observeAll cells').blanks := by
  have hvalues := congrArg List.length differ.valuesAmong_eq
  unfold valuesAmong at hvalues
  rw [← List.countP_eq_length_filter, ← List.countP_eq_length_filter, countP_not_isBlankCell,
    countP_not_isBlankCell] at hvalues
  have hlength := List.Forall₂.length_eq differ
  have hle : cells.countP isBlankCell ≤ cells.length := List.countP_le_length
  have hle' : cells'.countP isBlankCell ≤ cells'.length := List.countP_le_length
  rw [ComesTo.running.blanks_eq cells fresh, ComesTo.running.blanks_eq cells' fresh']
  omega

/-- **Columns in the same mode** have the same type, if the same is declared. -/
theorem typeName_eq (differ : DifferInBlanks cells cells') (fresh : p.IsFresh)
    (fresh' : p'.IsFresh) (declared : p.declared = p'.declared)
    (mode : (p.observeAll cells).isText = (p'.observeAll cells').isText) :
    (p.observeAll cells).typeName = (p'.observeAll cells').typeName := by
  have hintegers : (p.observeAll cells).allIntegers = (p'.observeAll cells').allIntegers :=
    differ.keptBy_eq fresh fresh' .integer
  have hreals : (p.observeAll cells).allReals = (p'.observeAll cells').allReals :=
    differ.keptBy_eq fresh fresh' .real
  have hdates : (p.observeAll cells).allDates = (p'.observeAll cells').allDates :=
    differ.keptBy_eq fresh fresh' .date
  unfold typeName inferredType
  rw [declared_observeAll, declared_observeAll, declared, differ.rows_eq fresh fresh',
    differ.blanks_eq fresh fresh', mode, hintegers, hreals, hdates]

/-- **The cells look like free text in both columns or in none** exactly if the white
space does not tell them apart. -/
theorem looksLikeText_iff_iff (differ : DifferInBlanks cells cells') (least : Nat) :
    (LooksLikeText least cells ↔ LooksLikeText least cells')
      ↔ ((∀ t : ValueType, ¬ t.AdmitsAll cells) →
        (least * (valuesAmong cells).length ≤ valueLength cells + whiteSpace cells
          ↔ least * (valuesAmong cells).length ≤ valueLength cells + whiteSpace cells')) := by
  have hnone : (∀ t : ValueType, ¬ t.AdmitsAll cells') ↔ ∀ t : ValueType, ¬ t.AdmitsAll cells :=
    forall_congr' fun t => not_congr (differ.admitsAll_iff t).symm
  rw [looksLikeText_iff, looksLikeText_iff, hnone, ← differ.valuesAmong_eq,
    ← differ.valueLength_eq]
  exact and_congr_right_iff

end DifferInBlanks

/-- **The white space of blank cells and what is inferred of a column.** Of two columns
whose cells differ in blank cells only, as many cells are blank after every cell, and
the same types are kept. They have the same mode and the same type after every cell if
and only if this is not a matter of white space: the checkpoint is not reached, or a
type admits the cells up to it, or these have the length of free text in both columns
or in none, when the white space of the blank cells is added to the length of the
values. -/
theorem typeName_eq_iff_of_differInBlanks {name : String} {declared : Option String}
    {settings : ProfileLimits} {seed seed' : UInt64}
    (started : start name declared settings seed = .ok p)
    (started' : start name declared settings seed' = .ok p')
    (differ : DifferInBlanks cells cells') :
    (∀ n, let q := p.observeAll (cells.take n)
      let q' := p'.observeAll (cells'.take n)
      q.blanks = q'.blanks ∧ q.allIntegers = q'.allIntegers ∧ q.allReals = q'.allReals
        ∧ q.allDates = q'.allDates)
      ∧ ((∀ n, let q := p.observeAll (cells.take n)
          let q' := p'.observeAll (cells'.take n)
          q.isText = q'.isText ∧ q.typeName = q'.typeName)
        ↔ (1 ≤ settings.checkpoint → settings.checkpoint ≤ cells.length →
          let first := cells.take settings.checkpoint
          let first' := cells'.take settings.checkpoint
          let needed := settings.minAverageLength * (valuesAmong first).length
          (∀ t : ValueType, ¬ t.AdmitsAll first) →
            (needed ≤ valueLength first + whiteSpace first
              ↔ needed ≤ valueLength first + whiteSpace first'))) := by
  have fresh := isFresh_of_start started
  have fresh' := isFresh_of_start started'
  have hdeclared : p.declared = p'.declared :=
    (declared_of_start started).trans (declared_of_start started').symm
  have hsettings := settings_of_start started
  have hsettings' := settings_of_start started'
  have hlength := List.Forall₂.length_eq differ
  refine ⟨fun n => ⟨(differ.take n).blanks_eq fresh fresh',
    (differ.take n).keptBy_eq fresh fresh' .integer, (differ.take n).keptBy_eq fresh fresh' .real,
    (differ.take n).keptBy_eq fresh fresh' .date⟩, ?_⟩
  have hverdict :=
    (differ.take settings.checkpoint).looksLikeText_iff_iff settings.minAverageLength
  constructor
  · -- the mode after all cells is what the cells up to the checkpoint look like
    intro same reached within
    have hmode := (same cells.length).1
    rw [List.take_length, hlength, List.take_length, Bool.eq_iff_iff,
      isText_observeAll_iff fresh, isText_observeAll_iff fresh', hsettings, hsettings',
      ← hlength, and_iff_right reached, and_iff_right within, and_iff_right reached,
      and_iff_right within] at hmode
    exact hverdict.mp hmode
  · intro agree n
    have hmode : (p.observeAll (cells.take n)).isText = (p'.observeAll (cells'.take n)).isText := by
      rw [Bool.eq_iff_iff, isText_observeAll_iff fresh, isText_observeAll_iff fresh', hsettings,
        hsettings', List.length_take, List.length_take, ← hlength]
      refine and_congr_right fun reached => and_congr_right fun within => ?_
      have hn : settings.checkpoint ≤ n := within.trans (min_le_left _ _)
      rw [List.take_take, List.take_take, min_eq_left hn]
      exact hverdict.mpr (agree reached (within.trans (min_le_right _ _)))
    exact ⟨hmode, (differ.take n).typeName_eq fresh fresh' hdeclared hmode⟩

/-- The value is long enough by itself, so that it makes no difference what stands
beside it: both columns are free text at their checkpoint. -/
theorem typeName_eq_iff_of_differInBlanks_two_cells :
    let settings : ProfileLimits := { checkpoint := 2, minAverageLength := 3 }
    let p : ColumnProfile := { name := "note", declared := none, settings }
    start "note" none settings 0 = .ok p ∧ DifferInBlanks ["Ab cd", ""] ["Ab cd", "   "]
      ∧ (p.observeAll ["Ab cd", ""]).isText = true
      ∧ (p.observeAll ["Ab cd", ""]).typeName = (p.observeAll ["Ab cd", "   "]).typeName := by
  intro settings p
  have started : start "note" none settings 0 = .ok p := rfl
  have differ : DifferInBlanks ["Ab cd", ""] ["Ab cd", "   "] := by decide +kernel
  have hsame := (typeName_eq_iff_of_differInBlanks started started differ).2.mpr
    fun _ _ _ => iff_of_true (by decide +kernel) (by decide +kernel)
  exact ⟨started, differ, by decide +kernel, (hsame 2).2⟩

/-- **A space in a blank cell can make free text** of a column: the value is too short by
itself, and it is long enough together with the space beside it. -/
theorem exists_isText_ne_of_differInBlanks :
    let settings : ProfileLimits := { checkpoint := 2, minAverageLength := 3 }
    let p : ColumnProfile := { name := "note", declared := none, settings }
    start "note" none settings 0 = .ok p ∧ DifferInBlanks ["Ab", ""] ["Ab", " "]
      ∧ (p.observeAll ["Ab", ""]).isText = false ∧ (p.observeAll ["Ab", ""]).typeName = "varchar"
      ∧ (p.observeAll ["Ab", " "]).isText = true
      ∧ (p.observeAll ["Ab", " "]).typeName = "text" :=
  ⟨rfl, by decide +kernel, by decide +kernel, by decide +kernel, by decide +kernel,
    by decide +kernel⟩

end ColumnProfile

end TableProfile
