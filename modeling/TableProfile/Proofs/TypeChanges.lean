import TableProfile.Proofs.DatesAndNumbers
import TableProfile.Proofs.TextDecision

/-!
# The type of a column goes forward only

The inferred type of a column is read off three types that are kept as long as
all values belong to them, the turn into free text, and whether there is a value
at all. Each of these changes once and in one direction, but that alone does not
order the types: a column whose values are dates and numbers at once could be
called a date first and a number afterwards. There is no such value
(`finite?_eq_none_of_isDate`). So with its first value a column is on one of two
ways, from whole numbers over numbers or from dates, which meet where no type is
kept any more and end in free text (`InferredType.later`).
-/

namespace TableProfile

open Number

/-- **No date is a finite number.** -/
theorem finite?_eq_none_of_isDate {s : List Char} (h : Calendar.isDate s = true) :
    finite? s = none := by
  unfold finite?
  rw [Calendar.double?_eq_none_of_isDate h]
  rfl

namespace InferredType

/-- **The types a column may come to** from a type, with more cells. Of a column
without a value nothing is known. -/
def later : InferredType → List InferredType
  | empty => [text, date, integer, real, varchar]
  | integer => [real, varchar, text]
  | real => [varchar, text]
  | date => [varchar, text]
  | varchar => [text]
  | text => []

/-- Types are told apart by their labels. -/
theorem label_injective : Function.Injective label := by
  intro a b h
  cases a <;> cases b <;> first
    | rfl
    | exact absurd h (by decide)

/-- Every column may come to free text. -/
theorem text_mem_later {t : InferredType} (other : t ≠ text) : text ∈ t.later := by
  cases t with
  | text => exact absurd rfl other
  | empty | date | integer | real | varchar => decide

/-- A column that is no text may come to have no type. -/
theorem varchar_mem_later {t : InferredType} (noText : t ≠ text) (other : t ≠ varchar) :
    varchar ∈ t.later := by
  cases t with
  | text => exact absurd rfl noText
  | varchar => exact absurd rfl other
  | empty | date | integer | real => decide

/-- **What a type says of a column.** -/
def Says (q : ColumnProfile) : InferredType → Prop
  | empty => q.rows = q.blanks
  | text => q.isText = true
  | date => q.isText = false ∧ q.allDates = true
  | integer => q.isText = false ∧ q.allIntegers = true
  | real => q.isText = false ∧ q.allReals = true
  | varchar => q.isText = false

end InferredType

namespace ColumnProfile

variable {p q q' : ColumnProfile} {cells later : List String}

/-! ## What the type is read off -/

theorem says_inferredType (q : ColumnProfile) : q.inferredType.Says q := by
  unfold inferredType
  split
  · assumption
  · split
    · assumption
    · rename_i htext
      have hcells := Bool.of_not_eq_true htext
      split
      · exact ⟨hcells, ‹_›⟩
      · split
        · exact ⟨hcells, ‹_›⟩
        · split
          · exact ⟨hcells, ‹_›⟩
          · exact hcells

/-- With a value and before it is text, the type is the first of those that are
kept. -/
theorem inferredType_of_value (value : q.rows ≠ q.blanks) (cells : q.isText = false) :
    q.inferredType = if q.allDates then .date else if q.allIntegers then .integer
      else if q.allReals then .real else .varchar := by
  unfold inferredType
  rw [if_neg value, if_neg (Bool.eq_false_iff.mp cells)]

@[simp] theorem declared_observeAll (p : ColumnProfile) (cells : List String) :
    (p.observeAll cells).declared = p.declared := by
  induction cells using List.reverseRecOn with
  | nil => rfl
  | append_singleton cells cell ih =>
    obtain ⟨_, _, _, _, _, _, _, h⟩ := takeIn_eq (p.observeAll cells) cell
    obtain ⟨_, _, hbound⟩ := bound_eq ((p.observeAll cells).takeIn cell)
    rw [observeAll_concat, observe_eq, hbound, h]
    exact ih

/-- Where no type is declared, the inferred one is told. -/
theorem ComesTo.typeName_eq (undeclared : p.declared = none) (state : p.ComesTo cells q) :
    q.typeName = q.inferredType.label := by
  have hdeclared : q.declared = none := by
    cases state <;> exact (declared_observeAll p cells).trans undeclared
  unfold typeName
  rw [hdeclared]
  rfl

/-- A column that is no column of numbers has no summary of them. -/
theorem numbers_eq_none (h : q.allNumbers = false) : q.numbers = none := by
  unfold numbers
  rw [h]
  split <;> rfl

section Run

variable (fresh : p.IsFresh)

include fresh

namespace ComesTo

/-- **The cells are all blank** exactly if as many are blank as there are. -/
theorem rows_eq_blanks_iff (state : p.ComesTo cells q) :
    q.rows = q.blanks ↔ ∀ cell ∈ cells, isBlankCell cell = true := by
  rw [state.rows_eq cells fresh, state.blanks_eq cells fresh, eq_comm, List.countP_eq_length]

theorem inferredType_eq_empty_iff (state : p.ComesTo cells q) :
    q.inferredType = .empty ↔ ∀ cell ∈ cells, isBlankCell cell = true := by
  rw [← state.rows_eq_blanks_iff fresh]
  refine ⟨fun h => ?_, fun h => if_pos h⟩
  have hsays := says_inferredType q
  rwa [h] at hsays

/-- **A column of values is none of dates and of numbers.** -/
theorem allReals_eq_false (state : p.ComesTo cells q) (value : q.rows ≠ q.blanks)
    (dates : q.allDates = true) : q.allReals = false := by
  refine Bool.eq_false_iff.mpr fun hreals => ?_
  have hdates := (ValueType.keptBy_iff_of_comesTo .date fresh state).mp dates
  have hnumbers := (ValueType.keptBy_iff_of_comesTo .real fresh state).mp hreals
  rw [Ne, state.rows_eq_blanks_iff fresh, not_forall] at value
  obtain ⟨cell, hcell⟩ := value
  obtain ⟨hmem, hvalue⟩ := Classical.not_imp.mp hcell
  have hvalue := Bool.of_not_eq_true hvalue
  have hnumber : (finite? (content cell)).isSome = true := hnumbers cell hmem hvalue
  rw [finite?_eq_none_of_isDate (hdates cell hmem hvalue)] at hnumber
  cases hnumber

/-- **No type comes back.** -/
theorem keptBy_of_append (t : ValueType) (state : p.ComesTo cells q)
    (next : p.ComesTo (cells ++ later) q') (kept : t.keptBy q' = true) : t.keptBy q = true :=
  (ValueType.keptBy_iff_of_comesTo t fresh state).mpr fun cell hcell =>
    (ValueType.keptBy_iff_of_comesTo t fresh next).mp kept cell (List.mem_append_left _ hcell)

/-- **Free text stays free text.** -/
theorem isText_of_append (state : p.ComesTo cells q) (next : p.ComesTo (cells ++ later) q')
    (text : q.isText = true) : q'.isText = true := by
  rw [state.isText_eq] at text
  rw [next.isText_eq]
  exact isText_observeAll_append fresh text later

/-! ## Going forward -/

/-- **With more cells the type stays or goes forward.** -/
theorem inferredType_eq_or_mem_later (state : p.ComesTo cells q)
    (next : p.ComesTo (cells ++ later) q') :
    q'.inferredType = q.inferredType ∨ q'.inferredType ∈ q.inferredType.later := by
  by_cases hvalue : q.rows = q.blanks
  · -- from a column without a value every type can be reached
    rw [show q.inferredType = .empty from if_pos hvalue]
    cases q'.inferredType <;> decide
  have hvalue' : q'.rows ≠ q'.blanks := fun hblank => hvalue
    ((state.rows_eq_blanks_iff fresh).mpr fun cell hcell =>
      (next.rows_eq_blanks_iff fresh).mp hblank cell (List.mem_append_left _ hcell))
  have htext : q'.isText = false → q.isText = false := fun hcells' =>
    Bool.eq_false_iff.mpr fun text => Bool.false_ne_true
      (hcells'.symm.trans (state.isText_of_append fresh next text))
  -- numbers are no dates, so that what keeps numbers has not kept dates
  have hdates : q.allReals = true → q.allDates = false := fun hreals =>
    Bool.eq_false_iff.mpr fun hdates => Bool.false_ne_true
      ((state.allReals_eq_false fresh hvalue hdates).symm.trans hreals)
  have hsays := says_inferredType q'
  generalize q'.inferredType = type' at hsays ⊢
  cases type' with
  | empty => exact absurd hsays hvalue'
  | text =>
    by_cases hsame : q.inferredType = .text
    · exact .inl hsame.symm
    · exact .inr (InferredType.text_mem_later hsame)
  | varchar =>
    have hother : q.inferredType ≠ .text := fun heq => by
      have hsays := says_inferredType q
      rw [heq] at hsays
      exact Bool.false_ne_true ((htext ‹_›).symm.trans hsays)
    by_cases hsame : q.inferredType = .varchar
    · exact .inl hsame.symm
    · exact .inr (InferredType.varchar_mem_later hother hsame)
  | date =>
    obtain ⟨hcells', hkept'⟩ := hsays
    have hkept : q.allDates = true := state.keptBy_of_append fresh .date next hkept'
    left
    rw [inferredType_of_value hvalue (htext hcells'), if_pos hkept]
  | integer =>
    obtain ⟨hcells', hkept'⟩ := hsays
    have hkept : q.allIntegers = true := state.keptBy_of_append fresh .integer next hkept'
    have hreals : q.allReals = true :=
      ValueType.keptBy_of_isWithin ValueType.isWithin_integer_real fresh state hkept
    left
    rw [inferredType_of_value hvalue (htext hcells'), hdates hreals, if_neg Bool.false_ne_true,
      if_pos hkept]
  | real =>
    obtain ⟨hcells', hkept'⟩ := hsays
    have hkept : q.allReals = true := state.keptBy_of_append fresh .real next hkept'
    rw [inferredType_of_value hvalue (htext hcells'), hdates hkept, if_neg Bool.false_ne_true,
      if_pos hkept]
    cases q.allIntegers with
    | true => exact .inr (by decide)
    | false => exact .inl rfl

end ComesTo

end Run

/-- **The type of a column goes forward only.** No date is a finite number. The
name of an inferred type is `empty` as long as all cells are blank, and with more
cells it stays or becomes one of those that come later, by `InferredType.later`:
a number does not become a date, nor a date a number, and text is the last. A
column of dates has no summary of numbers. -/
theorem typeName_eq_or_mem_later {name : String} {declared : Option String}
    {settings : ProfileLimits} {seed : UInt64}
    (started : start name declared settings seed = .ok p) (undeclared : p.declared = none) :
    (∀ value, Calendar.isDate value = true → finite? value = none)
      ∧ ∀ cells q, p.ComesTo cells q →
        q.typeName = q.inferredType.label
        ∧ (q.typeName = "empty" ↔ ∀ cell ∈ cells, isBlankCell cell = true)
        ∧ (∀ later q', p.ComesTo (cells ++ later) q' →
          q'.typeName = q.typeName ∨ q'.inferredType ∈ q.inferredType.later)
        ∧ (q.typeName = "date" → ∀ knownRows least,
          (q.report knownRows least).numbers = none) := by
  have fresh := isFresh_of_start started
  refine ⟨fun value => finite?_eq_none_of_isDate, fun cells q state => ?_⟩
  have hname := state.typeName_eq undeclared
  have htype : ∀ t : InferredType, q.typeName = t.label ↔ q.inferredType = t := fun t => by
    rw [hname, InferredType.label_injective.eq_iff]
  refine ⟨hname, (htype .empty).trans (state.inferredType_eq_empty_iff fresh),
    fun later q' next => ?_, fun hdate knownRows least => ?_⟩
  · refine (state.inferredType_eq_or_mem_later fresh next).imp_left fun hsame => ?_
    rw [hname, next.typeName_eq undeclared, hsame]
  · have hsays := says_inferredType q
    rw [(htype .date).mp hdate] at hsays
    have hvalue : q.rows ≠ q.blanks := fun hblank => by
      have hempty : q.inferredType = .empty := if_pos hblank
      rw [(htype .date).mp hdate] at hempty
      cases hempty
    refine numbers_eq_none ?_
    rw [state.allNumbers_eq fresh]
    exact state.allReals_eq_false fresh hvalue hsays.2

/-- A day is a date, and with a word behind it the column has no type. Of the
days there is no summary, though numbers would be sampled. -/
theorem typeName_eq_or_mem_later_two_cells :
    let cells := [" ", "2024-02-29"]
    ∃ p, start "day" none { samplerSize := some 1 } 0 = .ok p ∧ p.declared = none
      ∧ ∃ q q', p.ComesTo cells q ∧ p.ComesTo (cells ++ ["today"]) q'
        ∧ q.typeName = "date" ∧ q.sampler.isSome = true ∧ (q.report none 0).numbers = none
        ∧ q'.typeName = "varchar" ∧ q'.inferredType ∈ q.inferredType.later := by
  intro cells
  obtain ⟨p, started, undeclared, hdate, hsampler, hvarchar⟩ :
      ∃ p, start "day" none { samplerSize := some 1 } 0 = .ok p ∧ p.declared = none
        ∧ (p.observeAll cells).typeName = "date" ∧ (p.observeAll cells).sampler.isSome = true
        ∧ (p.observeAll (cells ++ ["today"])).typeName = "varchar" :=
    ⟨_, rfl, rfl, by decide +kernel, by decide +kernel, by decide +kernel⟩
  obtain ⟨-, -, hforward, hnumbers⟩ :=
    (typeName_eq_or_mem_later started undeclared).2 cells _ .running
  have hchange := hforward ["today"] _ .running
  rw [hdate, hvarchar] at hchange
  exact ⟨p, started, undeclared, _, _, .running, .running, hdate, hsampler, hnumbers hdate none 0,
    hvarchar, hchange.resolve_left (by decide)⟩

end ColumnProfile

end TableProfile
