import TableProfile.Proofs.ColumnRun
import TableProfile.Proofs.WholeNumbers

/-!
# The types of a column are the types of its values

A column keeps, for each type, whether all its values so far belong to it. A
value is looked at only while values are counted: once the column has turned
into free text, no cell is tested any more. That no test is missed is due to the
turn itself, which only a column of no type makes. The types of a text are given
up for good, and a value that was not admitted stands among its first cells.

So in every state, a type is kept if and only if it admits every value
(`ColumnProfile.types_iff_of_comesTo`). Blank cells are no values.
-/

namespace TableProfile

open Number

/-- **The types of values** that a column keeps in mind. -/
inductive ValueType where
  /-- Whole numbers of sixty-four bits. -/
  | integer
  /-- Finite numbers. -/
  | real
  /-- Dates. -/
  | date
  deriving DecidableEq, Repr

namespace ValueType

open ColumnProfile

/-- Whether a text is a value of a type. -/
def admits : ValueType → List Char → Bool
  | integer, value => (int64? value).isSome
  | real, value => (finite? value).isSome
  | date, value => Calendar.isDate value

/-- Whether a column keeps a type: all its values so far belong to it. -/
def keptBy : ValueType → ColumnProfile → Bool
  | integer, p => p.allIntegers
  | real, p => p.allReals
  | date, p => p.allDates

/-- **A type admits all cells** that are not blank. -/
def AdmitsAll (t : ValueType) (cells : List String) : Prop :=
  ∀ cell ∈ cells, isBlankCell cell = false → t.admits (content cell) = true

variable (t : ValueType) {cells : List String} {cell : String}

theorem admitsAll_nil : t.AdmitsAll [] :=
  fun _ h => absurd h List.not_mem_nil

theorem admitsAll_concat :
    t.AdmitsAll (cells ++ [cell])
      ↔ t.AdmitsAll cells ∧ (isBlankCell cell || t.admits (content cell)) = true := by
  unfold AdmitsAll
  rw [List.forall_mem_append, List.forall_mem_singleton]
  cases isBlankCell cell <;> simp

/-- **One type is within another**: what it admits, the other admits. -/
def IsWithin (t' : ValueType) : Prop :=
  ∀ value, t.admits value = true → t'.admits value = true

/-- Integers are numbers, however large and with whatever sign. -/
theorem isWithin_integer_real : integer.IsWithin real :=
  fun _ => isSome_finite?_of_isSome_int64?

theorem AdmitsAll.mono {t t' : ValueType} (h : t.AdmitsAll cells) (wider : t.IsWithin t') :
    t'.AdmitsAll cells :=
  fun cell hcell hvalue => wider _ (h cell hcell hvalue)

/-! ## One cell -/

variable (p : ColumnProfile) (cell : String)

/-- **A cell gives up the types it does not belong to**, as long as values are
counted. -/
theorem keptBy_tally :
    t.keptBy (p.tally cell)
      = (t.keptBy p && (p.isText || (isBlankCell cell || t.admits (content cell)))) := by
  unfold tally isText
  cases p.counting with
  | cells =>
    cases isBlankCell cell with
    | true => cases t <;> exact (Bool.and_true _).symm
    | false => cases t <;> rfl
  | words => cases t <;> exact (Bool.and_true _).symm

theorem keptBy_decide : t.keptBy p.decide = t.keptBy p := by
  obtain ⟨_, _, h⟩ := decide_eq p
  rw [h]
  cases t <;> rfl

theorem keptBy_observe :
    t.keptBy (p.observe cell)
      = (t.keptBy p && (p.isText || (isBlankCell cell || t.admits (content cell)))) := by
  have hbound : ∀ p' : ColumnProfile, t.keptBy p'.bound = t.keptBy p' := by
    intro p'
    unfold bound
    split <;> cases t <;> rfl
  have hsample : t.keptBy ((((p.measure cell).tally cell).decide).sample cell)
      = t.keptBy (((p.measure cell).tally cell).decide) := by
    rw [sample_eq]
    cases t <;> rfl
  have hmeasure : t.keptBy (p.measure cell) = t.keptBy p := by
    cases t <;> rfl
  rw [observe_eq, hbound, takeIn, hsample, keptBy_decide, keptBy_tally, hmeasure]
  rfl

variable {p}

/-- Only a column of no type looks like free text. -/
theorem keptBy_eq_false_of_resemblesText (h : p.resemblesText = true) : t.keptBy p = false := by
  unfold resemblesText at h
  simp only [Bool.and_eq_true, Bool.not_eq_true'] at h
  obtain ⟨⟨⟨⟨hintegers, hreals⟩, hdates⟩, -⟩, -⟩ := h
  cases t with
  | integer => exact hintegers
  | real => exact hreals
  | date => exact hdates

/-! ## All cells -/

section Run

variable (cells) (fresh : p.IsFresh)

include fresh

/-- **A text has no type.** -/
theorem keptBy_eq_false_of_isText (h : (p.observeAll cells).isText = true) :
    t.keptBy (p.observeAll cells) = false := by
  induction cells using List.reverseRecOn with
  | nil =>
    rw [observeAll_nil, fresh] at h
    cases h
  | append_singleton cells cell ih =>
    rw [observeAll_concat] at h ⊢
    have hwords : ((p.observeAll cells).takeIn cell).counting = .words := by
      rw [← counting_bound, ← observe_eq]
      exact eq_of_beq h
    have hcounts := counts_takeIn cell (turned_observeAll cells fresh)
    rw [hwords] at hcounts
    generalize ((p.observeAll cells).takeIn cell).values = values at hcounts
    cases hcounts with
    | turn was here resembles =>
      have hnone := keptBy_eq_false_of_resemblesText t resembles
      rw [keptBy_tally] at hnone
      rw [keptBy_observe]
      cases t <;> exact hnone
    | words was =>
      rw [keptBy_observe, ih (beq_iff_eq.mpr was), Bool.false_and]

/-- **A type is kept** if and only if it admits all cells so far. -/
theorem keptBy_observeAll_iff : t.keptBy (p.observeAll cells) = true ↔ t.AdmitsAll cells := by
  induction cells using List.reverseRecOn with
  | nil =>
    refine iff_of_true ?_ (admitsAll_nil t)
    rw [observeAll_nil, fresh]
    cases t <;> rfl
  | append_singleton cells cell ih =>
    rw [observeAll_concat, keptBy_observe, admitsAll_concat, Bool.and_eq_true, ih]
    cases htext : (p.observeAll cells).isText with
    | false => rw [Bool.false_or]
    | true =>
      -- the types were given up before the turn
      have hnone : ¬ t.AdmitsAll cells := by
        rw [← ih, keptBy_eq_false_of_isText t cells fresh htext]
        exact Bool.false_ne_true
      exact iff_of_false (fun h => hnone h.1) (fun h => hnone h.1)

end Run

variable {p q : ColumnProfile}

/-- **In every state, a type is kept** if and only if it admits all cells. -/
theorem keptBy_iff_of_comesTo (fresh : p.IsFresh) (state : p.ComesTo cells q) :
    t.keptBy q = true ↔ t.AdmitsAll cells := by
  have hrun := keptBy_observeAll_iff t cells fresh
  cases state with
  | running => exact hrun
  | finished => cases t <;> exact hrun

/-- A type that is wider is kept at least as long. -/
theorem keptBy_of_isWithin {t t' : ValueType} (wider : t.IsWithin t') (fresh : p.IsFresh)
    (state : p.ComesTo cells q) (kept : t.keptBy q = true) : t'.keptBy q = true :=
  (keptBy_iff_of_comesTo t' fresh state).mpr
    (((keptBy_iff_of_comesTo t fresh state).mp kept).mono wider)

end ValueType

namespace ColumnProfile

variable {p q : ColumnProfile} {cells : List String}

/-- Integers are numbers, so that a column of numbers is one of real numbers. -/
theorem ComesTo.allNumbers_eq (fresh : p.IsFresh) (state : p.ComesTo cells q) :
    q.allNumbers = q.allReals := by
  have hwider : q.allIntegers = true → q.allReals = true :=
    ValueType.keptBy_of_isWithin ValueType.isWithin_integer_real fresh state
  unfold allNumbers
  cases hintegers : q.allIntegers with
  | true => rw [hwider hintegers, Bool.or_true]
  | false => rw [Bool.false_or]

/-- **The types of a column are exact** in every state, whether it counts values
or words: each is kept if and only if all cells that are not blank belong to it.
The blank cells are counted. Integers are numbers, so that the column is one of
numbers as long as it is one of real numbers. -/
theorem types_iff_of_comesTo {name : String} {declared : Option String}
    {settings : ProfileLimits} {seed : UInt64}
    (started : start name declared settings seed = .ok p) (state : p.ComesTo cells q) :
    (q.allIntegers = true
        ↔ ∀ cell ∈ cells, isBlankCell cell = false → (int64? (content cell)).isSome = true)
      ∧ (q.allReals = true
        ↔ ∀ cell ∈ cells, isBlankCell cell = false → (finite? (content cell)).isSome = true)
      ∧ (q.allDates = true
        ↔ ∀ cell ∈ cells, isBlankCell cell = false → Calendar.isDate (content cell) = true)
      ∧ q.blanks = cells.countP isBlankCell
      ∧ (q.allIntegers = true → q.allReals = true)
      ∧ q.allNumbers = q.allReals := by
  have fresh := isFresh_of_start started
  have hnumbers := state.allNumbers_eq fresh
  refine ⟨ValueType.keptBy_iff_of_comesTo .integer fresh state,
    ValueType.keptBy_iff_of_comesTo .real fresh state,
    ValueType.keptBy_iff_of_comesTo .date fresh state, state.blanks_eq cells fresh, fun h => ?_, hnumbers⟩
  rw [← hnumbers, allNumbers, h, Bool.true_or]

/-- The second of these cells turns the column into text, and the third is not
looked at; it would have been a number. -/
theorem types_iff_of_comesTo_three_cells :
    let settings : ProfileLimits := { checkpoint := 2, minAverageLength := 1 }
    let p : ColumnProfile := { name := "note", declared := none, settings }
    let cells := ["Ab ab", " ", "7"]
    let q := (p.observeAll cells).finish
    start "note" none settings 0 = .ok p ∧ p.ComesTo cells q
      ∧ q.isText = true ∧ q.allReals = false ∧ q.blanks = 1 := by
  intro settings p cells q
  have started : start "note" none settings 0 = .ok p := rfl
  have state : p.ComesTo cells q := .finished
  obtain ⟨-, hreals, -, hblanks, -, -⟩ := types_iff_of_comesTo started state
  refine ⟨started, state, by decide +kernel, ?_, hblanks.trans (by decide +kernel)⟩
  refine Bool.eq_false_iff.mpr fun h => ?_
  have hfirst := hreals.mp h "Ab ab" List.mem_cons_self (by decide +kernel)
  exact absurd hfirst (by decide +kernel)

end ColumnProfile

end TableProfile
