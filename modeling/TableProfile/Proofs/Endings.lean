import TableProfile.Proofs.Draws

/-!
# How an activity ends

An activity is determined by the answers to its questions. The answer that
matters is *no*: an activity that is told to stop ends at once, as canceled,
and so there are only two ways in which it can end. Either it is told to go
on each time and comes to the ending it is heading for, or it is canceled
(`run_of_goesOn`, `run_of_stopped`). It never comes to another ending of its
own (`run_eq_or_canceled`).

This rests on how the profile of a table is written, which asks nothing
else and does nothing after a *no* (`heeds_ofTable`).

Which ending that is depends on what the source answers. A condition that
holds of whatever its answers can lead to holds of the ending
(`uninterrupted_ofTable`); so a source that never cancels by itself leaves the
cancellation to the answers (`isCancellation_ofTable`).
-/

namespace TableProfile

namespace Ending

/-- Whether a table ended because someone asked to stop. -/
def isCancellation : Ending → Bool
  | result (.error e) => e.isCancellation
  | _ => false

/-- How a table ended, without estimates. -/
def withoutEstimates : Ending → Ending
  | result r => result r.withoutEstimates
  | breakdown => breakdown

/-- The ending of what was told to stop. -/
def canceled : Ending :=
  result (.error .canceled)

end Ending

namespace Activity

/-- **The ending an activity is heading for**: how it ends if it is told to
go on each time. -/
def uninterrupted : Activity → Ending
  | ended result => .result result
  | brokenDown => .breakdown
  | asks next => (next true).uninterrupted
  | calls _ next => (next ()).uninterrupted

/-- How many questions it asks until then. -/
def questions : Activity → Nat
  | ended _ => 0
  | brokenDown => 0
  | asks next => (next true).questions + 1
  | calls _ next => (next ()).questions

/-- **How many steps an activity takes** at most, whatever it is told. -/
def steps : Activity → Nat
  | ended _ => 0
  | brokenDown => 0
  | asks next => max (next true).steps (next false).steps + 1
  | calls _ next => (next ()).steps + 1

/-- **An activity that heeds the answers**: told to stop, it ends at once as
canceled. -/
inductive Heeds : Activity → Prop
  /-- It has ended. -/
  | ended (result : TableResult) : Heeds (ended result)
  /-- It has broken down. -/
  | brokenDown : Heeds brokenDown
  /-- It asks, and heeds the answer. -/
  | asks {next : Bool → Activity} (stops : next false = .ended (.error .canceled))
      (goesOn : Heeds (next true)) : Heeds (asks next)
  /-- It calls the source, and heeds what it is told afterwards. -/
  | calls {call : SourceCall} {next : Unit → Activity} (goesOn : Heeds (next ())) :
      Heeds (calls call next)

theorem uninterrupted_withoutEstimates (a : Activity) :
    a.withoutEstimates.uninterrupted = a.uninterrupted.withoutEstimates := by
  induction a with
  | ended result => rfl
  | brokenDown => rfl
  | asks next ih => exact ih true
  | calls call next ih => exact ih ()

theorem questions_withoutEstimates (a : Activity) :
    a.withoutEstimates.questions = a.questions := by
  induction a with
  | ended result => rfl
  | brokenDown => rfl
  | asks next ih => exact congrArg (· + 1) (ih true)
  | calls call next ih => exact ih ()

/-! ## Two ways to end -/

variable {interrupt : Interrupt} {asked : Nat} {a : Activity}

/-- **Told to go on each time**, an activity comes to the ending it is
heading for. -/
theorem run_of_goesOn
    (h : ∀ q, asked ≤ q → q < asked + a.questions → interrupt q = true) :
    a.run interrupt asked = (a.uninterrupted, asked + a.questions) := by
  induction a generalizing asked with
  | ended result => rfl
  | brokenDown => rfl
  | asks next ih =>
    have hnow : interrupt asked = true := h asked le_rfl (Nat.lt_add_of_pos_right (Nat.succ_pos _))
    have hcount : asked + (asks next).questions = asked + 1 + (next true).questions := by
      rw [questions, Nat.add_right_comm, add_assoc]
    show (next (interrupt asked)).run interrupt (asked + 1) = _
    rw [hnow, hcount]
    refine ih true (fun q hq hlt => h q (Nat.le_of_succ_le hq) ?_)
    rwa [hcount]
  | calls call next ih => exact ih () h

/-- **Told to stop**, it ends as canceled, and asks nothing more. -/
theorem run_of_stopped (heeds : a.Heeds)
    (h : ∃ q, asked ≤ q ∧ q < asked + a.questions ∧ interrupt q = false) :
    ∃ q, asked ≤ q ∧ interrupt q = false ∧ a.run interrupt asked = (.canceled, q + 1) := by
  induction heeds generalizing asked with
  | ended result =>
    obtain ⟨q, hq, hlt, -⟩ := h
    exact absurd hlt (Nat.not_lt.mpr hq)
  | brokenDown =>
    obtain ⟨q, hq, hlt, -⟩ := h
    exact absurd hlt (Nat.not_lt.mpr hq)
  | @asks next stops goesOn ih =>
    show ∃ q, _ ∧ _ ∧ (next (interrupt asked)).run interrupt (asked + 1) = _
    cases hnow : interrupt asked with
    | false =>
      refine ⟨asked, le_rfl, hnow, ?_⟩
      rw [stops]
      rfl
    | true =>
      -- this question was answered with *go on*, so the *no* comes later
      obtain ⟨q, hq, hlt, hno⟩ := h
      have hne : asked ≠ q := by
        rintro rfl
        rw [hnow] at hno
        cases hno
      have hlater : q < asked + 1 + (next true).questions := by
        rwa [Nat.add_right_comm, add_assoc]
      obtain ⟨q', hq', hno', hrun⟩ := ih ⟨q, Nat.lt_of_le_of_ne hq hne, hlater, hno⟩
      exact ⟨q', Nat.le_of_succ_le hq', hno', hrun⟩
  | calls goesOn ih => exact ih h

/-- **There is no third way to end**, whatever an activity is told. -/
theorem run_eq_or_canceled (heeds : a.Heeds) (interrupt : Interrupt) (asked : Nat) :
    (a.run interrupt asked).1 = a.uninterrupted ∨ (a.run interrupt asked).1 = .canceled := by
  by_cases hno : ∃ q, asked ≤ q ∧ q < asked + a.questions ∧ interrupt q = false
  · obtain ⟨q, -, -, hrun⟩ := run_of_stopped heeds hno
    exact .inr (congrArg Prod.fst hrun)
  · refine .inl (congrArg Prod.fst (run_of_goesOn fun q hq hlt => ?_))
    exact Bool.of_not_eq_false fun hanswer => hno ⟨q, hq, hlt, hanswer⟩

/-! ## The profile of a table -/

variable (source : Source) (settings : Settings) (seed : Nat → UInt64) (table : String)

theorem heeds_throughRows (rowCount : Option Int) (t : TableState) (rows : Rows) :
    (throughRows table settings rowCount t rows).Heeds := by
  induction rows generalizing t with
  | nil =>
    unfold throughRows
    split
    · exact .ended _
    · exact .calls (.ended _)
  | cons answer rest ih =>
    unfold throughRows
    split
    · exact .ended _
    · refine .calls ?_
      cases answer with
      | breakdown => exact .brokenDown
      | failure e => exact .ended _
      | value row =>
        show Heeds (if t.count.read % settings.pollInterval = 0 then _ else _)
        split
        · exact .asks rfl (ih _)
        · exact ih _

theorem heeds_openRows (columns : List ColumnHeader) (rowCount : Option Int) :
    (openRows source settings seed table columns rowCount).Heeds := by
  unfold openRows
  split
  · exact .ended _
  · refine .calls ?_
    split
    · exact .brokenDown
    · exact .ended _
    · exact heeds_throughRows settings table rowCount _ _

/-- **The profile of a table heeds what it is told.** -/
theorem heeds_ofTable : (ofTable source settings seed table).Heeds := by
  refine .asks rfl (.calls ?_)
  split
  · exact .brokenDown
  · exact .ended _
  · split
    · exact .ended _
    · refine .calls ?_
      split
      · exact .brokenDown
      · split
        · exact .ended _
        · exact heeds_openRows source settings seed table _ none
      · exact heeds_openRows source settings seed table _ _

end Activity

/-! ## What a table can end with -/

/-- **The only way in which a profile cannot begin**: there is no room for a
sample. -/
theorem ColumnProfile.start_eq_error {name : String} {declared : Option String}
    {settings : ProfileLimits} {seed : UInt64} {e : ProfileError}
    (h : start name declared settings seed = .error e) :
    e = .emptyReservoir ∧ settings.samplerSize = some 0 := by
  unfold start at h
  cases hs : settings.samplerSize with
  | none =>
    rw [hs] at h
    exact absurd h (by rintro ⟨⟩)
  | some capacity =>
    rw [hs] at h
    by_cases hpos : 0 < capacity
    · have hok : Reservoir.ofCapacity (α := Float) capacity = .ok _ := dif_pos hpos
      rw [Option.mapM_some, Sampler.ofSeed, hok] at h
      exact absurd h (by rintro ⟨⟩)
    · have herror : Reservoir.ofCapacity (α := Float) capacity = .error _ := dif_neg hpos
      rw [Option.mapM_some, Sampler.ofSeed, herror] at h
      exact ⟨(Except.error.inj h).symm, congrArg some (Nat.eq_zero_of_not_pos hpos)⟩

/-- What is made of an attempt fails as the attempt does. -/
theorem error_of_map_eq_error {α β ε : Type} {x : Except ε α} {f : α → β} {e : ε}
    (h : x.map f = .error e) : x = .error e := by
  cases x with
  | error e' => exact congrArg Except.error (Except.error.inj h)
  | ok a => cases h

/-- An attempt for each element fails with an error of one of them. -/
theorem exists_of_mapM_eq_error {α β ε : Type} {f : α → Except ε β} {l : List α} {e : ε}
    (h : l.mapM f = .error e) : ∃ a ∈ l, f a = .error e := by
  induction l with
  | nil => cases h
  | cons a rest ih =>
    rw [List.mapM_cons] at h
    cases ha : f a with
    | error e' =>
      rw [ha] at h
      obtain rfl := Except.error.inj h
      exact ⟨a, List.mem_cons_self, ha⟩
    | ok b =>
      rw [ha] at h
      cases hrest : rest.mapM f with
      | error e' =>
        rw [hrest] at h
        obtain rfl := Except.error.inj h
        obtain ⟨a', hmem, ha'⟩ := ih hrest
        exact ⟨a', List.mem_cons_of_mem _ hmem, ha'⟩
      | ok bs =>
        rw [hrest] at h
        cases h

/-- The profiles of columns, or the error of one of them. -/
theorem TableState.start_eq_map (settings : Settings) (seed : Nat → UInt64)
    (columns : List ColumnHeader) :
    start settings seed columns = (columns.zipIdx.mapM fun c =>
      ColumnProfile.start c.1.name c.1.declared settings.profile (seed c.2)).map
        fun profiles => { profiles } :=
  rfl

theorem TableState.start_eq_error {settings : Settings} {seed : Nat → UInt64}
    {columns : List ColumnHeader} {e : ProfileError}
    (h : start settings seed columns = .error e) :
    e = .emptyReservoir ∧ settings.profile.samplerSize = some 0 := by
  rw [start_eq_map] at h
  obtain ⟨_, -, hstart⟩ := exists_of_mapM_eq_error (error_of_map_eq_error h)
  exact ColumnProfile.start_eq_error hstart

/-- **A source that breaks down on a table**: at one of its calls, or among the
rows that it gives. -/
inductive Source.BreaksDownOn (source : Source) (limit : Option Nat) (table : String) : Prop where
  /-- When it is asked for columns. -/
  | columns (h : source.columns table = .breakdown)
  /-- When it is asked for the number of rows. -/
  | rowCount (h : source.rowCount table = .breakdown)
  /-- When it is asked for the rows. -/
  | rows (h : source.rows table limit = .breakdown)
  /-- Among the rows. -/
  | row {rows : Rows} (h : source.rows table limit = .value rows) (mem : .breakdown ∈ rows)

/-- **A condition that covers a table**: it holds of all endings that the
answers of the source can lead to. -/
structure Source.Covers (source : Source) (limit : Option Nat) (table : String)
    (P : Ending → Prop) : Prop where
  /-- A report, or nothing to report. -/
  done : ∀ report?, P (.result (.ok report?))
  /-- There is no room for a sample. -/
  noRoom : P (.result (.error .emptyReservoir))
  /-- The columns cannot be looked up. -/
  columns : ∀ e, source.columns table = .failure e → P (.result (.error (e.ofTable table)))
  /-- The attempt to count the rows cancels. -/
  rowCount : ∀ e, source.rowCount table = .failure e → e.isCancellation = true →
    P (.result (.error e))
  /-- The rows cannot be opened. -/
  rows : ∀ e, source.rows table limit = .failure e → P (.result (.error (e.ofTable table)))
  /-- A row cannot be read. -/
  row : ∀ rows e n, source.rows table limit = .value rows → .failure e ∈ rows →
    P (.result (.error (e.ofRow table n)))
  /-- The source breaks down. -/
  breakdown : source.BreaksDownOn limit table → P .breakdown

namespace Activity

variable {source : Source} {settings : Settings} {table : String} {P : Ending → Prop}

theorem uninterrupted_calls (call : SourceCall) (next : Unit → Activity) :
    (calls call next).uninterrupted = (next ()).uninterrupted :=
  rfl

theorem uninterrupted_throughRows {rowCount : Option Int} (t : TableState) {rows : Rows}
    (done : ∀ report?, P (.result (.ok report?)))
    (row : ∀ e n, .failure e ∈ rows → P (.result (.error (e.ofRow table n))))
    (breakdown : .breakdown ∈ rows → P .breakdown) :
    P (throughRows table settings rowCount t rows).uninterrupted := by
  induction rows generalizing t with
  | nil =>
    unfold throughRows
    split <;> exact done _
  | cons answer rest ih =>
    have hrest := fun t => ih t (fun e n he => row e n (List.mem_cons_of_mem _ he))
      fun hb => breakdown (List.mem_cons_of_mem _ hb)
    unfold throughRows
    split
    · exact done _
    · cases answer with
      | breakdown => exact breakdown List.mem_cons_self
      | failure e => exact row e _ List.mem_cons_self
      | value row =>
        show P (if t.count.read % settings.pollInterval = 0 then _ else _ : Activity).uninterrupted
        split <;> exact hrest _

theorem uninterrupted_openRows (covers : source.Covers settings.limit table P)
    (seed : Nat → UInt64) (columns : List ColumnHeader) (rowCount : Option Int) :
    P (openRows source settings seed table columns rowCount).uninterrupted := by
  unfold openRows
  split
  · rename_i e hstart
    rw [(TableState.start_eq_error hstart).1]
    exact covers.noRoom
  · rw [uninterrupted_calls]
    split
    · rename_i hrows
      exact covers.breakdown (.rows hrows)
    · rename_i e hrows
      exact covers.rows e hrows
    · rename_i rows hrows
      exact uninterrupted_throughRows _ covers.done (fun e n => covers.row rows e n hrows)
        fun mem => covers.breakdown (.row hrows mem)

/-- **What covers a table** holds of the ending that its profile is heading
for. -/
theorem uninterrupted_ofTable (covers : source.Covers settings.limit table P)
    (seed : Nat → UInt64) : P (ofTable source settings seed table).uninterrupted := by
  show P (lookUpColumns source settings seed table).uninterrupted
  unfold lookUpColumns
  rw [uninterrupted_calls]
  split
  · rename_i hcolumns
    exact covers.breakdown (.columns hcolumns)
  · rename_i e hcolumns
    exact covers.columns e hcolumns
  · split
    · exact covers.done none
    · unfold countRows
      rw [uninterrupted_calls]
      split
      · rename_i hcount
        exact covers.breakdown (.rowCount hcount)
      · rename_i e hcount
        split
        · rename_i hcancels
          exact covers.rowCount e hcount hcancels
        · exact uninterrupted_openRows covers seed _ none
      · exact uninterrupted_openRows covers seed _ _

end Activity

/-! ## Sources that never cancel -/

/-- **A source that never cancels**: no error it answers with is a
cancellation. -/
structure Source.NeverCancels (source : Source) : Prop where
  /-- Not when it is asked for columns. -/
  columns : ∀ table e, source.columns table = .failure e → e.isCancellation = false
  /-- Not when it is asked for the number of rows. -/
  rowCount : ∀ table e, source.rowCount table = .failure e → e.isCancellation = false
  /-- Not when it is asked for the rows. -/
  rows : ∀ table limit e, source.rows table limit = .failure e → e.isCancellation = false
  /-- Not among the rows. -/
  row : ∀ table limit rows e, source.rows table limit = .value rows → .failure e ∈ rows →
    e.isCancellation = false

/-- **A source that never cancels leaves it to the answers**: told to go on
each time, the profile of a table does not end as canceled. -/
theorem Activity.isCancellation_ofTable {source : Source} {settings : Settings}
    (seed : Nat → UInt64) (table : String) (never : source.NeverCancels) :
    (ofTable source settings seed table).uninterrupted.isCancellation = false := by
  have covers : source.Covers settings.limit table (·.isCancellation = false) := {
    done := fun _ => rfl
    noRoom := rfl
    columns := fun e h => (ProfileError.isCancellation_ofTable _ _).trans (never.columns _ _ h)
    rowCount := fun e h _ => never.rowCount _ _ h
    rows := fun e h => (ProfileError.isCancellation_ofTable _ _).trans (never.rows _ _ _ h)
    row := fun rows e n h mem =>
      (ProfileError.isCancellation_ofRow _ _ _).trans (never.row _ _ rows e h mem)
    breakdown := fun _ => rfl }
  exact uninterrupted_ofTable covers seed

end TableProfile
