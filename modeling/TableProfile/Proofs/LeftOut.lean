import TableProfile.Proofs.Completion
import TableProfile.Proofs.ReportedColumns
import TableProfile.Proofs.Undisturbed

/-!
# Which tables are left out of a report

A table is left out if its profile ends with nothing to report. That is a
matter of its source alone. It has no columns; or its rows can be read, as far
as they are looked for, and none of them has the right length
(`Activity.ofTable_eq_none_iff`). To be told to stop does not come to it, and
neither does an error or a breakdown.

In a scan that completes there is no other way to be left out
(`Scan.leavesOut_iff_of_returns`). Every other table that was asked for is
among the reports or among the failures. A table without rows is left out, but
so is a table with rows all of which were passed over, and the report does not
tell the two apart. Only where all rows have the right length does it mean that
there are none (`Rows.noneFits_iff_eq_nil`).
-/

namespace TableProfile

/-- **A report leaves out a table** if it mentions it neither among the tables
nor among the failures. -/
def Report.LeavesOut (report : Report) (table : String) : Prop :=
  (∀ t ∈ report.tables, t.table ≠ table) ∧ ∀ f ∈ report.failures, f.table ≠ table

/-- Rows of which **none fits** a table of so many columns: all of them can be
read, and all of them have another length. -/
def Rows.NoneFits (width : Nat) (rows : Rows) : Prop :=
  ∀ answer ∈ rows, ∃ row, answer = .value row ∧ row.length ≠ width

namespace Source

/-- **A table without a row that fits**, among the rows that are looked for.
They can be counted, or at least the attempt does not end the profile. -/
structure NoRowFits (source : Source) (limit : Option Nat) (table : String)
    (columns : List ColumnHeader) : Prop where
  /-- To count the rows does not cancel. -/
  counted : ∀ e, source.rowCount table = .failure e → e.isCancellation = false
  /-- To count the rows does not break down. -/
  unbroken : source.rowCount table ≠ .breakdown
  /-- The rows can be opened, and none of them fits. -/
  rows : ∃ rows, source.rows table limit = .value rows
    ∧ Rows.NoneFits columns.length (rows.upTo limit)

/-- **A table with nothing to report**: it has no columns, or no row that
fits. -/
def HasNothing (source : Source) (limit : Option Nat) (table : String) : Prop :=
  ∃ columns, source.columns table = .value columns
    ∧ (columns = [] ∨ source.NoRowFits limit table columns)

end Source

/-! ## Profiles that end with nothing to report -/

theorem Rows.noneFits_nil (width : Nat) : NoneFits width [] :=
  fun _ h => absurd h List.not_mem_nil

theorem Rows.noneFits_cons {width : Nat} {row : Row} {rest : Rows} :
    NoneFits width (.value row :: rest) ↔ row.length ≠ width ∧ NoneFits width rest := by
  unfold NoneFits
  rw [List.forall_mem_cons]
  refine and_congr_left' ⟨?_, fun h => ⟨row, rfl, h⟩⟩
  rintro ⟨_, heq, h⟩
  obtain rfl := Answer.value.inj heq
  exact h

/-- **Where all rows fit**, none fits only if there is none. -/
theorem Rows.noneFits_iff_eq_nil {width : Nat} {rows : Rows}
    (fit : ∀ row, .value row ∈ rows → row.length = width) : NoneFits width rows ↔ rows = [] := by
  refine ⟨fun h => List.eq_nil_iff_forall_not_mem.mpr fun answer hmem => ?_, fun h => ?_⟩
  · obtain ⟨row, rfl, hmisfit⟩ := h answer hmem
    exact hmisfit (fit row hmem)
  · rw [h]
    exact noneFits_nil width

namespace TableState

variable {t : TableState}

theorem report_eq_none_iff {table : String} {settings : Settings} {rowCount : Option Int} :
    t.report table settings rowCount = none ↔ t.profiled = 0 := by
  unfold report
  split
  · rename_i hzero
    exact iff_of_true rfl hzero
  · rename_i hpos
    exact iff_of_false (Option.some_ne_none _) hpos

/-- **No row was looked at** after one more row exactly if none was before and
this one does not fit. -/
theorem profiled_look_eq_zero_iff (t : TableState) (row : Row) :
    (t.look row).profiled = 0 ↔ t.profiled = 0 ∧ row.length ≠ t.profiles.length := by
  unfold look
  split
  · rename_i hfits
    exact iff_of_false (Nat.succ_ne_zero _) fun h => h.2 hfits
  · rename_i hmisfit
    exact (and_iff_left hmisfit).symm

/-- A table begins with nothing counted. -/
theorem eq_of_start {settings : Settings} {seed : Nat → UInt64} {columns : List ColumnHeader}
    (h : start settings seed columns = .ok t) : t = { profiles := t.profiles } := by
  rw [start_eq_map] at h
  obtain ⟨profiles, -, rfl⟩ := Json.map_eq_ok.mp h
  rfl

theorem profiled_of_start {settings : Settings} {seed : Nat → UInt64}
    {columns : List ColumnHeader} (h : start settings seed columns = .ok t) : t.profiled = 0 :=
  congrArg profiled (eq_of_start h)

/-- **With settings that are accepted, a table can begin.** -/
theorem exists_start {settings : Settings} (accepted : settings.validate = .ok ())
    (seed : Nat → UInt64) (columns : List ColumnHeader) :
    ∃ t, start settings seed columns = .ok t := by
  cases hstart : start settings seed columns with
  | ok t => exact ⟨t, rfl⟩
  | error e =>
    obtain ⟨-, hnone⟩ := start_eq_error hstart
    have hroom := (Settings.validate_eq_ok_iff.mp accepted).samplerSize
    change (if settings.numericStats then some settings.samplerSize else none) = some 0 at hnone
    split at hnone
    · rename_i hstats
      exact absurd (Option.some.inj hnone) (hroom hstats).ne'
    · cases hnone

end TableState

namespace Activity

variable {table : String} {settings : Settings}

/-- **Rows come to nothing** exactly if no row was looked at before, and none
of those that are still looked for fits. -/
theorem throughRows_eq_none_iff {rowCount : Option Int} {t : TableState} {rows : Rows} :
    (throughRows table settings rowCount t rows).uninterrupted = .result (.ok none)
      ↔ t.profiled = 0
        ∧ Rows.NoneFits t.profiles.length (rows.upTo (settings.limit.map (· - t.read))) := by
  have hended : Ending.result (.ok (t.report table settings rowCount)) = .result (.ok none)
      ↔ t.profiled = 0 := by
    rw [Ending.result.injEq, Except.ok.injEq, TableState.report_eq_none_iff]
  induction rows generalizing t with
  | nil =>
    rw [Rows.upTo_nil, and_iff_left (Rows.noneFits_nil _)]
    unfold throughRows
    split <;> exact hended
  | cons answer rest ih =>
    unfold throughRows
    split
    · rename_i hreached
      rw [Rows.upTo_of_reached hreached, and_iff_left (Rows.noneFits_nil _)]
      exact hended
    · rename_i hgoesOn
      rw [Rows.upTo_cons hgoesOn, uninterrupted_calls]
      cases answer with
      | breakdown =>
        refine iff_of_false (by rintro ⟨⟩) fun h => ?_
        obtain ⟨_, heq, -⟩ := h.2 _ List.mem_cons_self
        cases heq
      | failure e =>
        refine iff_of_false (by rintro ⟨⟩) fun h => ?_
        obtain ⟨_, heq, -⟩ := h.2 _ List.mem_cons_self
        cases heq
      | value row =>
        have hrest := ih (t := t.count.look row) (by
          rw [Ending.result.injEq, Except.ok.injEq, TableState.report_eq_none_iff])
        rw [TableState.profiled_look_eq_zero_iff, TableState.read_count_look,
          TableState.length_profiles_look, and_assoc] at hrest
        rw [Rows.noneFits_cons]
        refine Iff.trans ?_ hrest
        dsimp only
        split <;> exact Iff.rfl

variable {source : Source} {seed : Nat → UInt64} {columns : List ColumnHeader}

theorem openRows_eq_none_iff (accepted : settings.validate = .ok ()) {rowCount : Option Int} :
    (openRows source settings seed table columns rowCount).uninterrupted = .result (.ok none)
      ↔ ∃ rows, source.rows table settings.limit = .value rows
        ∧ Rows.NoneFits columns.length (rows.upTo settings.limit) := by
  obtain ⟨t, hstart⟩ := TableState.exists_start accepted seed columns
  obtain ⟨-, hlength, -⟩ := TableState.of_start hstart
  unfold openRows
  rw [hstart]
  dsimp only
  rw [uninterrupted_calls]
  cases hrows : source.rows table settings.limit with
  | breakdown => exact iff_of_false (by rintro ⟨⟩) (by rintro ⟨_, ⟨⟩, -⟩)
  | failure e => exact iff_of_false (by rintro ⟨⟩) (by rintro ⟨_, ⟨⟩, -⟩)
  | value rows =>
    dsimp only
    rw [throughRows_eq_none_iff, TableState.map_sub_read_of_start hstart, hlength,
      and_iff_right (TableState.profiled_of_start hstart)]
    refine ⟨fun h => ⟨rows, rfl, h⟩, ?_⟩
    rintro ⟨_, heq, h⟩
    obtain rfl := Answer.value.inj heq
    exact h

theorem countRows_eq_none_iff (accepted : settings.validate = .ok ()) :
    (countRows source settings seed table columns).uninterrupted = .result (.ok none)
      ↔ source.NoRowFits settings.limit table columns := by
  unfold countRows
  rw [uninterrupted_calls]
  cases hcount : source.rowCount table with
  | breakdown => exact iff_of_false (by rintro ⟨⟩) fun h => h.unbroken hcount
  | failure e =>
    dsimp only
    split
    · rename_i hcancels
      refine iff_of_false (by rintro ⟨⟩) fun h => ?_
      rw [h.counted e hcount] at hcancels
      cases hcancels
    · rename_i hgoesOn
      rw [openRows_eq_none_iff accepted]
      refine ⟨fun h => ⟨fun e' heq => ?_, by rw [hcount]; rintro ⟨⟩, h⟩, fun h => h.rows⟩
      obtain rfl := Answer.failure.inj (hcount.symm.trans heq)
      exact Bool.of_not_eq_true hgoesOn
  | value rowCount =>
    dsimp only
    rw [openRows_eq_none_iff accepted]
    refine ⟨fun h => ⟨fun e heq => ?_, by rw [hcount]; rintro ⟨⟩, h⟩, fun h => h.rows⟩
    cases hcount.symm.trans heq

/-- **The profile of a table ends with nothing to report** exactly if its
source has nothing to report of it. -/
theorem ofTable_eq_none_iff (accepted : settings.validate = .ok ()) :
    (ofTable source settings seed table).uninterrupted = .result (.ok none)
      ↔ source.HasNothing settings.limit table := by
  show (lookUpColumns source settings seed table).uninterrupted = _ ↔ _
  unfold lookUpColumns Source.HasNothing
  rw [uninterrupted_calls]
  cases hcolumns : source.columns table with
  | breakdown => exact iff_of_false (by rintro ⟨⟩) (by rintro ⟨_, ⟨⟩, -⟩)
  | failure e => exact iff_of_false (by rintro ⟨⟩) (by rintro ⟨_, ⟨⟩, -⟩)
  | value columns =>
    have hone : (∃ columns', Answer.value columns = .value columns'
        ∧ (columns' = [] ∨ source.NoRowFits settings.limit table columns'))
        ↔ columns = [] ∨ source.NoRowFits settings.limit table columns := by
      refine ⟨?_, fun h => ⟨columns, rfl, h⟩⟩
      rintro ⟨_, heq, h⟩
      obtain rfl := Answer.value.inj heq
      exact h
    rw [hone]
    dsimp only
    split
    · rename_i hempty
      exact iff_of_true rfl (.inl (List.isEmpty_iff.mp hempty))
    · rename_i hnonempty
      rw [countRows_eq_none_iff accepted,
        or_iff_right fun h => hnonempty (List.isEmpty_iff.mpr h)]

/-- What is reported of a table carries its name. -/
theorem table_of_report? {report : Report.Table}
    (h : (ofTable source settings seed table).uninterrupted.report? = some report) :
    report.table = table := by
  obtain ⟨columns, rows, rowCount, t, -, -, -, hreport⟩ := exists_of_ofTable h
  unfold TableState.report at hreport
  split at hreport
  · cases hreport
  · obtain rfl := Option.some.inj hreport
    rfl

end Activity

/-! ## Whole scans -/

namespace Ending

theorem table_of_failure? {e : Ending} {table : String} {f : Report.Failure}
    (h : e.failure? table = some f) : f.table = table := by
  unfold failure? at h
  split at h
  · cases h
  · split at h
    · cases h
    · obtain rfl := Option.some.inj h
      rfl
  · obtain rfl := Option.some.inj h
    rfl

/-- **What ends without a report and without a failure** was canceled, or has
nothing to report. -/
theorem eq_none_of_silent {e : Ending} {table : String} (hreport : e.report? = none)
    (hfailure : e.failure? table = none) (uncanceled : e.isCancellation = false) :
    e = .result (.ok none) := by
  cases e with
  | breakdown => cases hfailure
  | result r =>
    cases r with
    | ok report? => exact congrArg (fun r => result (.ok r)) hreport
    | error e =>
      change e.isCancellation = false at uncanceled
      change (if e.isCancellation then none else some _) = none at hfailure
      rw [uncanceled] at hfailure
      cases hfailure

end Ending

namespace Scan

variable {scan : Scan} {tables : List String} {outcome : Outcome} {table : String}

/-- **How a table may end that was asked for** in a scan that completes and
leaves it out: with nothing to report, each time that it was asked for. -/
theorem ending_eq_none_iff_of_ends (h : scan.Ends tables outcome)
    (completed : outcome.canceled = false) :
    outcome.report.LeavesOut table
      ↔ ∀ i : Nat, tables[i]? = some table → scan.ending i table = .result (.ok none) := by
  obtain ⟨hundisturbed, huncanceled⟩ := ends_undisturbed h completed
  obtain ⟨_, -, htables, hkept⟩ := tables_of_ends hundisturbed
  obtain rfl := hkept fun _ => rfl
  have hfailures := (failures_of_ends hundisturbed).2 fun _ => rfl
  -- the scan that is never told to stop profiles its tables in the same way
  have hending : scan.undisturbed.ending = scan.ending := rfl
  constructor
  · rintro ⟨hreported, hfailed⟩ i htable
    refine @Ending.eq_none_of_silent _ table ?_ ?_ (huncanceled i table htable)
    · refine Option.eq_none_iff_forall_ne_some.mpr fun report hreport => ?_
      refine hreported report ?_ (Activity.table_of_report? hreport)
      rw [htables]
      exact List.mem_map.mpr ⟨(i, report), scan.undisturbed.mem_reports.mpr ⟨table, htable, hreport⟩, rfl⟩
    · refine Option.eq_none_iff_forall_ne_some.mpr fun failure hfailure => ?_
      refine hfailed failure ?_ (Ending.table_of_failure? hfailure)
      exact hfailures.mem_iff.mpr (scan.undisturbed.mem_failures.mpr ⟨i, table, htable, hfailure⟩)
  · intro hnothing
    constructor
    · intro report hreport hname
      rw [htables] at hreport
      obtain ⟨⟨i, _⟩, hmem, rfl⟩ := List.mem_map.mp hreport
      obtain ⟨table', htable, hending'⟩ := scan.undisturbed.mem_reports.mp hmem
      obtain rfl := (Activity.table_of_report? hending').symm.trans hname
      rw [hending, hnothing i htable] at hending'
      cases hending'
    · intro failure hfailure hname
      obtain ⟨i, table', htable, hending'⟩ := scan.undisturbed.mem_failures.mp (hfailures.mem_iff.mp hfailure)
      obtain rfl := (Ending.table_of_failure? hending').symm.trans hname
      rw [hending, hnothing i htable] at hending'
      cases hending'

/-- **Which tables a completed scan leaves out**: of those it was asked for,
the ones that have no columns, and the ones that have no row of the right
length among the rows that are looked for. All others are reported or listed
as failures. And whatever it is told, the profile of no other table ends with
nothing to report. -/
theorem leavesOut_iff_of_returns (accepted : scan.settings.validate = .ok ())
    (h : scan.Returns tables (.ok outcome)) (completed : outcome.canceled = false) :
    (∀ table ∈ tables, outcome.report.LeavesOut table
        ↔ scan.source.HasNothing scan.settings.limit table)
      ∧ ∀ (table : String) (position asked : Nat) (interrupt : Interrupt),
        ((scan.activity position table).run interrupt asked).1 = .result (.ok none) →
        scan.source.HasNothing scan.settings.limit table := by
  have hnone : ∀ position table, scan.ending position table = .result (.ok none)
      ↔ scan.source.HasNothing scan.settings.limit table :=
    fun position table => Activity.ofTable_eq_none_iff accepted
  refine ⟨fun table requested => ?_, fun table position asked interrupt hrun => ?_⟩
  · obtain ⟨i, hi⟩ := List.getElem?_of_mem requested
    rw [ending_eq_none_iff_of_ends (ends_of_returns h) completed]
    exact ⟨fun hall => (hnone i table).mp (hall i hi), fun hnothing j _ =>
      (hnone j table).mpr hnothing⟩
  · rcases Activity.run_eq_or_canceled (Activity.heeds_ofTable _ _ _ _) interrupt asked
      with hends | hcanceled
    · exact (hnone position table).mp (hends.symm.trans hrun)
    · cases hcanceled.symm.trans hrun

/-- A source of a table without columns, and of tables of two columns, of which
only one has a row of two cells. -/
def raggedTables : Source where
  tables := .ok ["full", "ragged", "bare"]
  columns table := .value (if table = "bare" then [] else [{ name := "a" }, { name := "b" }])
  rowCount _ := .value none
  rows table _ := .value [.value (if table = "full" then ["1", "2"] else ["1"])]

theorem neverCancels_raggedTables : raggedTables.NeverCancels := by
  refine ⟨fun _ _ h => ?_, fun _ _ h => ?_, fun _ _ _ h => ?_, fun _ _ rows e h hmem => ?_⟩
  · cases h
  · cases h
  · cases h
  · obtain rfl := Answer.value.inj h
    simp at hmem

/-- The only row of the ragged table does not fit. -/
theorem hasNothing_ragged (n : Nat) : raggedTables.HasNothing (some (n + 1)) "ragged" := by
  refine ⟨_, rfl, .inr ⟨?_, ?_, _, rfl, ?_⟩⟩
  · rintro e ⟨⟩
  · rintro ⟨⟩
  · show Rows.NoneFits 2 (.value ["1"] :: List.take n [])
    rw [List.take_nil]
    exact Rows.noneFits_cons.mpr ⟨by decide, Rows.noneFits_nil _⟩

/-- Two workers look at all three tables: of the two with two columns, the one
whose only row does not fit is left out. -/
theorem leavesOut_iff_of_returns_two_workers :
    let scan : Scan := { source := raggedTables, settings := { concurrency := 2 } }
    let tables := ["full", "ragged", "bare"]
    scan.settings.validate = .ok () ∧ ∃ outcome, scan.Returns tables (.ok outcome)
      ∧ outcome.canceled = false ∧ ¬ outcome.report.LeavesOut "full"
      ∧ outcome.report.LeavesOut "ragged" ∧ outcome.report.LeavesOut "bare" := by
  intro scan tables
  have accepted : scan.settings.validate = .ok () := rfl
  obtain ⟨outcome, h, hcompleted, -⟩ := exists_completed scan tables accepted
    (List.cons_ne_nil _ _) neverCancels_raggedTables fun _ => rfl
  obtain ⟨hall, -⟩ := leavesOut_iff_of_returns accepted h hcompleted
  refine ⟨accepted, outcome, h, hcompleted, fun hleft => ?_, ?_, ?_⟩
  · obtain ⟨columns, hcolumns, hnothing⟩ := (hall "full" (by decide)).mp hleft
    obtain rfl := Answer.value.inj hcolumns
    rcases hnothing with hempty | ⟨-, -, rows, hrows, hnone⟩
    · cases hempty
    · obtain rfl := Answer.value.inj hrows
      exact (Rows.noneFits_cons.mp hnone).1 rfl
  · exact (hall "ragged" (by decide)).mpr (hasNothing_ragged 99999)
  · exact (hall "bare" (by decide)).mpr ⟨_, rfl, .inl rfl⟩

/-- **A table with columns and a row can be left out**: its row does not
fit. -/
theorem exists_leavesOut_of_row :
    let scan : Scan := { source := raggedTables, settings := { concurrency := 1 } }
    ∃ outcome, scan.Returns ["ragged"] (.ok outcome) ∧ outcome.canceled = false
      ∧ outcome.report.LeavesOut "ragged" ∧ scan.source.columns "ragged" ≠ .value []
      ∧ ∀ rows, scan.source.rows "ragged" scan.settings.limit = .value rows →
        rows.upTo scan.settings.limit ≠ [] := by
  intro scan
  obtain ⟨outcome, h, hcompleted, -⟩ := exists_completed scan ["ragged"] rfl
    (List.cons_ne_nil _ _) neverCancels_raggedTables fun _ => rfl
  refine ⟨outcome, h, hcompleted, ?_, ?_, fun rows hrows => ?_⟩
  · refine (ending_eq_none_iff_of_ends (ends_of_returns h) hcompleted).mpr fun i _ => ?_
    exact (Activity.ofTable_eq_none_iff rfl).mpr (hasNothing_ragged 99999)
  · rintro ⟨⟩
  · obtain rfl := Answer.value.inj hrows
    exact List.cons_ne_nil _ _

end Scan

end TableProfile
