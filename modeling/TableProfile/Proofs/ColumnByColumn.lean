import TableProfile.Proofs.LeftOut

/-!
# A table is reported column by column

A table is read row by row. Each row counts against the limit, and one of the
right length is shown to all columns at once, one cell to each. What is reported
does not tell: it is what each column says of its own cells, looked at from the
first to the last without a table around it (`Report.Table.IsColumnwise`). In a
scan that completes, this is so each time that the table was asked for
(`Scan.isColumnwise_of_returns`).

Three things follow. A column does not depend on the cells of another one. A row
that does not fit counts against the limit and is counted among the rows passed
over, and that is all it does. And what a source has behind the limit is never
seen: to leave it out gives the same activities, and with them the same scans.
-/

namespace TableProfile

/-! ## What can be seen of a table -/

/-- **What can be seen of a table** by a scan with a limit. -/
structure TableView where
  /-- The name of the table. -/
  table : String
  /-- The columns. -/
  columns : List ColumnHeader
  /-- The number of rows of the whole table, if it is known. -/
  knownRows : Option Int
  /-- The rows that are looked for, of whatever length. -/
  rows : List Row

namespace TableView

variable (view : TableView)

/-- The same table with other rows. -/
def withRows (rows : List Row) : TableView :=
  { view with rows }

/-- **The rows that fit**: they have a cell for each column. -/
def fitting : List Row :=
  view.rows.filter (·.length == view.columns.length)

/-- The cells of a column in the rows that fit. -/
def cells (place : Nat) : List String :=
  view.fitting.filterMap (·[place]?)

/-- Each row that fits has a cell in each column. -/
theorem length_cells {place : Nat} (inside : place < view.columns.length) :
    (view.cells place).length = view.fitting.length := by
  unfold cells
  rw [List.length_filterMap_eq_countP, List.countP_eq_length]
  intro row hrow
  have hlength : row.length = view.columns.length :=
    beq_iff_eq.mp (List.mem_filter.mp hrow).2
  rw [List.getElem?_eq_getElem (hlength ▸ inside), Option.isSome_some]

end TableView

/-- **A source shows a table.** Its columns are told, and there is one. The number
of rows is told, or the attempt does no harm. As far as the rows are looked for,
they are rows; what comes behind them may be an error. -/
structure Source.Shows (source : Source) (limit : Option Nat) (view : TableView) : Prop where
  /-- The columns are told. -/
  columns : source.columns view.table = .value view.columns
  /-- There is a column. -/
  some_column : view.columns ≠ []
  /-- The number of rows is told, or stays unknown. -/
  counted : source.rowCount view.table = .value view.knownRows
    ∨ view.knownRows = none ∧ ∃ e, source.rowCount view.table = .failure e
  /-- The rows can be read as far as they are looked for. -/
  rows : ∃ rows, source.rows view.table limit = .value rows
    ∧ rows.upTo limit = view.rows.map .value

/-- **A report of a table column by column.** The rows that fit are counted, and
so are the others. At each place, the report has what a new column says that was
shown the cells of that place, from the first row that fits to the last, and then
ended. -/
structure Report.Table.IsColumnwise (report : Report.Table) (settings : Settings)
    (seed : Nat → UInt64) (view : TableView) : Prop where
  /-- The name is that of the table. -/
  table : report.table = view.table
  /-- The number of rows is passed on. -/
  knownRows : report.knownRows = view.knownRows
  /-- The rows that fit are counted. -/
  rows : report.rows = view.fitting.length
  /-- The others are counted. -/
  skipped : report.skipped = view.rows.length - view.fitting.length
  /-- There is a report for each column. -/
  width : report.columns.length = view.columns.length
  /-- It is what the column says of its own cells. -/
  column : ∀ (place : Nat) (header : ColumnHeader), view.columns[place]? = some header →
    ∃ p, ColumnProfile.start header.name header.declared settings.profile (seed place) = .ok p
      ∧ report.columns[place]?
        = some ((p.observeAll (view.cells place)).finish.report view.knownRows
          settings.minCellCount)

/-! ## What a report depends on -/

namespace Report.Table.IsColumnwise

variable {report report' : Report.Table} {settings : Settings} {seed : Nat → UInt64}
  {view : TableView} {rows : List Row} {place : Nat}

/-- Each column was shown a cell of each row that fits. -/
theorem rows_of_mem_columns (h : report.IsColumnwise settings seed view) {column : Report.Column}
    (hcolumn : column ∈ report.columns) : column.rows = report.rows := by
  obtain ⟨place, hplace, rfl⟩ := List.getElem_of_mem hcolumn
  have inside : place < view.columns.length := h.width ▸ hplace
  obtain ⟨p, hstart, heq⟩ := h.column place _ (List.getElem?_eq_getElem inside)
  rw [List.getElem?_eq_getElem hplace] at heq
  have state : p.ComesTo (view.cells place) (p.observeAll (view.cells place)).finish := .finished
  calc report.columns[place].rows = (p.observeAll (view.cells place)).finish.rows := by
        rw [Option.some.inj heq]
        rfl
    _ = (view.cells place).length := state.rows_eq _ (ColumnProfile.isFresh_of_start hstart)
    _ = report.rows := (view.length_cells inside).trans h.rows.symm

/-- **A column depends on its own cells**, and on no others. -/
theorem getElem?_columns_eq (h : report.IsColumnwise settings seed view)
    (h' : report'.IsColumnwise settings seed (view.withRows rows))
    (same : (view.withRows rows).cells place = view.cells place) :
    report'.columns[place]? = report.columns[place]? := by
  rcases Nat.lt_or_ge place view.columns.length with inside | outside
  · have hheader := List.getElem?_eq_getElem inside
    obtain ⟨p, hstart, hcolumn⟩ := h.column place _ hheader
    obtain ⟨p', hstart', hcolumn'⟩ := h'.column place _ hheader
    obtain rfl := Except.ok.inj (hstart.symm.trans hstart')
    rw [hcolumn, hcolumn', same]
    rfl
  · rw [List.getElem?_eq_none (h.width.trans_le outside),
      List.getElem?_eq_none (h'.width.trans_le outside)]

/-- **Rows that do not fit** change nothing but their number. -/
theorem eq_of_fitting_eq (h : report.IsColumnwise settings seed view)
    (h' : report'.IsColumnwise settings seed (view.withRows rows))
    (same : (view.withRows rows).fitting = view.fitting) :
    report' = { report with skipped := rows.length - view.fitting.length } := by
  have hcolumns : report'.columns = report.columns := List.ext_getElem? fun place =>
    h.getElem?_columns_eq h' (congrArg (List.filterMap (·[place]?)) same)
  obtain ⟨table', knownRows', rows', skipped', columns'⟩ := report'
  obtain rfl : table' = report.table := h'.table.trans h.table.symm
  obtain rfl : knownRows' = report.knownRows := h'.knownRows.trans h.knownRows.symm
  obtain rfl : rows' = report.rows :=
    h'.rows.trans ((congrArg List.length same).trans h.rows.symm)
  obtain rfl : columns' = report.columns := hcolumns
  obtain rfl : skipped' = rows.length - view.fitting.length :=
    h'.skipped.trans (congrArg (rows.length - List.length ·) same)
  rfl

end Report.Table.IsColumnwise

/-! ## Rows -/

namespace TableState

variable {t : TableState}

theorem length_profiles_lookAll (t : TableState) (rows : List Row) :
    (t.lookAll rows).profiles.length = t.profiles.length := by
  induction rows generalizing t with
  | nil => rfl
  | cons row rest ih => exact (ih (t.count.look row)).trans (length_profiles_look t.count row)

/-- A row is counted on one of the two sides. -/
theorem counts_look (t : TableState) (row : Row) :
    (t.look row).profiled = t.profiled + ([row].filter (·.length == t.profiles.length)).length
      ∧ (t.look row).profiled + (t.look row).skipped = t.profiled + t.skipped + 1 := by
  unfold look
  split
  · rename_i hfits
    have hfilter : [row].filter (·.length == t.profiles.length) = [row] :=
      List.filter_cons_of_pos (beq_iff_eq.mpr hfits)
    rw [hfilter]
    exact ⟨rfl, Nat.add_right_comm _ _ _⟩
  · rename_i hmisfit
    have hfilter : [row].filter (·.length == t.profiles.length) = [] :=
      List.filter_cons_of_neg (by rwa [beq_iff_eq])
    rw [hfilter]
    exact ⟨rfl, rfl⟩

/-- **The rows that fit are counted**, and so are the others. -/
theorem counts_lookAll (t : TableState) (rows : List Row) :
    (t.lookAll rows).profiled
        = t.profiled + (rows.filter (·.length == t.profiles.length)).length
      ∧ (t.lookAll rows).profiled + (t.lookAll rows).skipped
        = t.profiled + t.skipped + rows.length := by
  induction rows generalizing t with
  | nil => exact ⟨rfl, rfl⟩
  | cons row rest ih =>
    obtain ⟨hprofiled, htotal⟩ := counts_look t.count row
    obtain ⟨hprofiled', htotal'⟩ := ih (t.count.look row)
    rw [hprofiled, length_profiles_look] at hprofiled'
    rw [htotal] at htotal'
    constructor
    · rw [← List.singleton_append, List.filter_append, List.length_append, ← Nat.add_assoc]
      exact hprofiled'
    · rw [List.length_cons, ← Nat.add_assoc, Nat.add_right_comm]
      exact htotal'

variable {settings : Settings} {seed : Nat → UInt64} {view : TableView}

/-- **What is reported of rows that were looked at** is reported column by
column. -/
theorem isColumnwise_of_report (hstart : start settings seed view.columns = .ok t)
    {report : Report.Table}
    (h : (t.lookAll view.rows).report view.table settings view.knownRows = some report) :
    report.IsColumnwise settings seed view := by
  obtain ⟨-, hlength, hprofiles⟩ := of_start hstart
  obtain ⟨hprofiled, htotal⟩ := counts_lookAll t view.rows
  have hfitting : (t.lookAll view.rows).profiled = view.fitting.length := by
    rw [hprofiled, profiled_of_start hstart, hlength, Nat.zero_add]
    rfl
  rw [profiled_of_start hstart, congrArg skipped (eq_of_start hstart), hfitting] at htotal
  unfold TableState.report at h
  split at h
  · cases h
  obtain rfl := Option.some.inj h
  refine ⟨rfl, rfl, hfitting, ?_, ?_, fun place header hheader => ?_⟩
  · exact Nat.eq_sub_of_add_eq' (htotal.trans (Nat.zero_add _))
  · exact (List.length_map _).trans ((length_profiles_lookAll _ _).trans hlength)
  · have hinside := (List.getElem?_eq_some_iff.mp hheader).1
    rw [← hlength] at hinside
    have hp := List.getElem?_eq_getElem hinside
    obtain ⟨header', hheader', hbegun⟩ := hprofiles place _ hp
    obtain rfl := Option.some.inj (hheader.symm.trans hheader')
    refine ⟨_, hbegun, ?_⟩
    rw [List.getElem?_map, getElem?_profiles_lookAll, hp, hlength]
    rfl

end TableState

namespace Activity

variable {table : String} {settings : Settings} {rowCount : Option Int}

/-- **What is behind the limit does not matter**: not even whether there is
anything. -/
theorem throughRows_upTo (t : TableState) (rows : Rows) :
    throughRows table settings rowCount t (rows.upTo (settings.limit.map (· - t.read)))
      = throughRows table settings rowCount t rows := by
  -- on the rows: what is left of the limit shrinks with each row that is read
  induction rows generalizing t with
  | nil => rw [Rows.upTo_nil]
  | cons answer rest ih =>
    by_cases hreached : settings.limit.any (· ≤ t.read) = true
    · rw [Rows.upTo_of_reached hreached]
      unfold throughRows
      rw [if_pos hreached, if_pos hreached]
    · rw [Rows.upTo_cons hreached]
      unfold throughRows
      rw [if_neg hreached, if_neg hreached]
      cases answer with
      | breakdown => rfl
      | failure e => rfl
      | value row =>
        have hrest := ih (t.count.look row)
        rw [TableState.read_count_look] at hrest
        dsimp only
        rw [hrest]

/-- **Rows that can be read as far as they are looked for** come to what is
reported of them. -/
theorem uninterrupted_throughRows_of_values {t : TableState} {answers : Rows} {rows : List Row}
    (h : answers.upTo (settings.limit.map (· - t.read)) = rows.map .value) :
    (throughRows table settings rowCount t answers).uninterrupted
      = .result (.ok ((t.lookAll rows).report table settings rowCount)) := by
  induction answers generalizing t rows with
  | nil =>
    rw [Rows.upTo_nil] at h
    obtain rfl := List.map_eq_nil_iff.mp h.symm
    unfold throughRows
    split <;> rfl
  | cons answer rest ih =>
    unfold throughRows
    split
    · rename_i hreached
      rw [Rows.upTo_of_reached hreached] at h
      obtain rfl := List.map_eq_nil_iff.mp h.symm
      rfl
    · rename_i hgoesOn
      rw [Rows.upTo_cons hgoesOn] at h
      obtain ⟨row, rows, rfl, rfl, hrest⟩ := List.map_eq_cons_iff.mp h.symm
      have hnext : Rows.upTo (settings.limit.map (· - (t.count.look row).read)) rest
          = rows.map Answer.value := by
        rw [TableState.read_count_look]
        exact hrest.symm
      rw [uninterrupted_calls]
      dsimp only
      split <;> exact ih hnext

variable {source : Source} {seed : Nat → UInt64} {view : TableView} {t : TableState}

/-- Rows that are shown come to what is reported of them. -/
theorem uninterrupted_openRows_of_shows (shown : source.Shows settings.limit view)
    (hstart : TableState.start settings seed view.columns = .ok t) :
    (openRows source settings seed view.table view.columns rowCount).uninterrupted
      = .result (.ok ((t.lookAll view.rows).report view.table settings rowCount)) := by
  obtain ⟨answers, hanswers, hrows⟩ := shown.rows
  unfold openRows
  rw [hstart]
  dsimp only
  rw [uninterrupted_calls, hanswers]
  refine uninterrupted_throughRows_of_values ?_
  rw [TableState.map_sub_read_of_start hstart]
  exact hrows

/-- **A table that has columns** comes to what its rows come to, unless it breaks down
or ends as canceled when its rows are counted. -/
theorem uninterrupted_ofTable_of_columns {columns : List ColumnHeader}
    (told : source.columns table = .value columns) (some : columns ≠ [])
    (uncanceled : (ofTable source settings seed table).uninterrupted.isCancellation = false) :
    (source.rowCount table = .breakdown
        ∧ (ofTable source settings seed table).uninterrupted = .breakdown)
      ∨ ∃ rowCount, (source.rowCount table = .value rowCount
          ∨ rowCount = none ∧ ∃ e, source.rowCount table = .failure e)
        ∧ (ofTable source settings seed table).uninterrupted
          = (openRows source settings seed table columns rowCount).uninterrupted := by
  have hcounts : (ofTable source settings seed table).uninterrupted
      = (countRows source settings seed table columns).uninterrupted := by
    show (lookUpColumns source settings seed table).uninterrupted = _
    unfold lookUpColumns
    rw [uninterrupted_calls, told]
    dsimp only
    rw [List.isEmpty_eq_false_iff.mpr some, if_neg Bool.false_ne_true]
  rw [hcounts] at uncanceled ⊢
  unfold countRows at uncanceled ⊢
  rw [uninterrupted_calls] at uncanceled ⊢
  cases hcount : source.rowCount table with
  | breakdown => exact .inl ⟨rfl, rfl⟩
  | value rowCount => exact .inr ⟨rowCount, .inl rfl, rfl⟩
  | failure e =>
    rw [hcount] at uncanceled
    dsimp only at uncanceled ⊢
    -- a cancellation would have canceled the table
    cases hcancels : e.isCancellation with
    | true =>
      rw [hcancels, if_pos rfl] at uncanceled
      exact absurd hcancels (Bool.eq_false_iff.mp uncanceled)
    | false =>
      rw [if_neg Bool.false_ne_true]
      exact .inr ⟨none, .inr ⟨rfl, e, rfl⟩, rfl⟩

/-- **A table that is shown** comes to what is reported of its rows, unless it
ends as canceled by itself. -/
theorem uninterrupted_ofTable_of_shows (shown : source.Shows settings.limit view)
    (hstart : TableState.start settings seed view.columns = .ok t)
    (uncanceled : (ofTable source settings seed view.table).uninterrupted.isCancellation = false) :
    (ofTable source settings seed view.table).uninterrupted
      = .result (.ok ((t.lookAll view.rows).report view.table settings view.knownRows)) := by
  rcases uninterrupted_ofTable_of_columns shown.columns shown.some_column uncanceled with
    ⟨hbroken, -⟩ | ⟨rowCount, hcount, hends⟩
  · rcases shown.counted with hcount | ⟨-, e, hcount⟩
    · cases hbroken.symm.trans hcount
    · cases hbroken.symm.trans hcount
  · obtain rfl : rowCount = view.knownRows := by
      rcases shown.counted with hknown | ⟨hunknown, e, hfails⟩
      · rcases hcount with hcount | ⟨-, e, hcount⟩
        · exact Answer.value.inj (hcount.symm.trans hknown)
        · cases hcount.symm.trans hknown
      · rcases hcount with hcount | ⟨hnone, -⟩
        · cases hcount.symm.trans hfails
        · exact hnone.trans hunknown.symm
    exact hends.trans (uninterrupted_openRows_of_shows shown hstart)

/-- **The report of a table that is shown.** -/
theorem exists_isColumnwise_of_shows (accepted : settings.validate = .ok ())
    (shown : source.Shows settings.limit view) (fits : view.fitting ≠ [])
    (uncanceled : (ofTable source settings seed view.table).uninterrupted.isCancellation = false) :
    ∃ report, (ofTable source settings seed view.table).uninterrupted = .result (.ok (some report))
      ∧ report.IsColumnwise settings seed view := by
  obtain ⟨t, hstart⟩ := TableState.exists_start accepted seed view.columns
  have hended := uninterrupted_ofTable_of_shows shown hstart uncanceled
  have hcounted : (t.lookAll view.rows).profiled ≠ 0 := by
    rw [(TableState.counts_lookAll t view.rows).1, TableState.profiled_of_start hstart,
      Nat.zero_add, (TableState.of_start hstart).2.1]
    exact fun hnone => fits (List.eq_nil_of_length_eq_zero hnone)
  have hreported : (t.lookAll view.rows).report view.table settings view.knownRows ≠ none :=
    fun hnone => hcounted (TableState.report_eq_none_iff.mp hnone)
  obtain ⟨report, hreport⟩ := Option.ne_none_iff_exists'.mp hreported
  rw [hreport] at hended
  exact ⟨report, hended, TableState.isColumnwise_of_report hstart hreport⟩

end Activity

/-! ## A source that keeps to the limit -/

/-- **The source that keeps to the limit**, whatever it has behind it. -/
def Source.limited (source : Source) : Source :=
  { source with rows := fun table limit => (source.rows table limit).map (Rows.upTo limit) }

namespace Activity

/-- **What is done about a table** depends on what the source answers about it: on the
columns, the number of rows, and how its rows are gone through. -/
theorem ofTable_eq_of_openRows_eq {source source' : Source} {settings : Settings}
    {seed : Nat → UInt64} {table : String} (columns : source'.columns table = source.columns table)
    (rowCount : source'.rowCount table = source.rowCount table)
    (rows : openRows source' settings seed table = openRows source settings seed table) :
    ofTable source' settings seed table = ofTable source settings seed table := by
  have hcount : countRows source' settings seed table
      = countRows source settings seed table := by
    funext columns
    unfold countRows
    rw [rows, rowCount]
  unfold ofTable lookUpColumns
  rw [hcount, columns]

/-- **To keep to the limit makes no difference** to what is done about a table. -/
theorem ofTable_limited (source : Source) (settings : Settings) (seed : Nat → UInt64)
    (table : String) : ofTable source.limited settings seed table
      = ofTable source settings seed table := by
  refine ofTable_eq_of_openRows_eq rfl rfl ?_
  funext columns rowCount
  unfold openRows
  cases hstart : TableState.start settings seed columns with
  | error e => rfl
  | ok t =>
    have hlimited : source.limited.rows table settings.limit
      = (source.rows table settings.limit).map (Rows.upTo settings.limit) := rfl
    rw [hlimited]
    cases source.rows table settings.limit with
    | breakdown => rfl
    | failure e => rfl
    | value rows =>
      have hthrough : throughRows table settings rowCount t (rows.upTo settings.limit)
          = throughRows table settings rowCount t rows := by
        rw [← throughRows_upTo t rows, TableState.map_sub_read_of_start hstart]
      exact congrArg (fun rest => calls .rows fun _ => rest) hthrough

end Activity

namespace Scan

variable {scan scan' : Scan} {tables : List String} {outcome : Outcome} {view : TableView}

section SameActivity

variable (activity : scan'.activity = scan.activity) (interrupt : scan'.interrupt = scan.interrupt)
  (settings : scan'.settings = scan.settings)

include activity interrupt settings

theorem reaches_of_activity_eq {s : ScanState} (h : scan.Reaches tables s) :
    scan'.Reaches tables s := by
  induction h with
  | start =>
    have hstart : scan'.start tables = scan.start tables := by
      unfold start
      rw [settings]
    exact hstart ▸ .start
  | turn actor _ moved ih =>
    exact .turn actor ih ((ScanState.turn?_eq_of_activity_eq activity interrupt _ actor).trans moved)

/-- **Scans that do the same about each table** return the same. -/
theorem returns_iff_of_activity_eq (result : Except ProfileError Outcome) :
    scan'.Returns tables result ↔ scan.Returns tables result := by
  have hreaches : ∀ s, scan'.Reaches tables s ↔ scan.Reaches tables s := fun s =>
    ⟨reaches_of_activity_eq activity.symm interrupt.symm settings.symm,
      reaches_of_activity_eq activity interrupt settings⟩
  have hfault : scan'.requestFault? tables = scan.requestFault? tables := by
    unfold requestFault?
    rw [settings]
  unfold Returns Ends
  rw [hfault]
  simp only [hreaches]

end SameActivity

/-! ## Whole scans -/

/-- **The reports of a table**, one for each time that it was asked for. -/
theorem forall₂_reports {table : String} {R : Nat → Report.Table → Prop} (position : Nat)
    (h : ∀ i : Nat, tables[i]? = some table → ∃ report,
      scan.ending (position + i) table = .result (.ok (some report)) ∧ R (position + i) report) :
    List.Forall₂ R (tables.idxsOf table position)
      (((Account.reports.ofTables scan position tables).map (·.2)).filter (·.table == table)) := by
  induction tables generalizing position with
  | nil => exact .nil
  | cons first rest ih =>
    have hrest := ih (position + 1) fun i hi => by
      rw [Nat.add_right_comm, Nat.add_assoc]
      exact h (i + 1) hi
    rw [Account.ofTables_cons, List.map_append, List.filter_append]
    show List.Forall₂ R (List.findIdxs (· == table) (first :: rest) position) _
    rw [List.findIdxs_cons]
    by_cases hfirst : first = table
    · subst hfirst
      obtain ⟨report, hended, hreport⟩ := h 0 rfl
      have hname : report.table = first :=
        Activity.table_of_report? (congrArg Ending.report? hended)
      have hvalue : ((Account.reports.value position first (scan.ending position first)).map
          (·.2)).filter (·.table == first) = [report] := by
        rw [show scan.ending position first = _ from hended]
        exact List.filter_cons_of_pos (beq_iff_eq.mpr hname)
      rw [hvalue, if_pos (beq_self_eq_true first)]
      exact .cons hreport hrest
    · have hvalue : ((Account.reports.value position first (scan.ending position first)).map
          (·.2)).filter (·.table == table) = [] := by
        refine List.filter_eq_nil_iff.mpr fun report hreport hname => hfirst ?_
        obtain ⟨⟨_, _⟩, hmem, rfl⟩ := List.mem_map.mp hreport
        obtain ⟨report, hended, heq⟩ := Option.map_eq_some_iff.mp (Option.mem_toList.mp hmem)
        obtain ⟨-, rfl⟩ := Prod.mk.inj heq
        exact (Activity.table_of_report? hended).symm.trans (beq_iff_eq.mp hname)
      rw [hvalue, if_neg (by rwa [beq_iff_eq])]
      exact hrest

/-- **A table that is shown is reported column by column**, each time that it was
asked for, and it is no failure. -/
theorem forall₂_isColumnwise (accepted : scan.settings.validate = .ok ())
    (h : scan.Returns tables (.ok outcome)) (completed : outcome.canceled = false)
    (shown : scan.source.Shows scan.settings.limit view) (fits : view.fitting ≠ []) :
    List.Forall₂
        (fun position report => report.IsColumnwise scan.settings (scan.seeds position) view)
        (tables.idxsOf view.table) (outcome.report.tables.filter (·.table == view.table))
      ∧ ∀ failure ∈ outcome.report.failures, failure.table ≠ view.table := by
  obtain ⟨hundisturbed, huncanceled⟩ := ends_undisturbed (ends_of_returns h) completed
  obtain ⟨_, -, htables, hkept⟩ := tables_of_ends hundisturbed
  obtain rfl := hkept fun _ => rfl
  have hfailures := (failures_of_ends hundisturbed).2 fun _ => rfl
  -- the scan that is never told to stop profiles its tables in the same way
  have hending : scan.undisturbed.ending = scan.ending := rfl
  have hended : ∀ i : Nat, tables[i]? = some view.table → ∃ report,
      scan.ending i view.table = .result (.ok (some report))
        ∧ report.IsColumnwise scan.settings (scan.seeds i) view := fun i hi =>
    Activity.exists_isColumnwise_of_shows accepted shown fits (huncanceled i _ hi)
  refine ⟨?_, fun failure hfailure hname => ?_⟩
  · rw [htables]
    refine forall₂_reports 0 fun i hi => ?_
    rw [Nat.zero_add, hending]
    exact hended i hi
  · obtain ⟨i, table, htable, hfailed⟩ :=
      scan.undisturbed.mem_failures.mp (hfailures.mem_iff.mp hfailure)
    obtain rfl := (Ending.table_of_failure? hfailed).symm.trans hname
    obtain ⟨report, hreport, -⟩ := hended i htable
    rw [hending, hreport] at hfailed
    cases hfailed

/-- Lists that are related to one list are related to each other. -/
theorem forall₂_of_common {α β γ : Type} {R : γ → α → Prop} {R' : γ → β → Prop}
    {S : α → β → Prop} (h : ∀ c a b, R c a → R' c b → S a b) {l : List γ} {l₁ : List α}
    {l₂ : List β} (h₁ : List.Forall₂ R l l₁) (h₂ : List.Forall₂ R' l l₂) :
    List.Forall₂ S l₁ l₂ := by
  induction h₁ generalizing l₂ with
  | nil =>
    cases h₂
    exact .nil
  | cons hhead _ ih =>
    cases h₂ with
    | cons hhead' htail => exact .cons (h _ _ _ hhead hhead') (ih htail)

/-- **A table report is column by column what its rows come to.** The scan
completes, and its source shows the table: it tells the columns, and as far as the
limit goes there are rows, some of which fit. Then the table is reported each time
that it was asked for, and it is no failure. The rows that fit are counted, and
the others; each column says what it says of its own cells, one of each row that
fits.

So if another source shows other rows of the table, a column for which the cells
are the same is reported in the same way, whatever the other columns have; and
where the rows that fit are the same, nothing changes but the number of the
others. And to keep to the limit makes no difference to what a scan returns,
whatever there is behind it. -/
theorem isColumnwise_of_returns (accepted : scan.settings.validate = .ok ())
    (h : scan.Returns tables (.ok outcome)) (completed : outcome.canceled = false)
    (shown : scan.source.Shows scan.settings.limit view) (fits : view.fitting ≠ []) :
    List.Forall₂
        (fun position report => report.IsColumnwise scan.settings (scan.seeds position) view
          ∧ ∀ column ∈ report.columns, column.rows = view.fitting.length)
        (tables.idxsOf view.table) (outcome.report.tables.filter (·.table == view.table))
      ∧ (∀ failure ∈ outcome.report.failures, failure.table ≠ view.table)
      ∧ (∀ (source : Source) (rows : List Row) (outcome' : Outcome),
        source.Shows scan.settings.limit (view.withRows rows) → (view.withRows rows).fitting ≠ [] →
        { scan with source }.Returns tables (.ok outcome') → outcome'.canceled = false →
        List.Forall₂
          (fun report report' =>
            (∀ place, (view.withRows rows).cells place = view.cells place →
              report'.columns[place]? = report.columns[place]?)
            ∧ ((view.withRows rows).fitting = view.fitting →
              report' = { report with skipped := rows.length - view.fitting.length }))
          (outcome.report.tables.filter (·.table == view.table))
          (outcome'.report.tables.filter (·.table == view.table)))
      ∧ ∀ result, { scan with source := scan.source.limited }.Returns tables result
        ↔ scan.Returns tables result := by
  obtain ⟨hreports, hfailures⟩ := forall₂_isColumnwise accepted h completed shown fits
  refine ⟨?_, hfailures, fun source rows outcome' shown' fits' h' completed' => ?_,
    fun result => ?_⟩
  · exact hreports.imp fun _ _ hreport => ⟨hreport, fun _ hcolumn =>
      (hreport.rows_of_mem_columns hcolumn).trans hreport.rows⟩
  · have accepted' : ({ scan with source } : Scan).settings.validate = .ok () := accepted
    have hreports' := (forall₂_isColumnwise accepted' h' completed' shown' fits').1
    refine forall₂_of_common (fun position report report' hreport hreport' => ?_)
      hreports hreports'
    exact ⟨fun place same => hreport.getElem?_columns_eq hreport' same,
      fun same => hreport.eq_of_fitting_eq hreport' same⟩
  · have hactivity : ({ scan with source := scan.source.limited } : Scan).activity
        = scan.activity := by
      funext position table
      exact Activity.ofTable_limited _ _ _ _
    exact returns_iff_of_activity_eq hactivity rfl rfl result

/-- A source of one table of two columns, with an error behind its rows. -/
def sizes (rows : List Row) : Source where
  tables := .ok ["sizes"]
  columns _ := .value [{ name := "size" }, { name := "unit" }]
  rowCount _ := .failure (.io "not counted")
  rows _ _ := .value (rows.map .value ++ [.failure (.io "not read")])

theorem neverCancels_sizes (rows : List Row) : (sizes rows).NeverCancels := by
  refine ⟨fun _ _ h => ?_, fun _ e h => ?_, fun _ _ _ h => ?_, fun _ _ answers e h hmem => ?_⟩
  · cases h
  · obtain rfl := Answer.failure.inj h
    rfl
  · cases h
  · obtain rfl := Answer.value.inj h
    rcases List.mem_append.mp hmem with hrow | hlast
    · obtain ⟨_, -, ⟨⟩⟩ := List.mem_map.mp hrow
    · obtain rfl := Answer.failure.inj (List.mem_singleton.mp hlast)
      rfl

/-- Two workers look at the first three rows, of which the second does not fit.
The error behind them is not seen. With other sizes, the units are reported in
the same way. -/
theorem isColumnwise_of_returns_two_workers :
    let rows := [["1", "mm"], ["2"], ["3", "cm"]]
    let rows' := [["7", "mm"], ["8", "cm"], []]
    let scan : Scan := { source := sizes rows, settings := { sampleSize := 3, concurrency := 2 } }
    let view : TableView := ⟨"sizes", [{ name := "size" }, { name := "unit" }], none, rows⟩
    let tables := ["sizes", "sizes"]
    scan.settings.validate = .ok () ∧ scan.source.Shows scan.settings.limit view
      ∧ view.fitting ≠ [] ∧ ∃ outcome outcome', scan.Returns tables (.ok outcome)
      ∧ outcome.canceled = false
      ∧ List.Forall₂ (fun _ report => report.rows = 2 ∧ report.skipped = 1) [0, 1]
        (outcome.report.tables.filter (·.table == "sizes"))
      ∧ { scan with source := scan.source.limited }.Returns tables (.ok outcome)
      ∧ { scan with source := sizes rows' }.Returns tables (.ok outcome')
      ∧ List.Forall₂ (fun report report' => report'.columns[1]? = report.columns[1]?)
        (outcome.report.tables.filter (·.table == "sizes"))
        (outcome'.report.tables.filter (·.table == "sizes")) := by
  intro rows rows' scan view tables
  have accepted : scan.settings.validate = .ok () := rfl
  have shown : scan.source.Shows scan.settings.limit view :=
    ⟨rfl, List.cons_ne_nil _ _, .inr ⟨rfl, _, rfl⟩, _, rfl, rfl⟩
  have shown' : (sizes rows').Shows scan.settings.limit (view.withRows rows') :=
    ⟨rfl, List.cons_ne_nil _ _, .inr ⟨rfl, _, rfl⟩, _, rfl, rfl⟩
  have fits : view.fitting ≠ [] := by decide
  obtain ⟨outcome, h, completed, -⟩ := exists_completed scan tables accepted
    (List.cons_ne_nil _ _) (neverCancels_sizes rows) fun _ => rfl
  obtain ⟨outcome', h', completed', -⟩ := exists_completed { scan with source := sizes rows' }
    tables accepted (List.cons_ne_nil _ _) (neverCancels_sizes rows') fun _ => rfl
  obtain ⟨hreports, -, hother, hlimited⟩ := isColumnwise_of_returns accepted h completed shown fits
  have hunits := hother _ rows' outcome' shown' (by decide) h' completed'
  refine ⟨accepted, shown, fits, outcome, outcome', h, completed, ?_, (hlimited _).mpr h, h', ?_⟩
  · exact hreports.imp fun _ _ hreport => ⟨hreport.1.rows, hreport.1.skipped⟩
  · exact hunits.imp fun _ _ hunit => hunit.1 1 (by decide)

end Scan

end TableProfile
