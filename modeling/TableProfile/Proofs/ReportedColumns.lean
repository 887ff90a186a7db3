import TableProfile.Json.Tree
import TableProfile.Proofs.FiniteSummaries
import TableProfile.Proofs.Outcomes
import TableProfile.Proofs.RowStreams

/-!
# Which cells a column reports

The columns of a report are those of the table, in order, and each of them
reports what its own cells come to: the cells that stand at its place in the
rows that were taken from the source and are of the right length
(`Scan.exists_of_mem_tables`). Rows of another length, the draws, the turns of
other tables and the questions whether to go on make no difference.
-/

namespace TableProfile

/-! ## Rows -/

/-- The value of an answer. -/
def Answer.value? {α : Type} : Answer α → Option α
  | value a => some a
  | failure _ => none
  | breakdown => none

/-- **The rows that are taken**: as many as are looked for. -/
def Rows.taken (limit : Option Nat) (rows : Rows) : List Row :=
  (match limit with
    | none => rows
    | some n => rows.take n).filterMap Answer.value?

theorem Rows.taken_eq (limit : Option Nat) (rows : Rows) :
    rows.taken limit = (rows.upTo limit).filterMap Answer.value? := by
  cases limit <;> rfl

/-- The next row is taken, where the limit is not reached. -/
theorem Rows.taken_cons {limit : Option Nat} {read : Nat} (h : ¬ limit.any (· ≤ read) = true)
    (row : Row) (rest : Rows) :
    Rows.taken (limit.map (· - read)) (.value row :: rest)
      = row :: rest.taken (limit.map (· - (read + 1))) := by
  rw [taken_eq, taken_eq, upTo_cons h]
  rfl

/-- **The cells at a place** in the rows of the right length. -/
def cellsAt (width place : Nat) (rows : List Row) : List String :=
  (rows.filter (·.length == width)).filterMap (·[place]?)

/-- **The cells of a column** of a table, as far as they are looked at. -/
def Source.cells (source : Source) (limit : Option Nat) (table : String) (place : Nat) :
    List String :=
  match source.columns table, source.rows table limit with
  | .value columns, .value rows => cellsAt columns.length place (rows.taken limit)
  | _, _ => []

namespace TableState

/-- Looks at rows one after the other. -/
def lookAll (t : TableState) (rows : List Row) : TableState :=
  rows.foldl (fun t row => t.count.look row) t

variable {t : TableState}

theorem length_profiles_look (t : TableState) (row : Row) :
    (t.look row).profiles.length = t.profiles.length := by
  unfold look
  split
  · rename_i hlength
    rw [List.length_zipWith, hlength, Nat.min_self]
  · rfl

/-- To look at a row is to have read one more. -/
theorem read_count_look (t : TableState) (row : Row) :
    (t.count.look row).read = t.read + 1 := by
  unfold look
  split <;> rfl

theorem cellsAt_singleton (width place : Nat) (row : Row) :
    cellsAt width place [row] = if row.length = width then row[place]?.toList else [] := by
  unfold cellsAt
  split
  · rename_i hlength
    have hfilter : [row].filter (·.length == width) = [row] :=
      List.filter_cons_of_pos (beq_iff_eq.mpr hlength)
    rw [hfilter]
    cases hcell : row[place]? with
    | none => exact List.filterMap_cons_none hcell
    | some cell => exact List.filterMap_cons_some hcell
  · rename_i hlength
    have hfilter : [row].filter (·.length == width) = [] :=
      List.filter_cons_of_neg (by rwa [beq_iff_eq])
    rw [hfilter]
    rfl

theorem cellsAt_cons (width place : Nat) (row : Row) (rows : List Row) :
    cellsAt width place (row :: rows) = cellsAt width place [row] ++ cellsAt width place rows := by
  unfold cellsAt
  rw [← List.filterMap_append, ← List.filter_append]
  rfl

/-- **A row shows each column its own cell**, if it has the right length. -/
theorem getElem?_profiles_look (t : TableState) (row : Row) (i : Nat) :
    (t.look row).profiles[i]?
      = t.profiles[i]?.map (·.observeAll (cellsAt t.profiles.length i [row])) := by
  rw [cellsAt_singleton]
  unfold look
  split
  · rename_i hlength
    show (List.zipWith ColumnProfile.observe t.profiles row)[i]? = _
    rw [List.getElem?_zipWith]
    rcases Nat.lt_or_ge i t.profiles.length with hi | hi
    · rw [List.getElem?_eq_getElem hi, List.getElem?_eq_getElem (hlength ▸ hi)]
      rfl
    · rw [List.getElem?_eq_none hi]
      rfl
  · exact Option.map_id_apply.symm

/-- **Rows show each column its own cells.** -/
theorem getElem?_profiles_lookAll (t : TableState) (rows : List Row) (i : Nat) :
    (t.lookAll rows).profiles[i]?
      = t.profiles[i]?.map (·.observeAll (cellsAt t.profiles.length i rows)) := by
  induction rows generalizing t with
  | nil => exact Option.map_id_apply.symm
  | cons row rest ih =>
    have hrest := ih (t.count.look row)
    rw [length_profiles_look, getElem?_profiles_look, Option.map_map] at hrest
    refine hrest.trans (congrArg (t.profiles[i]?.map ·) (funext fun p => ?_))
    rw [cellsAt_cons _ _ row rest, ColumnProfile.observeAll_append]
    rfl

theorem forall₂_of_mapM_eq_ok {α β ε : Type} {f : α → Except ε β} {l : List α} {l' : List β}
    (h : l.mapM f = .ok l') : List.Forall₂ (fun a b => f a = .ok b) l l' := by
  induction l generalizing l' with
  | nil =>
    obtain rfl := Except.ok.inj h
    exact .nil
  | cons a rest ih =>
    rw [List.mapM_cons] at h
    cases ha : f a with
    | error e =>
      rw [ha] at h
      cases h
    | ok b =>
      rw [ha] at h
      cases hrest : rest.mapM f with
      | error e =>
        rw [hrest] at h
        cases h
      | ok rest' =>
        rw [hrest] at h
        obtain rfl := Except.ok.inj h
        exact .cons ha (ih hrest)

/-- **A table begins with its columns**, each at its place. -/
theorem of_start {settings : Settings} {seed : Nat → UInt64} {columns : List ColumnHeader}
    (h : start settings seed columns = .ok t) :
    t.read = 0 ∧ t.profiles.length = columns.length
      ∧ ∀ i p, t.profiles[i]? = some p → ∃ column : ColumnHeader, columns[i]? = some column
        ∧ ColumnProfile.start column.name column.declared settings.profile (seed i) = .ok p := by
  rw [start_eq_map] at h
  obtain ⟨profiles, hprofiles, rfl⟩ := Json.map_eq_ok.mp h
  have hall := forall₂_of_mapM_eq_ok hprofiles
  refine ⟨rfl, hall.length_eq.symm.trans List.length_zipIdx, fun i p hp => ?_⟩
  obtain ⟨hi, rfl⟩ := List.getElem?_eq_some_iff.mp hp
  have hi' : i < columns.zipIdx.length := hall.length_eq ▸ hi
  have hstart := hall.get hi' hi
  rw [List.get_eq_getElem, List.getElem_zipIdx, Nat.zero_add] at hstart
  exact ⟨_, List.getElem?_eq_getElem (List.length_zipIdx ▸ hi'), hstart⟩

/-- A table begins with all of its limit left. -/
theorem map_sub_read_of_start {settings : Settings} {seed : Nat → UInt64}
    {columns : List ColumnHeader} (h : start settings seed columns = .ok t)
    (limit : Option Nat) : limit.map (· - t.read) = limit := by
  rw [(of_start h).1]
  exact Option.map_id_apply

end TableState

/-! ## Tables -/

namespace Activity

variable {table : String} {settings : Settings} {rowCount : Option Int}

/-- **Rows that come to a report** are looked at one after the other. -/
theorem report_of_throughRows {t : TableState} {rows : Rows} {report : Report.Table}
    (h : (throughRows table settings rowCount t rows).uninterrupted.report? = some report) :
    (t.lookAll (rows.taken (settings.limit.map (· - t.read)))).report table settings rowCount
      = some report := by
  induction rows generalizing t with
  | nil =>
    rw [Rows.taken_eq, Rows.upTo_nil]
    unfold throughRows at h
    split at h
    · exact h
    · exact h
  | cons answer rest ih =>
    unfold throughRows at h
    split at h
    · rename_i hreached
      rw [Rows.taken_eq, Rows.upTo_of_reached hreached]
      exact h
    · rename_i hgoesOn
      cases answer with
      | breakdown => cases h
      | failure e => cases h
      | value row =>
        have hrest : (throughRows table settings rowCount (t.count.look row)
            rest).uninterrupted.report? = some report := by
          change (if t.count.read % settings.pollInterval = 0 then _ else _ :
            Activity).uninterrupted.report? = _ at h
          split at h
          · exact h
          · exact h
        have hreport := ih hrest
        rw [TableState.read_count_look] at hreport
        rw [Rows.taken_cons hgoesOn]
        exact hreport

variable {source : Source} {seed : Nat → UInt64}

/-- Rows that could be opened come to what is reported of them. -/
theorem exists_of_openRows {columns : List ColumnHeader} {report : Report.Table}
    (h : (openRows source settings seed table columns rowCount).uninterrupted.report?
      = some report) :
    ∃ rows t, source.rows table settings.limit = .value rows
      ∧ TableState.start settings seed columns = .ok t
      ∧ (t.lookAll (rows.taken settings.limit)).report table settings rowCount = some report := by
  unfold openRows at h
  cases hstart : TableState.start settings seed columns with
  | error e =>
    rw [hstart] at h
    cases h
  | ok t =>
    rw [hstart] at h
    dsimp only at h
    rw [uninterrupted_calls] at h
    cases hrows : source.rows table settings.limit with
    | breakdown =>
      rw [hrows] at h
      cases h
    | failure e =>
      rw [hrows] at h
      cases h
    | value rows =>
      rw [hrows] at h
      have hreport := report_of_throughRows h
      rw [TableState.map_sub_read_of_start hstart] at hreport
      exact ⟨rows, t, rfl, rfl, hreport⟩

/-- **A table that is reported** could be opened, and what is reported is what
its rows come to. -/
theorem exists_of_ofTable {report : Report.Table}
    (h : (ofTable source settings seed table).uninterrupted.report? = some report) :
    ∃ columns rows rowCount t, source.columns table = .value columns
      ∧ source.rows table settings.limit = .value rows
      ∧ TableState.start settings seed columns = .ok t
      ∧ (t.lookAll (rows.taken settings.limit)).report table settings rowCount = some report := by
  change (lookUpColumns source settings seed table).uninterrupted.report? = _ at h
  unfold lookUpColumns at h
  rw [uninterrupted_calls] at h
  cases hcolumns : source.columns table with
  | breakdown =>
    rw [hcolumns] at h
    cases h
  | failure e =>
    rw [hcolumns] at h
    cases h
  | value columns =>
    rw [hcolumns] at h
    dsimp only at h
    split at h
    · cases h
    · unfold countRows at h
      rw [uninterrupted_calls] at h
      cases hcount : source.rowCount table with
      | breakdown =>
        rw [hcount] at h
        cases h
      | failure e =>
        rw [hcount] at h
        dsimp only at h
        split at h
        · cases h
        · obtain ⟨rows, t, hopened⟩ := exists_of_openRows h
          exact ⟨columns, rows, none, t, rfl, hopened⟩
      | value rowCount =>
        rw [hcount] at h
        obtain ⟨rows, t, hopened⟩ := exists_of_openRows h
        exact ⟨columns, rows, rowCount, t, rfl, hopened⟩

end Activity

/-- **What a column reports of cells** that it looked at from the first to the
last, whatever its name and its seed. -/
def Settings.Reports (settings : Settings) (cells : List String) (column : Report.Column) : Prop :=
  ∃ (name : String) (declared : Option String) (seed : UInt64) (rowCount : Option Int)
    (p : ColumnProfile), ColumnProfile.start name declared settings.profile seed = .ok p
      ∧ column = (p.observeAll cells).finish.report rowCount settings.minCellCount

namespace Scan

variable {scan : Scan} {tables : List String} {outcome : Outcome}

/-- **Each column of a report reports its own cells**, as far as the table was
looked at. -/
theorem reports_of_returns (h : scan.Returns tables (.ok outcome)) {t : Report.Table}
    (ht : t ∈ outcome.report.tables) {i : Nat} {c : Report.Column} (hc : t.columns[i]? = some c) :
    scan.settings.Reports (scan.source.cells scan.settings.limit t.table i) c := by
  obtain ⟨kept, hsub, htables, -⟩ := tables_of_ends (ends_of_returns h)
  rw [htables] at ht
  obtain ⟨⟨position, _⟩, hkept, rfl⟩ := List.mem_map.mp ht
  obtain ⟨table, -, hreport⟩ := scan.mem_reports.mp (hsub.subset hkept)
  obtain ⟨columns, rows, rowCount, start, hcolumns, hrows, hstart, hreport⟩ :=
    Activity.exists_of_ofTable hreport
  obtain ⟨-, hlength, hprofiles⟩ := TableState.of_start hstart
  unfold TableState.report at hreport
  split at hreport
  · cases hreport
  · obtain rfl := Option.some.inj hreport
    obtain ⟨p, hp, rfl⟩ := Option.map_eq_some_iff.mp (List.getElem?_map.symm.trans hc)
    rw [TableState.getElem?_profiles_lookAll] at hp
    obtain ⟨p', hp', rfl⟩ := Option.map_eq_some_iff.mp hp
    obtain ⟨column, -, hcolumn⟩ := hprofiles i p' hp'
    have hcells : scan.source.cells scan.settings.limit table i
        = cellsAt start.profiles.length i (rows.taken scan.settings.limit) := by
      unfold Source.cells
      rw [hcolumns, hrows, hlength]
    exact ⟨_, _, _, rowCount, p', hcolumn, by rw [hcells]⟩

end Scan

end TableProfile
