import TableProfile.Proofs.Codecs
import TableProfile.Report.Interchange

/-!
# Reports come back

The text of a report is read as the report in which each float is what it comes
back as by itself, as long as the whole numbers fit into the words that hold
them (`recode_reportType`). Any text may stand in it, and any number of tables,
columns, values and failures. If each float comes back as it is, so does the
report (`Report.read_write_eq_ok`).
-/

namespace TableProfile

open Json Number

namespace Report

/-! ## What a report holds -/

/-- The whole numbers of a column fit into their words. -/
structure Column.Fits (c : Column) : Prop where
  /-- The length of the longest cell. -/
  longest : c.longest < UInt64.size
  /-- The number of rows of the table. -/
  knownRows : ∀ n ∈ c.knownRows, IsInt64 n
  /-- The number of rows looked at. -/
  rows : c.rows < UInt64.size
  /-- The number of distinct values. -/
  distinct : c.distinct < UInt64.size
  /-- How often each value comes. -/
  values : ∀ tally ∈ c.values, tally.count < UInt64.size

/-- The whole numbers of a table fit into their words. -/
structure Table.Fits (t : Table) : Prop where
  /-- The number of rows of the table. -/
  knownRows : ∀ n ∈ t.knownRows, IsInt64 n
  /-- The number of rows looked at. -/
  rows : t.rows < UInt64.size
  /-- The number of rows passed over. -/
  skipped : t.skipped < UInt64.size
  /-- The numbers of each column. -/
  columns : ∀ c ∈ t.columns, c.Fits

/-- **The whole numbers of a report fit into their words.** -/
def Fits (r : Report) : Prop :=
  ∀ t ∈ r.tables, t.Fits

/-- The floats of the numbers of a column. -/
def Numbers.floats (n : Numbers) : List Float :=
  [n.minimum, n.maximum, n.mean, n.deviation, n.lowerQuartile, n.median, n.upperQuartile]

/-- The floats of a column. -/
def Column.floats (c : Column) : List Float :=
  c.blankShare :: c.distinctShare :: (c.numbers.map Numbers.floats).getD []

/-- The floats of a table. -/
def Table.floats (t : Table) : List Float :=
  t.columns.flatMap Column.floats

/-- **The floats of a report.** -/
def floats (r : Report) : List Float :=
  r.tables.flatMap Table.floats

/-! ## A report with other floats -/

variable (f : Float → Float)

/-- The numbers of a column with their floats changed. -/
def Numbers.mapFloats (n : Numbers) : Numbers :=
  { n with
    minimum := f n.minimum
    maximum := f n.maximum
    mean := f n.mean
    deviation := f n.deviation
    lowerQuartile := f n.lowerQuartile
    median := f n.median
    upperQuartile := f n.upperQuartile }

/-- A column with its floats changed. -/
def Column.mapFloats (c : Column) : Column :=
  { c with
    blankShare := f c.blankShare
    distinctShare := f c.distinctShare
    numbers := c.numbers.map (Numbers.mapFloats f) }

/-- A table with its floats changed. -/
def Table.mapFloats (t : Table) : Table :=
  { t with columns := t.columns.map (Column.mapFloats f) }

/-- **A report with its floats changed.** -/
def mapFloats (r : Report) : Report :=
  { r with tables := r.tables.map (Table.mapFloats f) }

theorem Numbers.mapFloats_id : Numbers.mapFloats id = id :=
  rfl

theorem Column.mapFloats_id : Column.mapFloats id = id := by
  funext c
  unfold Column.mapFloats
  rw [Numbers.mapFloats_id, Option.map_id]
  rfl

theorem Table.mapFloats_id : Table.mapFloats id = id := by
  funext t
  unfold Table.mapFloats
  rw [Column.mapFloats_id, List.map_id]
  rfl

theorem mapFloats_id : mapFloats id = id := by
  funext r
  unfold mapFloats
  rw [Table.mapFloats_id, List.map_id]
  rfl

end Report

/-! ## The parts of a report -/

section Parts

variable {f : Float → Float}

theorem recode_numericType {n : Report.Numbers}
    (floats : ∀ x ∈ n.floats, Codec.number.recode x = .ok (f x)) :
    numericType.codec.recode n = .ok (n.mapFloats f) := by
  unfold Report.Numbers.floats at floats
  simp only [List.forall_mem_cons] at floats
  obtain ⟨hmin, hmax, hmean, hdeviation, hlower, hmedian, hupper, -⟩ := floats
  have hfields : List.Forall₂ (·.ComesBack n ·) numericType.fields _ :=
    .cons (Field.comesBack_of hmin _ _) <|
    .cons (Field.comesBack_of hmax _ _) <|
    .cons (Field.comesBack_of hmean _ _) <|
    .cons (Field.comesBack_of hdeviation _ _) <|
    .cons (Field.comesBack_of hlower _ _) <|
    .cons (Field.comesBack_of hmedian _ _) <|
    .cons (Field.comesBack_of hupper _ _) <|
    .cons (Field.comesBack_of (Codec.recode_flag _) _ _) .nil
  exact RecordType.recode_of_comesBack (by decide) hfields

theorem recode_tallyType {t : Tally} (fits : t.count < UInt64.size) :
    tallyType.codec.recode t = .ok t := by
  have hfields : List.Forall₂ (·.ComesBack t ·) tallyType.fields _ :=
    .cons (Field.comesBack_of (Codec.recode_text _) _ _) <|
    .cons (Field.comesBack_of (Codec.recode_nat64 fits) _ _) .nil
  exact RecordType.recode_of_comesBack (by decide) hfields

theorem recode_knownRows {rows : Option Int} (fits : ∀ n ∈ rows, IsInt64 n) :
    (Codec.optional .int64).recode rows = .ok rows := by
  rw [Codec.recode_optional (fun _ h => Tree.noConfusion h)
    fun n hn => Codec.recode_int64 (fits n hn)]
  exact congrArg Except.ok Option.map_id'

theorem recode_columnType {c : Report.Column} (fits : c.Fits)
    (floats : ∀ x ∈ c.floats, Codec.number.recode x = .ok (f x)) :
    columnType.codec.recode c = .ok (c.mapFloats f) := by
  obtain ⟨hblank, hdistinct, hinner⟩ : Codec.number.recode c.blankShare = .ok (f c.blankShare)
      ∧ Codec.number.recode c.distinctShare = .ok (f c.distinctShare)
      ∧ ∀ x ∈ (c.numbers.map Report.Numbers.floats).getD [], Codec.number.recode x = .ok (f x) := by
    unfold Report.Column.floats at floats
    simpa only [List.forall_mem_cons] using floats
  have hvalues : (Codec.list tallyType.codec).recode c.values = .ok c.values := by
    rw [Codec.recode_list fun t ht => recode_tallyType (fits.values t ht)]
    exact congrArg Except.ok (List.map_id _)
  have hnumbers : (Codec.optional numericType.codec).recode c.numbers
      = .ok (c.numbers.map (Report.Numbers.mapFloats f)) := by
    refine Codec.recode_optional (fun _ h => Tree.noConfusion h) fun n hn => ?_
    rw [Option.mem_def.mp hn] at hinner
    exact recode_numericType hinner
  have hfields : List.Forall₂ (·.ComesBack c ·) columnType.fields _ :=
    .cons (Field.comesBack_of (Codec.recode_text _) _ _) <|
    .cons (Field.comesBack_of (Codec.recode_text _) _ _) <|
    .cons (Field.comesBack_of (Codec.recode_nat64 fits.longest) _ _) <|
    .cons (Field.comesBack_optional (recode_knownRows fits.knownRows) _ _) <|
    .cons (Field.comesBack_of (Codec.recode_nat64 fits.rows) _ _) <|
    .cons (Field.comesBack_of hblank _ _) <|
    .cons (Field.comesBack_of (Codec.recode_nat64 fits.distinct) _ _) <|
    .cons (Field.comesBack_of (Codec.recode_flag _) _ _) <|
    .cons (Field.comesBack_of hdistinct _ _) <|
    .cons (Field.comesBack_of (Codec.recode_flag _) _ _) <|
    .cons (Field.comesBack_of (Codec.recode_flag _) _ _) <|
    .cons (Field.comesBack_of hvalues _ _) <|
    .cons (Field.comesBack_of (Codec.recode_flag _) _ _) <|
    .cons (Field.comesBack_optional hnumbers _ _) .nil
  exact RecordType.recode_of_comesBack (by decide) hfields

theorem recode_tableType {t : Report.Table} (fits : t.Fits)
    (floats : ∀ x ∈ t.floats, Codec.number.recode x = .ok (f x)) :
    tableType.codec.recode t = .ok (t.mapFloats f) := by
  have hcolumns : (Codec.list columnType.codec).recode t.columns
      = .ok (t.columns.map (Report.Column.mapFloats f)) :=
    Codec.recode_list fun c hc => recode_columnType (fits.columns c hc) fun x hx =>
      floats x (List.mem_flatMap_of_mem hc hx)
  have hfields : List.Forall₂ (·.ComesBack t ·) tableType.fields _ :=
    .cons (Field.comesBack_of (Codec.recode_text _) _ _) <|
    .cons (Field.comesBack_optional (recode_knownRows fits.knownRows) _ _) <|
    .cons (Field.comesBack_of (Codec.recode_nat64 fits.rows) _ _) <|
    .cons (Field.comesBack_of (Codec.recode_nat64 fits.skipped) _ _) <|
    .cons (Field.comesBack_of hcolumns _ _) .nil
  exact RecordType.recode_of_comesBack (by decide) hfields

theorem recode_failureType (e : Report.Failure) : failureType.codec.recode e = .ok e := by
  have hfields : List.Forall₂ (·.ComesBack e ·) failureType.fields _ :=
    .cons (Field.comesBack_of (Codec.recode_text _) _ _) <|
    .cons (Field.comesBack_of (Codec.recode_text _) _ _) .nil
  exact RecordType.recode_of_comesBack (by decide) hfields

/-- **A report comes back with its floats as they come back** by themselves. -/
theorem recode_reportType {r : Report} (fits : r.Fits)
    (floats : ∀ x ∈ r.floats, Codec.number.recode x = .ok (f x)) :
    reportType.codec.recode r = .ok (r.mapFloats f) := by
  have htables : (Codec.list tableType.codec).recode r.tables
      = .ok (r.tables.map (Report.Table.mapFloats f)) :=
    Codec.recode_list fun t ht => recode_tableType (fits t ht) fun x hx =>
      floats x (List.mem_flatMap_of_mem ht hx)
  have hfailures : (Codec.list failureType.codec).recode r.failures = .ok r.failures := by
    rw [Codec.recode_list fun e _ => recode_failureType e]
    exact congrArg Except.ok (List.map_id _)
  have hfields : List.Forall₂ (·.ComesBack r ·) reportType.fields _ :=
    .cons (Field.comesBack_of htables _ _) <|
    .cons (Field.comesBack_of hfailures _ _) .nil
  exact RecordType.recode_of_comesBack (by decide) hfields

end Parts

namespace Report

/-- **A report that is written is read as it is**, if its whole numbers fit
into their words and each of its floats is finite and is itself read as it is
written. -/
theorem read_write_eq_ok (r : Report) (fits : r.Fits)
    (floats : ∀ x ∈ r.floats, Binary64.isFinite x = true
      ∧ Codec.number.read (Codec.number.write x) = .ok x) :
    Report.read r.write = .ok r := by
  have hrecode := recode_reportType (f := id) fits fun x hx =>
    (Codec.read_write Codec.number x).symm.trans (floats x hx).2
  rw [mapFloats_id] at hrecode
  exact (Codec.read_write _ _).trans hrecode

/-- A report with a table, a column of numbers and a failure. -/
theorem read_write_eq_ok_numbers :
    let numbers : Numbers := ⟨-1.5, 1e300, 0.1, 5e-324, -0.0, 0.25, 12345.678, true⟩
    let column : Column := {
      Column.blank with
      name := "q\"uote\\", rows := 3, distinct := 2, distinctShare := 1, blankShare := 0.5
      values := [⟨"tab\tand bell\x07", 2⟩, ⟨"", 1⟩], numbers := some numbers }
    let r : Report := {
      tables := [⟨"ähm", some (-1), 3, 0, [column, Column.blank]⟩]
      failures := [⟨"other", "not found"⟩] }
    r.Fits ∧ (∀ x ∈ r.floats, Binary64.isFinite x = true
        ∧ Codec.number.read (Codec.number.write x) = .ok x)
      ∧ Report.read r.write = .ok r := by
  intro numbers column r
  have fits : r.Fits := by
    intro t ht
    obtain rfl := List.mem_singleton.mp ht
    refine ⟨by decide, by decide, by decide, fun c hc => ?_⟩
    have hc : c = column ∨ c = Column.blank := by
      rwa [List.mem_cons, List.mem_singleton] at hc
    rcases hc with rfl | rfl
    · exact ⟨by decide, by decide, by decide, by decide, by decide⟩
    · exact ⟨by decide, by decide, by decide, by decide, by decide⟩
  have hrecode : ∀ x ∈ r.floats, Binary64.isFinite x = true
      ∧ Codec.number.recode x = .ok x := by
    decide +kernel
  have floats : ∀ x ∈ r.floats, Binary64.isFinite x = true
      ∧ Codec.number.read (Codec.number.write x) = .ok x :=
    fun x hx => ⟨(hrecode x hx).1, (Codec.read_write _ x).trans (hrecode x hx).2⟩
  exact ⟨fits, floats, read_write_eq_ok r fits floats⟩

end Report

end TableProfile
