import TableProfile.Proofs.Completion
import TableProfile.Proofs.FloatText
import TableProfile.Proofs.ReportText
import TableProfile.Proofs.ReportedColumns

/-!
# Which reports can be read back

JSON has no text for a float that is not finite: the writer puts no value in
its place, and the reader refuses no value where a float is expected. So a
report is lost with any of its floats, and only with them: it can be read back
if and only if each of its floats is finite (`Report.exists_read_write_iff`).

What is left is which floats of a scan are finite. The shares of a column are
quotients of counts, and the extremes are numbers of the column; both always
are. The mean, the deviation and the quartiles are computed, and finite for
numbers that are not too large, but for one case: the deviation of a single
number is zero divided by zero (`Scan.isFinite_of_returns`). Reports of scans
that meet this case are written and cannot be read back
(`Scan.exists_read_iff`).
-/

namespace TableProfile

open Number Binary64 Json

/-! ## What is lost -/

namespace Json

/-- A value that does not come back. -/
def Codec.IsLost {α : Type} (codec : Codec α) (a : α) : Prop :=
  ∃ fault, codec.recode a = .error fault

/-- A field that does not come back, whatever record it is put into. -/
def Field.IsLost {α : Type} (field : Field α) (a : α) : Prop :=
  ∀ b, ∃ fault, field.decode b (field.encode a).tree = .error fault

section Lost

variable {α β : Type} {codec : Codec β} {get : α → β} {a : α}

theorem Field.isLost_of (h : codec.IsLost (get a)) (name : String) (put : α → β → α) :
    (Field.of name codec get put).IsLost a := by
  obtain ⟨fault, hfault⟩ := h
  intro b
  refine ⟨fault, ?_⟩
  show (codec.recode (get a)).map (put b) = _
  rw [hfault]
  rfl

theorem Field.isLost_optional (h : codec.IsLost (get a)) (name : String) (put : α → β → α) :
    (Field.optional name codec get put).IsLost a :=
  Field.isLost_of h name put

/-- A value that is there is lost if it would be lost without the choice. -/
theorem Codec.isLost_optional {x : β} (there : (codec.encode x).tree ≠ .null)
    (h : codec.IsLost x) : (Codec.optional codec).IsLost (some x) := by
  obtain ⟨fault, hfault⟩ := h
  refine ⟨fault, ?_⟩
  rw [Codec.recode_optional_some there, hfault]
  rfl

/-- **A list is lost with each of its items.** -/
theorem Codec.isLost_list {items : List β} {x : β} (hx : x ∈ items) (h : codec.IsLost x) :
    (Codec.list codec).IsLost items := by
  unfold IsLost
  rw [Codec.recode_list_eq_mapM]
  induction items with
  | nil => cases hx
  | cons y rest ih =>
    rw [List.mapM_cons]
    cases hy : codec.recode y with
    | error fault => exact ⟨fault, rfl⟩
    | ok y' =>
      have hrest : x ∈ rest := by
        refine (List.mem_cons.mp hx).resolve_left fun heq => ?_
        obtain ⟨fault, hfault⟩ := h
        rw [heq, hy] at hfault
        cases hfault
      obtain ⟨fault, hfault⟩ := ih hrest
      refine ⟨fault, ?_⟩
      rw [hfault]
      rfl

/-- **A record is lost with each of its fields.** -/
theorem RecordType.isLost {type : RecordType α} (distinct : (type.fields.map (·.name)).Nodup)
    {field : Field α} (hfield : field ∈ type.fields) (h : field.IsLost a) :
    type.codec.IsLost a := by
  unfold Codec.IsLost
  rw [RecordType.recode_eq distinct]
  generalize type.blank = b, type.fields = fields at hfield
  induction fields generalizing b with
  | nil => cases hfield
  | cons first rest ih =>
    rw [List.foldlM_cons]
    cases hfirst : first.decode b (first.encode a).tree with
    | error fault => exact ⟨fault, rfl⟩
    | ok b' =>
      refine ih b' ((List.mem_cons.mp hfield).resolve_left fun heq => ?_)
      obtain ⟨fault, hfault⟩ := h b
      rw [heq, hfirst] at hfault
      cases hfault

end Lost

end Json

/-! ## Reports -/

namespace Report

instance (c : Column) : Decidable c.Fits :=
  decidable_of_iff (c.longest < UInt64.size ∧ (∀ n ∈ c.knownRows, IsInt64 n)
      ∧ c.rows < UInt64.size ∧ c.distinct < UInt64.size
      ∧ ∀ tally ∈ c.values, tally.count < UInt64.size)
    ⟨fun ⟨longest, knownRows, rows, distinct, values⟩ =>
        ⟨longest, knownRows, rows, distinct, values⟩,
      fun h => ⟨h.longest, h.knownRows, h.rows, h.distinct, h.values⟩⟩

instance (t : Table) : Decidable t.Fits :=
  decidable_of_iff ((∀ n ∈ t.knownRows, IsInt64 n) ∧ t.rows < UInt64.size
      ∧ t.skipped < UInt64.size ∧ ∀ c ∈ t.columns, c.Fits)
    ⟨fun ⟨knownRows, rows, skipped, columns⟩ => ⟨knownRows, rows, skipped, columns⟩,
      fun h => ⟨h.knownRows, h.rows, h.skipped, h.columns⟩⟩

variable {x : Float}

theorem isLost_numericType {n : Numbers} (hx : x ∈ n.floats) (h : isFinite x = false) :
    numericType.codec.IsLost n := by
  have hlost : Codec.number.IsLost x := ⟨_, Codec.recode_number_of_not_isFinite h⟩
  have hfield : ∀ {i} {field : Json.Field Numbers}, numericType.fields[i]? = some field →
      field.IsLost n → numericType.codec.IsLost n := fun hi hfield =>
    RecordType.isLost (by decide) (List.mem_of_getElem? hi) hfield
  unfold Numbers.floats at hx
  simp only [List.mem_cons, List.not_mem_nil, or_false] at hx
  rcases hx with rfl | rfl | rfl | rfl | rfl | rfl | rfl
  · exact hfield (i := 0) rfl (Field.isLost_of hlost _ _)
  · exact hfield (i := 1) rfl (Field.isLost_of hlost _ _)
  · exact hfield (i := 2) rfl (Field.isLost_of hlost _ _)
  · exact hfield (i := 3) rfl (Field.isLost_of hlost _ _)
  · exact hfield (i := 4) rfl (Field.isLost_of hlost _ _)
  · exact hfield (i := 5) rfl (Field.isLost_of hlost _ _)
  · exact hfield (i := 6) rfl (Field.isLost_of hlost _ _)

theorem isLost_columnType {c : Column} (hx : x ∈ c.floats) (h : isFinite x = false) :
    columnType.codec.IsLost c := by
  have hlost : Codec.number.IsLost x := ⟨_, Codec.recode_number_of_not_isFinite h⟩
  have hfield : ∀ {i} {field : Json.Field Column}, columnType.fields[i]? = some field →
      field.IsLost c → columnType.codec.IsLost c := fun hi hfield =>
    RecordType.isLost (by decide) (List.mem_of_getElem? hi) hfield
  rcases List.mem_cons.mp hx with rfl | hx
  · exact hfield (i := 5) rfl (Field.isLost_of hlost _ _)
  · rcases List.mem_cons.mp hx with rfl | hx
    · exact hfield (i := 8) rfl (Field.isLost_of hlost _ _)
    · cases hnumbers : c.numbers with
      | none =>
        rw [hnumbers] at hx
        cases hx
      | some n =>
        rw [hnumbers] at hx
        have hoptional : (Codec.optional numericType.codec).IsLost c.numbers := by
          rw [hnumbers]
          exact Codec.isLost_optional (fun heq => Tree.noConfusion heq) (isLost_numericType hx h)
        exact hfield (i := 13) rfl (Field.isLost_optional hoptional _ _)

theorem isLost_reportType {r : Report} (hx : x ∈ r.floats) (h : isFinite x = false) :
    reportType.codec.IsLost r := by
  obtain ⟨t, ht, hx⟩ := List.mem_flatMap.mp hx
  obtain ⟨c, hc, hx⟩ := List.mem_flatMap.mp hx
  have htable : tableType.codec.IsLost t :=
    RecordType.isLost (by decide) (List.mem_of_getElem? (i := 4) rfl)
      (Field.isLost_of (Codec.isLost_list hc (isLost_columnType hx h)) _ _)
  exact RecordType.isLost (by decide) (List.mem_of_getElem? (i := 0) rfl)
    (Field.isLost_of (Codec.isLost_list ht htable) _ _)

/-- The floats of a report, column by column. -/
theorem forall_mem_floats_iff {r : Report} {P : Float → Prop} :
    (∀ x ∈ r.floats, P x) ↔ ∀ t ∈ r.tables, ∀ (i : Nat) (c : Column), t.columns[i]? = some c →
      P c.blankShare ∧ P c.distinctShare
        ∧ ∀ n ∈ c.numbers, P n.minimum ∧ P n.maximum ∧ P n.mean ∧ P n.deviation
          ∧ P n.lowerQuartile ∧ P n.median ∧ P n.upperQuartile := by
  have hnumbers : ∀ n : Numbers, (∀ x ∈ n.floats, P x) ↔ P n.minimum ∧ P n.maximum ∧ P n.mean
      ∧ P n.deviation ∧ P n.lowerQuartile ∧ P n.median ∧ P n.upperQuartile := by
    intro n
    unfold Numbers.floats
    simp only [List.forall_mem_cons, List.not_mem_nil, false_imp_iff, forall_const, and_true]
  have hcolumn : ∀ c : Column, (∀ x ∈ c.floats, P x) ↔ P c.blankShare ∧ P c.distinctShare
      ∧ ∀ n ∈ c.numbers, ∀ x ∈ n.floats, P x := by
    intro c
    unfold Column.floats
    rw [List.forall_mem_cons, List.forall_mem_cons]
    cases c.numbers with
    | none => simp
    | some n => simp
  unfold floats Table.floats
  simp only [List.mem_flatMap, forall_exists_index, and_imp]
  constructor
  · intro h t ht i c hc
    have hall := (hcolumn c).mp fun x hx => h x t ht c (List.mem_of_getElem? hc) hx
    exact ⟨hall.1, hall.2.1, fun n hn => (hnumbers n).mp (hall.2.2 n hn)⟩
  · intro h x t ht c hc hx
    obtain ⟨i, hi⟩ := List.getElem?_of_mem hc
    obtain ⟨hblank, hdistinct, hrest⟩ := h t ht i c hi
    exact (hcolumn c).mpr ⟨hblank, hdistinct, fun n hn => (hnumbers n).mpr (hrest n hn)⟩ x hx

/-- **A report can be read back** if and only if each of its floats is finite. -/
theorem exists_read_write_iff {r : Report} (fits : r.Fits) :
    (∃ r', Report.read r.write = .ok r') ↔ ∀ x ∈ r.floats, isFinite x = true := by
  have hread : Report.read r.write = reportType.codec.recode r := Codec.read_write _ _
  rw [hread]
  constructor
  · rintro ⟨r', hr'⟩ x hx
    refine Bool.of_not_eq_false fun h => ?_
    obtain ⟨fault, hfault⟩ := isLost_reportType hx h
    rw [hfault] at hr'
    cases hr'
  · intro finite
    choose! f hf using fun x (hx : isFinite x = true) => Codec.exists_recode_number hx
    exact ⟨_, recode_reportType fits fun x hx => hf x (finite x hx)⟩

end Report

/-! ## Columns -/

namespace ColumnProfile

variable {p : ColumnProfile}

/-- There are no more blank cells than cells. -/
theorem blanks_observeAll_le (fresh : p.IsFresh) (cells : List String) :
    (p.observeAll cells).blanks ≤ (p.observeAll cells).rows := by
  rw [ComesTo.running.blanks_eq cells fresh, ComesTo.running.rows_eq cells fresh]
  exact List.countP_le_length

theorem isFinite_fraction {part whole : Nat} (h : part < UInt64.size) :
    isFinite (fraction part whole) = true := by
  unfold fraction
  split
  · decide
  · rename_i hne
    have hpart : Within 64 (Binary64.ofNat part) := within_ofNat h
    exact (hpart.div (isLarge_ofNat (Nat.pos_of_ne_zero hne)) (by decide)).isFinite (by decide)

end ColumnProfile

namespace Settings.Reports

variable {settings : Settings} {cells : List String} {c : Report.Column}

/-- **The shares of a column are finite.** -/
theorem isFinite_shares (h : settings.Reports cells c) (fits : c.Fits) :
    isFinite c.blankShare = true ∧ isFinite c.distinctShare = true := by
  obtain ⟨name, declared, seed, rowCount, p, hstart, rfl⟩ := h
  have hblanks := ColumnProfile.blanks_observeAll_le (ColumnProfile.isFresh_of_start hstart) cells
  exact ⟨ColumnProfile.isFinite_fraction (hblanks.trans_lt fits.rows),
    ColumnProfile.isFinite_fraction fits.distinct⟩

/-- **What a column says of its numbers** is what a sample of them says, of the
size that was set. -/
theorem exists_sample (h : settings.Reports cells c) {n : Report.Numbers} (hn : n ∈ c.numbers) :
    ∃ r : Reservoir Float, n = r.toNumbers ∧ 0 < r.size
      ∧ r.size = min (ColumnProfile.cellNumbers cells).length settings.samplerSize
      ∧ r.IsSampleOf (ColumnProfile.cellNumbers cells)
      ∧ r.HasSumOf (ColumnProfile.cellNumbers cells) := by
  obtain ⟨name, declared, seed, rowCount, p, hstart, rfl⟩ := h
  obtain ⟨r, hr, hcapacity, hsize, hsample, hsum⟩ := ColumnProfile.exists_of_mem_numbers hstart hn
  refine ⟨r, hr, hsize, ?_, hsample, hsum⟩
  rw [ColumnProfile.settings_of_start hstart] at hcapacity
  unfold Settings.profile at hcapacity
  dsimp only at hcapacity
  split at hcapacity
  · rw [hsample.size, Option.some.inj hcapacity]
  · cases hcapacity

end Settings.Reports

namespace Scan

variable (scan : Scan) (table : String) (place : Nat)

/-- **The numbers of a column** of a table, as far as the table is looked at. -/
def columnNumbers : List Float :=
  ColumnProfile.cellNumbers (scan.source.cells scan.settings.limit table place)

/-- How many of them are in the sample of the column. -/
def sampledNumbers : Nat :=
  min (scan.columnNumbers table place).length scan.settings.samplerSize

variable {scan} {tables : List String} {outcome : Outcome}

/-- **Which floats of a column are finite.** The shares always are, and of the
numbers the extremes. What is computed is finite for moderate numbers, except
for the deviation of a single sample, which never is. -/
theorem isFinite_of_returns (h : scan.Returns tables (.ok outcome)) (fits : outcome.report.Fits)
    {t : Report.Table} (ht : t ∈ outcome.report.tables) {i : Nat} {c : Report.Column}
    (hc : t.columns[i]? = some c) :
    isFinite c.blankShare = true ∧ isFinite c.distinctShare = true
      ∧ ∀ n ∈ c.numbers,
        isFinite n.minimum = true ∧ isFinite n.maximum = true
          ∧ (scan.sampledNumbers t.table i = 1 → isFinite n.deviation = false)
          ∧ ((∀ x ∈ scan.columnNumbers t.table i, IsModerate x) →
            isFinite n.mean = true ∧ isFinite n.lowerQuartile = true
              ∧ isFinite n.median = true ∧ isFinite n.upperQuartile = true
              ∧ (isFinite n.deviation = true ↔ 2 ≤ scan.sampledNumbers t.table i)) := by
  have hreports := reports_of_returns h ht hc
  obtain ⟨hblank, hdistinct⟩ :=
    hreports.isFinite_shares ((fits t ht).columns c (List.mem_of_getElem? hc))
  refine ⟨hblank, hdistinct, fun n hn => ?_⟩
  obtain ⟨r, rfl, hpos, hsize, hsample, hsum⟩ := hreports.exists_sample hn
  have hsampled : scan.sampledNumbers t.table i = r.size := hsize.symm
  have hfinite : ∀ x ∈ scan.columnNumbers t.table i, isFinite x = true :=
    fun x hx => ColumnProfile.isFinite_of_mem_cellNumbers hx
  have hne : scan.columnNumbers t.table i ≠ [] := by
    refine List.length_pos_iff.mp (hpos.trans_le ?_)
    exact hsize.trans_le (Nat.min_le_left _ _)
  rw [hsampled]
  refine ⟨Reservoir.isFinite_minimum hsample hne hfinite,
    Reservoir.isFinite_maximum hsample hne hfinite,
    fun hsingle => Reservoir.isFinite_standardDeviation_of_single (hsingle.trans_lt Nat.one_lt_two),
    fun moderate => ?_⟩
  have hquartile := Reservoir.isFinite_quartile hsample moderate hpos
  exact ⟨Reservoir.isFinite_mean hsample moderate hsum hne, hquartile 1, hquartile 2, hquartile 3,
    Reservoir.isFinite_standardDeviation_iff hsample moderate⟩

/-- **Which reports of a scan can be read back.** A report can if and only if
each of its floats is finite. The shares of its columns always are, and so are
the smallest and the largest number of each column of numbers; the standard
deviation of a column with a single number in its sample never is. If all
numbers of all these columns are moderate, this is all that can go wrong: the
report can be read back if and only if each of the samples has two numbers at
least. -/
theorem exists_read_iff (scan : Scan) (tables : List String) (outcome : Outcome)
    (h : scan.Returns tables (.ok outcome)) (fits : outcome.report.Fits) :
    ((∃ r, Report.read outcome.report.write = .ok r)
        ↔ ∀ x ∈ outcome.report.floats, isFinite x = true)
      ∧ (∀ t ∈ outcome.report.tables, ∀ i c, t.columns[i]? = some c →
        isFinite c.blankShare = true ∧ isFinite c.distinctShare = true
          ∧ ∀ n ∈ c.numbers, isFinite n.minimum = true ∧ isFinite n.maximum = true
            ∧ (scan.sampledNumbers t.table i = 1 → isFinite n.deviation = false))
      ∧ ((∀ t ∈ outcome.report.tables, ∀ i c, t.columns[i]? = some c → c.numbers.isSome = true →
          ∀ x ∈ scan.columnNumbers t.table i, IsModerate x) →
        ((∃ r, Report.read outcome.report.write = .ok r)
          ↔ ∀ t ∈ outcome.report.tables, ∀ i c, t.columns[i]? = some c → c.numbers.isSome = true →
            2 ≤ scan.sampledNumbers t.table i)) := by
  have hread := Report.exists_read_write_iff fits
  refine ⟨hread, fun t ht i c hc => ?_, fun moderate => ?_⟩
  · obtain ⟨hblank, hdistinct, hnumbers⟩ := isFinite_of_returns h fits ht hc
    refine ⟨hblank, hdistinct, fun n hn => ?_⟩
    obtain ⟨hminimum, hmaximum, hsingle, -⟩ := hnumbers n hn
    exact ⟨hminimum, hmaximum, hsingle⟩
  · rw [hread, Report.forall_mem_floats_iff]
    refine forall₂_congr fun t ht => forall₂_congr fun i c => forall_congr' fun hc => ?_
    obtain ⟨hblank, hdistinct, hnumbers⟩ := isFinite_of_returns h fits ht hc
    constructor
    · rintro ⟨-, -, finite⟩ hsome
      obtain ⟨n, hn⟩ := Option.isSome_iff_exists.mp hsome
      obtain ⟨-, -, -, hcomputed⟩ := hnumbers n hn
      obtain ⟨-, -, -, -, hdeviation⟩ := hcomputed (moderate t ht i c hc hsome)
      obtain ⟨-, -, -, hfinite, -⟩ := finite n hn
      exact hdeviation.mp hfinite
    · intro sampled
      refine ⟨hblank, hdistinct, fun n hn => ?_⟩
      have hsome : c.numbers.isSome = true := Option.isSome_iff_exists.mpr ⟨n, hn⟩
      obtain ⟨hminimum, hmaximum, -, hcomputed⟩ := hnumbers n hn
      obtain ⟨hmean, hlower, hmedian, hupper, hdeviation⟩ :=
        hcomputed (moderate t ht i c hc hsome)
      exact ⟨hminimum, hmaximum, hmean, hdeviation.mpr (sampled hsome), hlower, hmedian, hupper⟩

/-- A source of one table with one column. -/
def columnOf (cells : List String) : Source where
  tables := .ok ["t"]
  columns _ := .value [{ name := "n" }]
  rowCount _ := .value none
  rows _ _ := .value (cells.map fun cell => .value [cell])

/-- A scan of such a table that summarises numbers. -/
def summing (cells : List String) : Scan where
  source := columnOf cells
  settings := { numericStats := true }

/-- A scan that nobody interrupts returns the reports that its tables are good
for. -/
theorem exists_returns_summing (cells : List String) :
    ∃ outcome, (summing cells).Returns ["t"] (.ok outcome)
      ∧ outcome.report.tables = ((summing cells).reports ["t"]).map (·.2) := by
  obtain ⟨outcome, hends⟩ : ∃ outcome, (summing cells).Ends ["t"] outcome := exists_ends rfl
  obtain ⟨kept, -, htables, hkept⟩ := tables_of_ends hends
  refine ⟨outcome, (returns_iff rfl (List.cons_ne_nil _ _)).mpr ⟨outcome, hends, rfl⟩, ?_⟩
  rw [htables, hkept fun _ => rfl]

/-- A column of two numbers, of which the report can be read back. -/
theorem exists_read_two_numbers :
    ∃ outcome, (summing ["2.5", "2.5"]).Returns ["t"] (.ok outcome) ∧ outcome.report.Fits
      ∧ (∃ t ∈ outcome.report.tables, ∃ c ∈ t.columns, c.numbers.isSome = true)
      ∧ ∃ r, Report.read outcome.report.write = .ok r := by
  obtain ⟨outcome, h, htables⟩ := exists_returns_summing ["2.5", "2.5"]
  have fits : outcome.report.Fits := by
    unfold Report.Fits
    rw [htables]
    decide +kernel
  have hnumbers : ∀ t ∈ outcome.report.tables, t.table = "t" ∧ t.columns.length = 1 := by
    rw [htables]
    decide +kernel
  have moderate : ∀ x ∈ (summing ["2.5", "2.5"]).columnNumbers "t" 0, IsModerate x := by
    decide +kernel
  have sampled : 2 ≤ (summing ["2.5", "2.5"]).sampledNumbers "t" 0 := by
    decide +kernel
  -- the only table has the only column
  have hplace : ∀ t ∈ outcome.report.tables, ∀ i c, t.columns[i]? = some c →
      t.table = "t" ∧ i = 0 := by
    intro t ht i c hc
    obtain ⟨htable, hlength⟩ := hnumbers t ht
    obtain ⟨hi, -⟩ := List.getElem?_eq_some_iff.mp hc
    exact ⟨htable, by omega⟩
  obtain ⟨-, -, hread⟩ := exists_read_iff _ _ _ h fits
  refine ⟨outcome, h, fits, ?_, (hread ?_).mpr ?_⟩
  · rw [htables]
    decide +kernel
  · intro t ht i c hc _
    obtain ⟨htable, rfl⟩ := hplace t ht i c hc
    rw [htable]
    exact moderate
  · intro t ht i c hc _
    obtain ⟨htable, rfl⟩ := hplace t ht i c hc
    rw [htable]
    exact sampled

/-- **A column of one number**: its report has a deviation that is not finite,
and cannot be read back. -/
theorem not_exists_read_one_number :
    ∃ outcome, (summing ["1"]).settings.validate = .ok ()
      ∧ (summing ["1"]).Returns ["t"] (.ok outcome) ∧ outcome.report.Fits
      ∧ (∃ x ∈ outcome.report.floats, isFinite x = false)
      ∧ ¬ ∃ r, Report.read outcome.report.write = .ok r := by
  obtain ⟨outcome, h, htables⟩ := exists_returns_summing ["1"]
  have fits : outcome.report.Fits := by
    unfold Report.Fits
    rw [htables]
    decide +kernel
  have hlost : ∃ x ∈ outcome.report.floats, isFinite x = false := by
    unfold Report.floats
    rw [htables]
    decide +kernel
  refine ⟨outcome, rfl, h, fits, hlost, fun hread => ?_⟩
  obtain ⟨x, hx, hfinite⟩ := hlost
  rw [(Report.exists_read_write_iff fits).mp hread x hx] at hfinite
  cases hfinite

end Scan

end TableProfile
