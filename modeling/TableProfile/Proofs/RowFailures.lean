import TableProfile.Proofs.ColumnByColumn

/-!
# A table that fails at a row

The rows of a table may be read well for a while and then fail: at the first row, or
after thousands of them. If the failing row is within the limit, all that was learned
from the rows before is given up. The table is not reported, it is one failure each
time that it was asked for, and where the error does not name a table by itself, the
failure names the table and the number of the row. Rows that do not fit are counted
like all others. Nothing else is left of the rows before: any others of the same
number lead to the same scans.

If the failing row is beyond the limit, nobody asks for it. The scans are those of the
source whose rows end before the error, whatever they return
(`Scan.failsOnly_of_failsBehind`). The two cases are told apart by the limit alone,
and they meet: the last row that can fail a table is the one whose number is the
limit.
-/

namespace TableProfile

namespace Source

/-- **A source fails at a row of a table.** The columns are told, and there is one. The
rows can be opened, and behind some that can be read, of whatever length, comes an
error that is no cancellation. -/
structure FailsBehind (source : Source) (limit : Option Nat) (table : String)
    (before : List Row) (e : ProfileError) : Prop where
  /-- There are columns. -/
  columns : ∃ columns, source.columns table = .value columns ∧ columns ≠ []
  /-- Some rows can be read, and then comes the error. -/
  rows : ∃ rest, source.rows table limit = .value (before.map .value ++ .failure e :: rest)
  /-- It is no cancellation. -/
  uncanceled : e.isCancellation = false

/-- **The source with other rows** in one of its tables. -/
def withRows (source : Source) (table : String) (rows : Rows) : Source :=
  { source with
    rows := fun other limit => if other = table then .value rows else source.rows other limit }

end Source

/-- The scan of the source with other rows in one of its tables. -/
def Scan.withRows (scan : Scan) (table : String) (rows : Rows) : Scan :=
  { scan with source := scan.source.withRows table rows }

/-- **What is behind rows** is not looked for, if these are enough. -/
theorem Rows.upTo_append_of_reached {before : List Row} {limit : Option Nat}
    (reached : ∃ l ∈ limit, l ≤ before.length) (rest : Rows) :
    Rows.upTo limit (before.map .value ++ rest) = Rows.upTo limit (before.map .value) := by
  obtain ⟨l, rfl, hl⟩ := reached
  exact List.take_append_of_le_length (hl.trans (List.length_map _).ge)

/-- **An error that does not name a table** is told with the table and the row it arose
in. -/
theorem ProfileError.message_ofRow {e : ProfileError} (uncanceled : e.isCancellation = false)
    (bare : ∀ other message, e ≠ .source other message) (table : String) (row : Nat) :
    (e.ofRow table row).message = "Source error in table " ++ table ++ ": "
      ++ ("row " ++ toString row ++ ": " ++ e.message) := by
  cases e with
  | canceled => cases uncanceled
  | source other message => exact absurd rfl (bare other message)
  | configuration message => rfl
  | io message => rfl
  | csv message => rfl
  | database message => rfl
  | serialization message => rfl

namespace Activity

variable {table : String} {settings : Settings} {rowCount : Option Int}
  {before before' : List Row} {e : ProfileError} {rest rest' : Rows}

/-- Where there is room for some rows and one more, the limit is not reached. -/
theorem not_reached_of_within {limit : Option Nat} {read n : Nat}
    (within : ∀ l ∈ limit, read + n < l) : ¬ limit.any (· ≤ read) = true := by
  rw [Option.any_eq_true]
  rintro ⟨l, hl, hle⟩
  exact absurd (of_decide_eq_true hle)
    (Nat.not_le.mpr ((Nat.le_add_right read n).trans_lt (within l hl)))

/-- **Of the rows before a failure only the number matters**, if the failing row is
within the limit. -/
theorem throughRows_eq_of_failure {t t' : TableState} (read : t'.read = t.read)
    (same : before'.length = before.length)
    (within : ∀ l ∈ settings.limit, t.read + before.length < l) :
    throughRows table settings rowCount t' (before'.map .value ++ .failure e :: rest')
      = throughRows table settings rowCount t (before.map .value ++ .failure e :: rest) := by
  -- the profiles of the columns are only looked at where the rows end, and they do not
  induction before generalizing t t' before' with
  | nil =>
    obtain rfl := List.eq_nil_of_length_eq_zero same
    rw [List.map_nil, List.nil_append, List.nil_append]
    unfold throughRows
    rw [read, if_neg (not_reached_of_within within), if_neg (not_reached_of_within within)]
  | cons row before ih =>
    obtain ⟨row', before', rfl⟩ := List.exists_cons_of_length_eq_add_one same
    have hread : (t'.count.look row').read = (t.count.look row).read := by
      rw [TableState.read_count_look, TableState.read_count_look, read]
    have hnext := ih hread (Nat.succ.inj same) fun l hl => by
      rw [TableState.read_count_look, Nat.add_right_comm]
      exact within l hl
    have hcount : t'.count.read = t.count.read := congrArg (· + 1) read
    rw [List.map_cons, List.map_cons, List.cons_append, List.cons_append]
    unfold throughRows
    rw [read, if_neg (not_reached_of_within within), if_neg (not_reached_of_within within)]
    dsimp only
    rw [hcount, hnext]

/-- **A table that fails at a row** ends with the error, which is told the number of the
row. -/
theorem uninterrupted_throughRows_of_failure {t : TableState}
    (within : ∀ l ∈ settings.limit, t.read + before.length < l) :
    (throughRows table settings rowCount t
        (before.map .value ++ .failure e :: rest)).uninterrupted
      = .result (.error (e.ofRow table (t.read + before.length + 1))) := by
  induction before generalizing t with
  | nil =>
    rw [List.map_nil, List.nil_append]
    unfold throughRows
    rw [if_neg (not_reached_of_within within)]
    rfl
  | cons row before ih =>
    have hnext := ih (t := t.count.look row) fun l hl => by
      rw [TableState.read_count_look, Nat.add_right_comm]
      exact within l hl
    rw [TableState.read_count_look, Nat.add_right_comm t.read] at hnext
    rw [List.map_cons, List.cons_append]
    unfold throughRows
    rw [if_neg (not_reached_of_within within), uninterrupted_calls]
    dsimp only
    split <;> exact hnext

/-! ## The table -/

variable {source source' : Source} {seed : Nat → UInt64}

/-- **Rows that are gone through in the same way** come to the same activity. -/
theorem openRows_eq_of_throughRows_eq {rows rows' : Rows}
    (opened : source.rows table settings.limit = .value rows)
    (opened' : source'.rows table settings.limit = .value rows')
    (through : ∀ rowCount t, t.read = 0 → throughRows table settings rowCount t rows'
      = throughRows table settings rowCount t rows) :
    openRows source' settings seed table = openRows source settings seed table := by
  funext columns rowCount
  unfold openRows
  cases hstart : TableState.start settings seed columns with
  | error e => rfl
  | ok t =>
    rw [opened, opened']
    exact congrArg (fun rest => calls .rows fun _ => rest)
      (through rowCount t (TableState.of_start hstart).1)

/-- **Another table** is not concerned by other rows of this one. -/
theorem ofTable_withRows_of_ne {other : String} (h : other ≠ table) (rows : Rows) :
    ofTable (source.withRows table rows) settings seed other
      = ofTable source settings seed other := by
  have hrows : (source.withRows table rows).rows other = source.rows other :=
    funext fun _ => if_neg h
  refine ofTable_eq_of_openRows_eq rfl rfl ?_
  unfold openRows
  rw [hrows]

/-- **Other rows of a table** that are gone through in the same way come to the same
activities. -/
theorem ofTable_withRows {rows rows' : Rows}
    (opened : source.rows table settings.limit = .value rows)
    (through : ∀ rowCount t, t.read = 0 → throughRows table settings rowCount t rows'
      = throughRows table settings rowCount t rows) (other : String) :
    ofTable (source.withRows table rows') settings seed other
      = ofTable source settings seed other := by
  by_cases h : other = table
  · subst h
    exact ofTable_eq_of_openRows_eq rfl rfl
      (openRows_eq_of_throughRows_eq opened (if_pos rfl) through)
  · exact ofTable_withRows_of_ne h rows'

/-- **A table that fails at a row**, within the limit, ends with the error. It does not
get there if the source breaks down when the rows are counted. -/
theorem uninterrupted_ofTable_of_failsBehind (accepted : settings.validate = .ok ())
    (fails : source.FailsBehind settings.limit table before e)
    (within : ∀ l ∈ settings.limit, before.length < l)
    (uncanceled : (ofTable source settings seed table).uninterrupted.isCancellation = false) :
    (source.rowCount table = .breakdown
        ∧ (ofTable source settings seed table).uninterrupted = .breakdown)
      ∨ (source.rowCount table ≠ .breakdown
        ∧ (ofTable source settings seed table).uninterrupted
          = .result (.error (e.ofRow table (before.length + 1)))) := by
  obtain ⟨columns, htold, hsome⟩ := fails.columns
  obtain ⟨rest, hrows⟩ := fails.rows
  rcases uninterrupted_ofTable_of_columns htold hsome uncanceled with
    hbroken | ⟨rowCount, hcount, hends⟩
  · exact .inl hbroken
  · refine .inr ⟨fun hbroken => ?_, hends.trans ?_⟩
    · rcases hcount with hcount | ⟨-, _, hcount⟩ <;> cases hbroken.symm.trans hcount
    · obtain ⟨t, hstart⟩ := TableState.exists_start accepted seed columns
      have hread : t.read = 0 := (TableState.of_start hstart).1
      unfold openRows
      rw [hstart]
      dsimp only
      rw [uninterrupted_calls, hrows]
      dsimp only
      rw [uninterrupted_throughRows_of_failure (by rwa [hread, Nat.zero_add]), hread,
        Nat.zero_add]

end Activity

/-! ## Whole scans -/

namespace Scan

variable {scan : Scan} {tables : List String} {outcome : Outcome} {table : String}
  {before : List Row} {e : ProfileError}

/-- **The failures of one table**: as many as it was asked for, if it is good for
one. -/
theorem filter_plainFailures {failure : Report.Failure}
    (h : table ∈ tables → (scan.plainEnding table).failure? table = some failure) :
    (scan.plainFailures tables).filter (·.table == table)
      = List.replicate (tables.count table) failure := by
  induction tables with
  | nil => rfl
  | cons first rest ih =>
    have hrest := ih fun hmem => h (List.mem_cons_of_mem _ hmem)
    unfold plainFailures at hrest ⊢
    rw [List.flatMap_cons, List.filter_append, hrest]
    by_cases hfirst : first = table
    · subst hfirst
      have hone := h List.mem_cons_self
      have hname : failure.table = first := Ending.table_of_failure? hone
      rw [hone, List.count_cons_self, List.replicate_succ]
      have hkept : (some failure).toList.filter (·.table == first) = [failure] :=
        List.filter_cons_of_pos (beq_iff_eq.mpr hname)
      rw [hkept]
      rfl
    · have hnone : ((scan.plainEnding first).failure? first).toList.filter (·.table == table)
          = [] := by
        refine List.filter_eq_nil_iff.mpr fun failure hmem hname => hfirst ?_
        exact (Ending.table_of_failure? (Option.mem_toList.mp hmem)).symm.trans
          (beq_iff_eq.mp hname)
      rw [hnone, List.count_cons_of_ne hfirst]
      rfl

/-- **A table that always ends in one failure** is that failure, each time that it was
asked for, and it is not reported. -/
theorem failures_of_ending (h : scan.Ends tables outcome) (completed : outcome.canceled = false)
    {failure : Report.Failure}
    (failed : ∀ i : Nat, tables[i]? = some table → (scan.ending i table).isCancellation = false →
      (scan.ending i table).report? = none
        ∧ (scan.ending i table).failure? table = some failure) :
    (∀ report ∈ outcome.report.tables, report.table ≠ table)
      ∧ outcome.report.failures.filter (·.table == table)
        = List.replicate (tables.count table) failure := by
  obtain ⟨hundisturbed, huncanceled⟩ := ends_undisturbed h completed
  obtain ⟨kept, hsub, htables, -⟩ := tables_of_ends hundisturbed
  have hfailures := (failures_of_ends hundisturbed).2 fun _ => rfl
  -- the scan that is never told to stop profiles its tables in the same way
  have hending : scan.undisturbed.ending = scan.ending := rfl
  have hended := fun i hi => failed i hi (huncanceled i table hi)
  constructor
  · intro report hreport hname
    rw [htables] at hreport
    obtain ⟨⟨i, _⟩, hmem, rfl⟩ := List.mem_map.mp hreport
    obtain ⟨other, hother, hreported⟩ := scan.undisturbed.mem_reports.mp (hsub.subset hmem)
    obtain rfl := (Activity.table_of_report? hreported).symm.trans hname
    rw [hending, (hended i hother).1] at hreported
    cases hreported
  · have hone : table ∈ tables → (scan.plainEnding table).failure? table = some failure := by
      intro hmem
      obtain ⟨i, hi⟩ := List.getElem?_of_mem hmem
      have same : scan.SameAs scan := ⟨rfl, rfl⟩
      rw [← same.withoutEstimates_ending i, Ending.failure?_withoutEstimates]
      exact (hended i hi).2
    have hall : scan.undisturbed.failures tables = scan.plainFailures tables :=
      SameAs.ofTables_failures ⟨rfl, rfl⟩ 0 tables
    rw [hall] at hfailures
    have hperm := hfailures.filter (·.table == table)
    rw [filter_plainFailures hone] at hperm
    exact List.perm_replicate.mp hperm

/-- **A table that fails at a row, within the limit**, is one failure each time that it
was asked for. -/
theorem exists_failure_of_failsBehind (accepted : scan.settings.validate = .ok ())
    (h : scan.Ends tables outcome) (completed : outcome.canceled = false)
    (fails : scan.source.FailsBehind scan.settings.limit table before e)
    (within : ∀ l ∈ scan.settings.limit, before.length < l) :
    (∀ report ∈ outcome.report.tables, report.table ≠ table)
      ∧ ∃ failure : Report.Failure, failure.table = table
        ∧ outcome.report.failures.filter (·.table == table)
          = List.replicate (tables.count table) failure
        ∧ (scan.source.rowCount table ≠ .breakdown →
          failure.error = (e.ofRow table (before.length + 1)).message) := by
  have hended := fun i (uncanceled : (scan.ending i table).isCancellation = false) =>
    Activity.uninterrupted_ofTable_of_failsBehind accepted fails within uncanceled
  by_cases hbroken : scan.source.rowCount table = .breakdown
  · have hfailed : ∀ i : Nat, tables[i]? = some table →
        (scan.ending i table).isCancellation = false →
        (scan.ending i table).report? = none
          ∧ (scan.ending i table).failure? table = some (Collected.breakdownFailure table) := by
      intro i _ uncanceled
      rcases hended i uncanceled with ⟨-, hends⟩ | ⟨hcounted, -⟩
      · rw [show scan.ending i table = _ from hends]
        exact ⟨rfl, rfl⟩
      · exact absurd hbroken hcounted
    obtain ⟨hreports, hfailures⟩ := failures_of_ending h completed hfailed
    exact ⟨hreports, _, rfl, hfailures, absurd hbroken⟩
  · have hfailed : ∀ i : Nat, tables[i]? = some table →
        (scan.ending i table).isCancellation = false →
        (scan.ending i table).report? = none
          ∧ (scan.ending i table).failure? table
            = some ⟨table, (e.ofRow table (before.length + 1)).message⟩ := by
      intro i _ uncanceled
      rcases hended i uncanceled with ⟨hbreaks, -⟩ | ⟨-, hends⟩
      · exact absurd hbreaks hbroken
      · rw [show scan.ending i table = _ from hends]
        refine ⟨rfl, ?_⟩
        show (if (e.ofRow table _).isCancellation then none else some _) = _
        rw [ProfileError.isCancellation_ofRow, fails.uncanceled, if_neg Bool.false_ne_true]
    obtain ⟨hreports, hfailures⟩ := failures_of_ending h completed hfailed
    exact ⟨hreports, _, rfl, hfailures, fun _ => rfl⟩

/-- **Other rows of a table** that are gone through in the same way lead to the same
scans. -/
theorem returns_withRows_iff {rows rows' : Rows}
    (opened : scan.source.rows table scan.settings.limit = .value rows)
    (through : ∀ rowCount t, t.read = 0 →
      Activity.throughRows table scan.settings rowCount t rows'
        = Activity.throughRows table scan.settings rowCount t rows)
    (result : Except ProfileError Outcome) :
    (scan.withRows table rows').Returns tables result ↔ scan.Returns tables result := by
  have hactivity : (scan.withRows table rows').activity = scan.activity := by
    funext position other
    exact Activity.ofTable_withRows opened through other
  exact returns_iff_of_activity_eq hactivity rfl rfl result

/-- **A table that fails at a row leaves no trace but its failure.** The columns of a
table are told, its rows can be opened, and behind some of them comes an error. Its
number is one more than theirs, whether they fit or not.

If it is within the limit, a scan that completes does not report the table, however
much was learned from the rows before. There is one failure for each time that the
table was asked for. It is that of the row, unless the source breaks down when the rows
are counted, and so never gets to open them; an error that does not come with a table is
told with the table and the number of the row. And with any other rows before it, of the
same number, every scan returns the same.

If it is beyond the limit, every scan returns the same as if the rows ended before the
error. -/
theorem failsOnly_of_failsBehind (accepted : scan.settings.validate = .ok ())
    (fails : scan.source.FailsBehind scan.settings.limit table before e) :
    let row := before.length + 1
    ((∀ l ∈ scan.settings.limit, row ≤ l) →
      (∀ outcome, scan.Returns tables (.ok outcome) → outcome.canceled = false →
        (∀ report ∈ outcome.report.tables, report.table ≠ table)
          ∧ ∃ failure : Report.Failure, failure.table = table
            ∧ outcome.report.failures.filter (·.table == table)
              = List.replicate (tables.count table) failure
            ∧ (scan.source.rowCount table ≠ .breakdown →
              failure.error = (e.ofRow table row).message
                ∧ ((∀ other message, e ≠ .source other message) →
                  failure.error = "Source error in table " ++ table ++ ": "
                    ++ ("row " ++ toString row ++ ": " ++ e.message))))
      ∧ ∀ (before' : List Row) (rest : Rows), before'.length = before.length → ∀ result,
        (scan.withRows table (before'.map .value ++ .failure e :: rest)).Returns tables result
          ↔ scan.Returns tables result)
    ∧ ((∃ l ∈ scan.settings.limit, l < row) → ∀ result,
      (scan.withRows table (before.map .value)).Returns tables result
        ↔ scan.Returns tables result) := by
  obtain ⟨rest, hrows⟩ := fails.rows
  refine ⟨fun within => ⟨fun outcome h completed => ?_, fun before' rest' same result => ?_⟩,
    fun ⟨l, hl, hlt⟩ result => ?_⟩
  · obtain ⟨hreports, failure, hname, hfailures, herror⟩ :=
      exists_failure_of_failsBehind accepted (ends_of_returns h) completed fails within
    refine ⟨hreports, failure, hname, hfailures, fun counted => ⟨herror counted, fun hbare => ?_⟩⟩
    rw [herror counted, ProfileError.message_ofRow fails.uncanceled hbare]
  · refine returns_withRows_iff hrows (fun rowCount t hread => ?_) result
    exact Activity.throughRows_eq_of_failure rfl same (by rwa [hread, Nat.zero_add])
  · refine returns_withRows_iff hrows (fun rowCount t hread => ?_) result
    have hlimit : scan.settings.limit.map (· - t.read) = scan.settings.limit := by
      rw [hread]
      exact Option.map_id_apply
    rw [← Activity.throughRows_upTo t (before.map _), ← Activity.throughRows_upTo t (_ ++ _),
      hlimit, Rows.upTo_append_of_reached ⟨l, hl, Nat.le_of_lt_succ hlt⟩]

/-- A source of a table that fails at its third row, and of one that does not. -/
def brittleTables : Source where
  tables := .ok ["brittle", "whole"]
  columns _ := .value [{ name := "a" }, { name := "b" }]
  rowCount _ := .value none
  rows table _ := .value ([.value ["1", "2"], .value ["3"]]
    ++ if table = "brittle" then [.failure (.io "lost")] else [])

theorem neverCancels_brittleTables : brittleTables.NeverCancels := by
  refine ⟨fun _ _ h => ?_, fun _ _ h => ?_, fun _ _ _ h => ?_, fun table _ rows e h hmem => ?_⟩
  · cases h
  · cases h
  · cases h
  · obtain rfl := Answer.value.inj h
    rcases List.mem_append.mp hmem with hrow | hlast
    · simp at hrow
    · split at hlast
      · obtain rfl := Answer.failure.inj (List.mem_singleton.mp hlast)
        rfl
      · exact absurd hlast List.not_mem_nil

/-- Two workers look at the brittle table twice. With a limit of three rows it fails both
times, after a row that fits and one that does not; with a limit of two rows it is as if
there were no others. -/
theorem failsOnly_of_failsBehind_two_workers :
    let scan (rows : Int) : Scan :=
      { source := brittleTables, settings := { sampleSize := rows, concurrency := 2 } }
    let tables := ["brittle", "whole", "brittle"]
    let before := [["1", "2"], ["3"]]
    (∀ rows, (scan rows).source.FailsBehind (scan rows).settings.limit "brittle" before (.io "lost"))
      ∧ (∃ outcome, (scan 3).Returns tables (.ok outcome) ∧ outcome.canceled = false
        ∧ (∀ report ∈ outcome.report.tables, report.table ≠ "brittle")
        ∧ outcome.report.failures.filter (·.table == "brittle")
          = List.replicate 2 ⟨"brittle", "Source error in table brittle: row 3: IO error: lost"⟩)
      ∧ ∃ outcome, (scan 2).Returns tables (.ok outcome)
        ∧ ((scan 2).withRows "brittle" (before.map .value)).Returns tables (.ok outcome) := by
  intro scan tables before
  have fails : ∀ rows, (scan rows).source.FailsBehind (scan rows).settings.limit "brittle" before
      (.io "lost") := fun rows => ⟨⟨_, rfl, List.cons_ne_nil _ _⟩, ⟨[], rfl⟩, rfl⟩
  have completes : ∀ rows, (scan rows).settings.validate = .ok () →
      ∃ outcome, (scan rows).Returns tables (.ok outcome) ∧ outcome.canceled = false := by
    intro rows accepted
    obtain ⟨outcome, h, completed, -⟩ := exists_completed (scan rows) tables accepted
      (List.cons_ne_nil _ _) neverCancels_brittleTables fun _ => rfl
    exact ⟨outcome, h, completed⟩
  refine ⟨fails, ?_, ?_⟩
  · obtain ⟨outcome, h, completed⟩ := completes 3 rfl
    have hlimit : ∀ l ∈ (scan 3).settings.limit, 3 ≤ l := by
      rintro l ⟨⟩
      exact le_rfl
    obtain ⟨hreports, failure, hname, hfailures, herror⟩ :=
      ((failsOnly_of_failsBehind rfl (fails 3)).1 hlimit).1 outcome h completed
    have htext := (herror (by rintro ⟨⟩)).2 fun _ _ h => by cases h
    obtain ⟨table, error⟩ := failure
    obtain rfl : table = "brittle" := hname
    obtain rfl : error = "Source error in table brittle: row 3: IO error: lost" :=
      htext.trans (by decide +kernel)
    exact ⟨outcome, h, completed, hreports, hfailures⟩
  · obtain ⟨outcome, h, -⟩ := completes 2 rfl
    exact ⟨outcome, h, ((failsOnly_of_failsBehind rfl (fails 2)).2 ⟨2, rfl, by decide⟩ _).mpr h⟩

end Scan

end TableProfile
