import TableProfile.Json.Codec
import TableProfile.Report

/-!
# Reports as text

A report is handed over as JSON text. The fields of each part come in
the order of its description here, and a part that is not known, such as
the number of rows of a table, is written as no value.
-/

namespace TableProfile

open Json

/-- The fields of the numbers of a column. -/
def numericType : RecordType Report.Numbers where
  blank := ⟨0, 0, 0, 0, 0, 0, 0, false⟩
  mayBeShort := false
  fields := [
    .of "min" .number (·.minimum) fun a x => { a with minimum := x },
    .of "max" .number (·.maximum) fun a x => { a with maximum := x },
    .of "mean" .number (·.mean) fun a x => { a with mean := x },
    .of "std_dev" .number (·.deviation) fun a x => { a with deviation := x },
    .of "p25" .number (·.lowerQuartile) fun a x => { a with lowerQuartile := x },
    .of "p50" .number (·.median) fun a x => { a with median := x },
    .of "p75" .number (·.upperQuartile) fun a x => { a with upperQuartile := x },
    .of "estimated" .flag (·.estimated) fun a x => { a with estimated := x }]

/-- The fields of a counted value. -/
def tallyType : RecordType Tally where
  blank := ⟨"", 0⟩
  mayBeShort := false
  fields := [
    .of "value" .text (·.value) fun a x => { a with value := x },
    .of "count" .nat64 (·.count) fun a x => { a with count := x }]

/-- A column of which nothing is known. -/
def Report.Column.blank : Report.Column where
  name := ""
  typeName := ""
  longest := 0
  knownRows := none
  rows := 0
  blankShare := 0
  distinct := 0
  distinctIsBound := false
  distinctShare := 0
  shareIsBound := false
  isText := false
  values := []
  valuesMissing := false
  numbers := none

/-- The fields of a column. -/
def columnType : RecordType Report.Column where
  blank := .blank
  mayBeShort := false
  fields := [
    .of "name" .text (·.name) fun a x => { a with name := x },
    .of "type_label" .text (·.typeName) fun a x => { a with typeName := x },
    .of "max_length" .nat64 (·.longest) fun a x => { a with longest := x },
    .optional "row_count" (.optional .int64) (·.knownRows) fun a x => { a with knownRows := x },
    .of "rows_checked" .nat64 (·.rows) fun a x => { a with rows := x },
    .of "empty_fraction" .number (·.blankShare) fun a x => { a with blankShare := x },
    .of "unique_count" .nat64 (·.distinct) fun a x => { a with distinct := x },
    .of "unique_count_at_least" .flag (·.distinctIsBound) fun a x =>
      { a with distinctIsBound := x },
    .of "unique_fraction" .number (·.distinctShare) fun a x => { a with distinctShare := x },
    .of "unique_fraction_at_least" .flag (·.shareIsBound) fun a x =>
      { a with shareIsBound := x },
    .of "free_text" .flag (·.isText) fun a x => { a with isText := x },
    .of "values" (.list tallyType.codec) (·.values) fun a x => { a with values := x },
    .of "values_truncated" .flag (·.valuesMissing) fun a x => { a with valuesMissing := x },
    .optional "numeric" (.optional numericType.codec) (·.numbers) fun a x =>
      { a with numbers := x }]

/-- The fields of a table. -/
def tableType : RecordType Report.Table where
  blank := ⟨"", none, 0, 0, []⟩
  mayBeShort := false
  fields := [
    .of "table" .text (·.table) fun a x => { a with table := x },
    .optional "row_count" (.optional .int64) (·.knownRows) fun a x => { a with knownRows := x },
    .of "rows_checked" .nat64 (·.rows) fun a x => { a with rows := x },
    .of "malformed_rows" .nat64 (·.skipped) fun a x => { a with skipped := x },
    .of "columns" (.list columnType.codec) (·.columns) fun a x => { a with columns := x }]

/-- The fields of a failure. -/
def failureType : RecordType Report.Failure where
  blank := ⟨"", ""⟩
  mayBeShort := false
  fields := [
    .of "table" .text (·.table) fun a x => { a with table := x },
    .of "error" .text (·.error) fun a x => { a with error := x }]

/-- The fields of a report. -/
def reportType : RecordType Report where
  blank := {}
  mayBeShort := false
  fields := [
    .of "tables" (.list tableType.codec) (·.tables) fun a x => { a with tables := x },
    .of "failures" (.list failureType.codec) (·.failures) fun a x => { a with failures := x }]

/-- **The text of a report.** -/
def Report.write (report : Report) : String :=
  reportType.codec.write report

/-- **The report in a text.** -/
def Report.read (text : String) : Except Fault Report :=
  reportType.codec.read text

end TableProfile
