import TableProfile.Scan.Activity
import TableProfile.Scan.Progress

/-!
# Scanning the tables of a source

A scan profiles tables one after the other and collects how each of them
ended. It asks before each table whether to go on, and stops when it is
not to. A table that fails is listed and does not stop the scan; tables
that broke down are listed last. The reports come in the order in which
the tables were asked for.

Cancellation is neither a failure nor the end of the collection: what was
finished before is kept.

Before the first table, the scan makes a permit for each worker that it may
have. There is a bound on the number of permits, which the settings are not
checked against; beyond it the scan breaks down.
-/

namespace TableProfile

/-- **What a scan has collected so far.** -/
structure Collected where
  /-- The reports, each with the position at which its table was asked
  for. -/
  finished : List (Nat × Report.Table) := []
  /-- The tables that failed. -/
  failures : List Report.Failure := []
  /-- Whether the scan was asked to stop. -/
  canceled : Bool := false
  /-- The progress. -/
  progress : Progress := {}

/-- **How a scan ended.** -/
structure Outcome where
  /-- Whether it was stopped before all tables were done. -/
  canceled : Bool
  /-- The report on the tables that were done. -/
  report : Report
  /-- The progress. -/
  progress : Progress

namespace Collected

/-- **Takes in how a table ended.** -/
def receive (c : Collected) (position : Nat) (table : String) : TableResult → Collected
  | .ok (some report) =>
    { c with
      finished := c.finished ++ [(position, report)]
      progress := c.progress.advance }
  | .ok none => { c with progress := c.progress.advance }
  | .error e =>
    if e.isCancellation then { c with canceled := true }
    else { c with
      failures := c.failures ++ [⟨table, e.message⟩]
      progress := c.progress.advance }

/-- The failure of a table whose activity broke down. -/
def breakdownFailure (table : String) : Report.Failure :=
  ⟨table, "worker failed"⟩

/-- **Ends the collection.** `broken` are the tables whose activity broke
down. -/
def conclude (c : Collected) (broken : List String) : Outcome where
  canceled := c.canceled
  progress := c.progress
  report := {
    tables := (c.finished.mergeSort fun a b => a.1 ≤ b.1).map (·.2)
    failures := c.failures ++ broken.map breakdownFailure }

end Collected

/-- **What is scanned, and how.** -/
structure Scan where
  /-- The source of the tables. -/
  source : Source
  /-- The settings. -/
  settings : Settings
  /-- The seeds of the samples. -/
  seeds : Seeds := fun _ _ => 0
  /-- Who may interrupt the scan. -/
  interrupt : Interrupt := .never

namespace Scan

/-- What is done about a table that is asked for at a position. -/
def activity (scan : Scan) (position : Nat) (table : String) : Activity :=
  .ofTable scan.source scan.settings (scan.seeds position) table

/-- Profiles tables one after the other. `position` is the position of
the first, `asked` the number of questions asked before, and `broken` the
tables whose activity broke down before. -/
def inOrder (scan : Scan) (position asked : Nat) (c : Collected) (broken : List String) :
    List String → Outcome
  | [] => c.conclude broken
  | table :: rest =>
    if scan.interrupt asked then
      match (scan.activity position table).run scan.interrupt (asked + 1) with
      | (.result result, asked) =>
        scan.inOrder (position + 1) asked (c.receive position table result) broken rest
      | (.breakdown, asked) => scan.inOrder (position + 1) asked c (broken ++ [table]) rest
    else { c with canceled := true }.conclude broken

/-- The fault of a request that cannot be met. -/
def requestFault? (scan : Scan) (tables : List String) : Option ProfileError :=
  match scan.settings.validate with
  | .error e => some e
  | .ok () => if tables.isEmpty then some (.configuration "no tables to scan") else none

/-- The most permits that can be made. -/
def maxPermits : Nat := 2305843009213693951

/-- The wording of a breakdown over too many permits. -/
def permitsFault : String :=
  "a semaphore may not have more than MAX_PERMITS permits (" ++ toString maxPermits ++ ")"

/-- **Scans tables.** -/
def run (scan : Scan) (tables : List String) : Answer Outcome :=
  match scan.requestFault? tables with
  | some e => .failure e
  | none =>
    if maxPermits < scan.settings.concurrency then .breakdown
    else .value (scan.inOrder 0 0 { progress := .start tables.length } [] tables)

end Scan

end TableProfile
