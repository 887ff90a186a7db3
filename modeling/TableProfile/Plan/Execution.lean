import TableProfile.Plan.Basic
import TableProfile.Report.Interchange
import TableProfile.Scan.Outcome

/-!
# Carrying out a plan

A plan is carried out on a tree of files: its source is opened, the
tables are looked at, and the report is written to a file or shown. What
comes of it is a text to show or a fault to tell, and the tree as it is
then, which only a report that was written has changed.
-/

namespace TableProfile

open Storage

/-- **What carrying out leaves behind.** -/
structure Effects where
  /-- The text that is shown, or the fault that is told. -/
  result : Except PlanFault String
  /-- The files. -/
  tree : FileTree

/-- Hands over a report: to a file, or to be shown. -/
def deliver (report : Report) (output : Option String) (tree : FileTree) : Effects :=
  match output with
  | none => { result := .ok (report.write ++ "\n"), tree }
  | some path =>
    match tree.write path (Text.Utf8.encode report.write) with
    | .ok after => { result := .ok "", tree := after }
    | .error fault => { result := .error (.unwritable fault), tree }

/-- The tables to look at: those asked for, or all that there are. -/
def requested (source : Source) (tables : List String) : Except PlanFault (List String) :=
  if tables.isEmpty then
    match source.tables with
    | .error e => .error (.scan e)
    | .ok [] => .error .noTables
    | .ok tables => .ok tables
  else .ok tables

/-- **Scans an open source**, and hands over the report. -/
def scanAndDeliver (source : Source) (tables : List String) (settings : Settings)
    (seeds : Seeds) (output : Option String) (tree : FileTree) : Effects :=
  match requested source tables with
  | .error fault => { result := .error fault, tree }
  | .ok tables =>
    match Scan.run { source, settings, seeds } tables with
    | .failure e => { result := .error (.scan e), tree }
    | .breakdown => { result := .error (.brokenDown Scan.permitsFault), tree }
    | .value outcome => deliver outcome.report output tree

/-- **Carries out a plan.** Its settings are checked before its source is
opened. -/
def ScanPlan.execute (plan : ScanPlan) (servers : Servers) (seeds : Seeds)
    (output : Option String) (tree : FileTree) : Effects :=
  match plan.settings.validate with
  | .error e => { result := .error (.scan e), tree }
  | .ok () =>
    match plan.source.open servers tree with
    | .error fault => { result := .error fault, tree }
    | .ok source => scanAndDeliver source plan.tables plan.settings seeds output tree

end TableProfile
