import TableProfile.Delimited.Delimiter
import TableProfile.Scan.Settings
import TableProfile.Source.DelimitedFolder
import TableProfile.Source.Server

/-!
# Scan plans

What a settings file says: where the tables are, which of them to look
at, and the settings of the scan. A plan that names no table means all
that the source lists.
-/

namespace TableProfile

/-- **Where tables are.** -/
inductive SourcePlan where
  /-- In a folder of delimited files. -/
  | folder (path : String) (delimiter : Char)
  /-- On a database server. -/
  | server (schema : ServerSchema)
  deriving DecidableEq, Repr

/-- **What to scan, and how.** -/
structure ScanPlan where
  /-- Where the tables are. -/
  source : SourcePlan
  /-- The tables to look at; if there is none, all of them. -/
  tables : List String := []
  /-- The settings of the scan. -/
  settings : Settings := {}
  deriving DecidableEq, Repr

/-- **What can go wrong around a scan.** -/
inductive PlanFault where
  /-- The scan itself went wrong. -/
  | scan (e : ProfileError)
  /-- The scan broke down. -/
  | brokenDown (text : String)
  /-- The delimiter is no ASCII character. -/
  | delimiter (c : Char)
  /-- The settings file cannot be read. -/
  | unreadable (path : String)
  /-- The settings file does not say a plan. -/
  | meaningless (path : String)
  /-- The source lists no table. -/
  | noTables
  /-- A file that is to be written is there already. -/
  | alreadyThere (path : String)
  /-- A file cannot be written. -/
  | unwritable (fault : Storage.PathFault)
  deriving DecidableEq, Repr

/-- The wording of a fault. -/
def PlanFault.message : PlanFault → String
  | scan e => e.message
  | brokenDown text => text
  | delimiter c => Delimited.delimiterFault c
  | unreadable path => "reading settings file " ++ path
  | meaningless path => "parsing settings file " ++ path
  | noTables => "the source has no tables to scan"
  | alreadyThere path => path ++ " already exists"
  | unwritable fault => fault.message

/-- **The source of a plan**, with the links to servers and the files of a tree. -/
def SourcePlan.open (plan : SourcePlan) (servers : Servers) (tree : Storage.FileTree) :
    Except PlanFault Source :=
  match plan with
  | .folder path delimiter =>
    match Delimited.byteOf? delimiter with
    | some byte => .ok (DelimitedFolder.toSource { folder := path, delimiter := byte } tree)
    | none => .error (.delimiter delimiter)
  | .server schema =>
    match schema.validate with
    | .ok () => .ok (schema.toSource (servers schema))
    | .error e => .error (.scan e)

/-- The plan that is shown as an example. -/
def ScanPlan.example (settings : Settings) : ScanPlan where
  source := .folder "./data" ','
  settings

end TableProfile
