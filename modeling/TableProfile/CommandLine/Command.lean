import TableProfile.CommandLine.Options
import TableProfile.Plan.Execution
import TableProfile.Plan.Reading
import TableProfile.Plan.Writing

/-!
# Commands

There are three commands: scan what a settings file says, scan a folder
of delimited files with the settings given as options, and write an
example of a settings file. Each of them works on a tree of files.
-/

namespace TableProfile

open CommandLine Storage

/-- **The options of a scan of a folder.** -/
structure FolderRequest where
  /-- The path of the folder. -/
  folder : String
  /-- The delimiter. -/
  delimiter : Char := ','
  /-- The tables to look at; if there is none, all of them. -/
  tables : List String := []
  /-- The number of rows looked at in each table. -/
  sampleSize : Int := 100000
  /-- Whether numbers are summarised. -/
  numericStats : Bool := false
  /-- Values seen fewer times are not reported. -/
  minCellCount : Nat := 0
  /-- The file for the report. -/
  output : Option String := none
  deriving DecidableEq, Repr

/-- **A command.** -/
inductive Command where
  /-- Scans what a settings file says. -/
  | scan (plan : String) (output : Option String)
  /-- Scans a folder. -/
  | folder (request : FolderRequest)
  /-- Writes an example of a settings file. -/
  | example (output : String)
  deriving DecidableEq, Repr

namespace Command

/-! ## Reading a command -/

/-- The names of the commands. -/
def names : List String := ["scan", "csv", "init-config"]

/-- The option for the file that is written. -/
def outputOption : OptionSpec :=
  { name := "output", letter := some 'o', kind := .path }

/-- The options of a scan. -/
def scanOptions : List OptionSpec := [
  { name := "config", letter := some 'c', kind := .path, required := true },
  outputOption]

/-- The options of a scan of a folder. -/
def folderOptions : List OptionSpec := [
  { name := "dir", letter := some 'd', kind := .path, required := true },
  { name := "delimiter", kind := .character },
  { name := "tables", letter := some 't', kind := .list },
  { name := "sample-size", letter := some 's', kind := .integer },
  { name := "numeric-stats", kind := .flag },
  { name := "min-cell-count", kind := .natural },
  outputOption]

/-- The value of an option that has one at most. -/
def valueOf (given : Given) (name : String) : Option String :=
  valuesOf given name >>= List.head?

/-- The request that options make. -/
def folderRequest (given : Given) : FolderRequest :=
  let fallback : FolderRequest := { folder := "" }
  let read {α : Type} (name : String) (f : List Char → Option α) (d : α) : α :=
    ((valueOf given name).bind fun s => f s.toList).getD d
  { folder := (valueOf given "dir").getD ""
    delimiter := read "delimiter" List.head? fallback.delimiter
    tables := (valuesOf given "tables").getD []
    sampleSize := read "sample-size" Number.int64? fallback.sampleSize
    numericStats := (valuesOf given "numeric-stats").isSome
    minCellCount := read "min-cell-count" Number.uint64? fallback.minCellCount
    output := valueOf given "output" }

/-- **A command with its options**, by its name. -/
def ofName? (name : String) (arguments' : List String) : Option (Except UsageFault Command) :=
  match name with
  | "scan" => some do
    let given ← arguments scanOptions {} arguments'
    return .scan ((valueOf given "config").getD "") (valueOf given "output")
  | "csv" => some do
    let given ← arguments folderOptions {} arguments'
    return .folder (folderRequest given)
  | "init-config" => some do
    let given ← arguments [outputOption] {} arguments'
    return .example ((valueOf given "output").getD "scan.yaml")
  | _ => none

/-- The fault of what follows the word for help, which may be one command. -/
def helpFault : List String → UsageFault
  | [] => .help
  | [name] => if name ∈ "help" :: names then .help else .unknownCommand
  | _ => .unknownCommand

/-- **The command of a command line.** -/
def parse : List String → Except UsageFault Command
  | [] => .error .helpForNothing
  | "--" :: [] => .error .helpForNothing
  | "--" :: name :: _ =>
    .error (if name ∈ "help" :: names then .unknownArgument else .unknownCommand)
  | "help" :: rest => .error (helpFault rest)
  | name :: rest =>
    match ofName? name rest with
    | some command => command
    | none =>
      match name.toList with
      | '-' :: '-' :: option =>
        (long [] {} (String.ofList option)).bind fun _ => .error .unknownCommand
      | '-' :: c :: letters =>
        (short [] {} false (c :: letters)).bind fun _ => .error .unknownCommand
      | _ => .error .unknownCommand

/-! ## Following a command -/

/-- The settings of a request. -/
def requestSettings (defaults : Settings) (request : FolderRequest) : Settings :=
  { defaults with
    sampleSize := request.sampleSize
    numericStats := request.numericStats
    minCellCount := request.minCellCount }

/-- Scans a folder. The settings are checked by the scan itself, after the
tables are listed. -/
def scanFolder (request : FolderRequest) (defaults : Settings) (servers : Servers)
    (seeds : Seeds) (tree : FileTree) : Effects :=
  match (SourcePlan.folder request.folder request.delimiter).open servers tree with
  | .error fault => { result := .error fault, tree }
  | .ok source =>
    scanAndDeliver source request.tables (requestSettings defaults request) seeds
      request.output tree

/-- Scans what a settings file says. -/
def scanPlan (path : String) (output : Option String) (defaults : Settings)
    (servers : Servers) (seeds : Seeds) (tree : FileTree) : Effects :=
  match ScanPlan.load defaults tree path with
  | .error fault => { result := .error fault, tree }
  | .ok plan => plan.execute servers seeds output tree

/-- Writes an example of a settings file, unless the file is there. -/
def writeExample (output : String) (defaults : Settings) (tree : FileTree) : Effects :=
  if tree.exists? output then { result := .error (.alreadyThere output), tree }
  else match tree.write output (Text.Utf8.encode (ScanPlan.example defaults).write) with
    | .ok after => { result := .ok "", tree := after }
    | .error fault => { result := .error (.unwritable fault), tree }

/-- **Follows a command.** -/
def run (command : Command) (defaults : Settings) (servers : Servers) (seeds : Seeds)
    (tree : FileTree) : Effects :=
  match command with
  | .scan plan output => scanPlan plan output defaults servers seeds tree
  | .folder request => scanFolder request defaults servers seeds tree
  | .example output => writeExample output defaults tree

end Command

end TableProfile
