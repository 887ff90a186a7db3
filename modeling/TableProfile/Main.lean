import TableProfile.CommandLine.Command

/-!
# The program

The program takes a picture of the files that a command can look at,
follows the command on that picture, and then writes the file that came
out of it. So everything between the reading and the writing is a
function of the picture.

It ends with 0 when the command was followed, with 1 when it failed, with
101 when it broke down, and with 2 when there was no command to follow.

The program has no means to reach a database server, so every link to one
is a link that cannot be established.
-/

namespace TableProfile.Main

open Storage CommandLine

/-- What is told about the use of the program. -/
def usageText : String :=
  "Profile the tables of a CSV folder or PostgreSQL schema\n\n" ++
  "Usage:\n" ++
  "  tableprofile scan --config <CONFIG> [--output <OUTPUT>]\n" ++
  "  tableprofile csv --dir <DIR> [--delimiter <DELIMITER>] [--tables <TABLES>]\n" ++
  "      [--sample-size <SAMPLE_SIZE>] [--numeric-stats]\n" ++
  "      [--min-cell-count <MIN_CELL_COUNT>] [--output <OUTPUT>]\n" ++
  "  tableprofile init-config [--output <OUTPUT>]\n"

/-- What is told about a command line without a command. -/
def faultText : UsageFault → String
  | .help | .helpForNothing => usageText
  | .missingOption => "error: a required option is missing\n\n" ++ usageText
  | .unknownCommand => "error: unrecognized subcommand\n\n" ++ usageText
  | .unknownArgument => "error: unexpected argument\n\n" ++ usageText
  | .missingValue => "error: a value is missing\n\n" ++ usageText
  | .wrongValue => "error: invalid value\n\n" ++ usageText
  | .unwantedValue => "error: unexpected value\n\n" ++ usageText
  | .repeatedOption => "error: an option is given twice\n\n" ++ usageText

/-- The paths a plan looks at besides its own. -/
def planPaths (plan : ScanPlan) : List String :=
  match plan.source with
  | .folder path _ => path :: plan.tables.map (joinPath path)
  | .server _ => []

/-- The folder of the file that a path names. -/
def folderOf (path : String) : String :=
  path ++ "/.."

/-- The file that a command writes, when it is followed. -/
def outputOf : Command → Option String
  | .scan _ output => output
  | .folder request => request.output
  | .example output => some output

/-- The number of processors of this machine; 4 if it cannot be told. -/
def processors : IO Nat := do
  try
    let text ← IO.FS.readFile "/proc/cpuinfo"
    let lines := (text.splitOn "\n").filter (·.startsWith "processor")
    return if lines.isEmpty then 4 else lines.length
  catch _ => return 4

/-- Seeds for the samples, drawn anew. -/
def drawSeeds : IO Seeds := do
  let bytes ← IO.getRandomBytes 8
  let seed := bytes.foldl (fun n byte => n * 256 + byte.toUInt64) 0
  return fun request column => mixHash (mixHash seed (hash request)) (hash column)

/-- Takes a file or a folder into the picture, under given names. What
cannot be read is left out. -/
def takeIn (tree : FileTree) (names : Names) : IO FileTree := do
  try
    let full ← IO.FS.realPath ("/" ++ "/".intercalate names)
    if ← full.isDir then return tree.plant names .folder
    else return tree.plant names (.file (← IO.FS.readBinFile full).toList)
  catch _ => return tree

/-- Takes what a path leads to into the picture, and what is in it. -/
def takeInPath (tree : FileTree) (path : String) : IO FileTree := do
  let names := tree.namesOf path
  let tree ← takeIn tree names
  try
    let full ← IO.FS.realPath ("/" ++ "/".intercalate names)
    if ← full.isDir then
      (← full.readDir).foldlM (fun tree entry => takeIn tree (names ++ [entry.fileName])) tree
    else return tree
  catch _ => return tree

/-- **The picture of the files** that a command can look at. -/
def picture (command : Command) (defaults : Settings) : IO FileTree := do
  let home := (← IO.currentDir).toString
  let tree : FileTree := { home := (home.splitOn "/").filter (· != "") }
  let tree := tree.plant tree.home .folder
  let tree ← match outputOf command with
    | some output => do
      let tree ← takeIn tree (tree.namesOf (folderOf output))
      takeIn tree (tree.namesOf output)
    | none => pure tree
  match command with
  | .example _ => return tree
  | .folder request =>
    (planPaths { source := .folder request.folder request.delimiter, tables := request.tables })
      |>.foldlM takeInPath tree
  | .scan path _ =>
    let tree ← takeIn tree (tree.namesOf path)
    match ScanPlan.load defaults tree path with
    | .ok plan => (planPaths plan).foldlM takeInPath tree
    | .error _ => return tree

/-- Writes the file of a command as it is after following it. -/
def keep (command : Command) (effects : Effects) : IO Unit :=
  match outputOf command with
  | none => pure ()
  | some output =>
    match effects.tree.read output with
    | .ok content => IO.FS.writeBinFile output ⟨content.toArray⟩
    | .error _ => pure ()

/-- The links to servers of a machine that reaches none. -/
def unreachable : Servers := fun _ _ _ =>
  .error (.database "Error occurred while creating a new object: error connecting to server")

/-- What the program ends with after a fault. -/
def exitCode : PlanFault → UInt32
  | .brokenDown _ => 101
  | _ => 1

/-- **Follows a command** on the files of this machine. -/
def follow (command : Command) : IO UInt32 := do
  let defaults := Settings.ofProcessors (← processors)
  let effects := command.run defaults unreachable (← drawSeeds) (← picture command defaults)
  match effects.result with
  | .ok shown =>
    IO.print shown
    keep command effects
    return 0
  | .error fault =>
    IO.eprintln ("Error: " ++ fault.message)
    return exitCode fault

end TableProfile.Main

open TableProfile in
/-- **The program.** -/
def main (arguments : List String) : IO UInt32 := do
  match Command.parse arguments with
  | .ok command => Main.follow command
  | .error .help =>
    IO.print Main.usageText
    return 0
  | .error fault =>
    IO.eprint (Main.faultText fault)
    return 2
