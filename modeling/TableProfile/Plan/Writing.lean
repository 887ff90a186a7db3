import TableProfile.Plan.Basic
import TableProfile.Scan.Setting
import TableProfile.Yaml.Reader

/-!
# Plans as YAML text

A plan is written with one entry on each line. A text that can stand
without quotes stands without them; any other stands between single
quotes, or between double quotes if it has characters that cannot be
seen.
-/

namespace TableProfile

/-- Whether a character needs no quotes, wherever it stands. -/
def isPlainCharacter (c : Char) : Bool :=
  c.isAlphanum ∨ c = '.' ∨ c = '/' ∨ c = '_'

/-- Whether a text is read back when it is written without quotes. -/
def needsNoQuotes (s : List Char) : Bool :=
  !s.isEmpty && s.all isPlainCharacter && Yaml.plainKind s == .text s

/-- Whether a character can stand between single quotes. -/
def isVisible (c : Char) : Bool :=
  Yaml.isAllowed c && 0x20 ≤ c.toNat && c.toNat ≠ 0x85 && c.toNat ≠ 0xfeff

/-- So many hexadecimal digits of a number. -/
def hexadecimalDigits (count n : Nat) : List Char :=
  (List.range count).map fun i => Nat.digitChar ((n >>> (4 * (count - 1 - i))) % 16)

/-- A character between double quotes. -/
def doubleQuoted (c : Char) : List Char :=
  if c = '"' ∨ c = '\\' then ['\\', c]
  else if isVisible c then [c]
  else ['\\', 'U'] ++ hexadecimalDigits 8 c.toNat

/-- A character between single quotes. -/
def singleQuoted (c : Char) : List Char :=
  if c = '\'' then ['\'', '\''] else [c]

/-- **A text as a scalar.** -/
def scalarText (s : String) : String :=
  let characters := s.toList
  if needsNoQuotes characters then s
  else if characters.all isVisible then
    "'" ++ String.ofList (characters.flatMap singleQuoted) ++ "'"
  else "\"" ++ String.ofList (characters.flatMap doubleQuoted) ++ "\""

/-- The entries of a source. -/
def SourcePlan.entries : SourcePlan → List (String × String)
  | folder path delimiter =>
    [("type", "csv"), ("folder", scalarText path), ("delimiter", scalarText delimiter.toString)]
  | server schema =>
    [("type", "postgres"), ("connection_string", scalarText schema.connection),
      ("schema", scalarText schema.schema), ("sampling", schema.sampling.name)]

/-- A setting as an entry. -/
def Setting.entry (setting : Setting) (s : Settings) : String × String :=
  match setting with
  | .whole name _ _ get _ => (name, toString (get s))
  | .switch name get _ => (name, if get s then "true" else "false")

/-- A record inside of a plan. -/
def entryLines (name : String) (entries : List (String × String)) : String :=
  name ++ ":\n" ++ String.join (entries.map fun (key, value) =>
    "  " ++ key ++ ": " ++ value ++ "\n")

/-- The tables of a plan. -/
def tableLines (tables : List String) : String :=
  if tables.isEmpty then "tables: []\n"
  else "tables:\n" ++ String.join (tables.map fun table => "- " ++ scalarText table ++ "\n")

/-- **The text of a plan.** -/
def ScanPlan.write (plan : ScanPlan) : String :=
  entryLines "source" plan.source.entries ++ tableLines plan.tables
    ++ entryLines "scan" (Setting.all.map (·.entry plan.settings))

end TableProfile
