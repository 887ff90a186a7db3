import TableProfile.Plan.Basic
import TableProfile.Scan.Setting
import TableProfile.Yaml.Reader

/-!
# Plans in YAML text

A plan is a record with a source, a list of tables and the settings of
the scan. The source is a record, too, and its entry `type` tells which
other entries it has. Entries of other names mean nothing, but no entry
may come twice.

How a scalar is taken depends on where it stands. Names of tables are
texts, however they are written. A setting is a number or a switch and
may not be quoted. The entries of a source are taken for what they look
like, so a number is no name of a folder unless it is quoted.
-/

namespace TableProfile

open Yaml

/-! ## Records -/

/-- The entries of a record under the names of its keys, which have to be
scalars. -/
def namedEntries? (entries : List (Node × Node)) : Option (List (String × Node)) :=
  entries.mapM fun (key, value) =>
    match key with
    | .scalar _ _ text => some (String.ofList text, value)
    | _ => none

/-- The entries with one of some names, unless one of them comes twice. -/
def known? (names : List String) (entries : List (String × Node)) :
    Option (List (String × Node)) :=
  let known := entries.filter (names.contains ·.1)
  if (known.map (·.1)).Nodup then some known else none

/-- The entries of a record, of which nothing need be written. -/
def recordEntries? : Node → Option (List (Node × Node))
  | .mapping _ entries => some entries
  | .scalar _ true [] => some []
  | _ => none

/-! ## Settings -/

/-- The settings with one of them as a scalar says it. -/
def Setting.assign? (setting : Setting) (s : Settings) : Node → Option Settings
  | .scalar _ true text =>
    match setting with
    | .whole _ least greatest _ put =>
      let n := if least < 0 then integer? text else (natural? text).map Int.ofNat
      (n.filter fun n => least ≤ n ∧ n ≤ greatest).map (put s)
    | .switch _ _ put => (flag? text).map (put s)
  | _ => none

/-- The setting of a name. -/
def Setting.named? (name : String) : Option Setting :=
  Setting.all.find? (·.name == name)

/-- **The settings in a node**; what is left out has its default. -/
def Settings.ofNode? (defaults : Settings) (node : Node) : Option Settings := do
  let entries ← recordEntries? node
  let entries ← namedEntries? entries
  let entries ← known? (Setting.all.map Setting.name) entries
  entries.foldlM (fun s (name, value) => do
    let setting ← Setting.named? name
    setting.assign? s value) defaults

/-! ## Sources -/

/-- Whether a tag names something of the language itself. -/
def isCore (tag : Option String) : Bool :=
  tag.all fun tag => !tag.startsWith "!"

/-- How many levels of lists and records there may be inside of a source. -/
def deepest : Nat := 126

mutual

/-- Whether every part of a node can be taken for something. There may be
so many levels of lists and records. -/
def isUnderstood (levels : Nat) : Node → Bool
  | .scalar tag isPlain text =>
    match kind? tag isPlain text with
    | none | some .hugeInteger => false
    | some _ => true
  | .sequence tag items => levels != 0 && isCore tag && areUnderstood (levels - 1) items
  | .mapping tag entries =>
    levels != 0 && isCore tag && entriesAreUnderstood (levels - 1) entries

/-- Whether all items can be taken for something. -/
def areUnderstood (levels : Nat) : List Node → Bool
  | [] => true
  | item :: rest => isUnderstood levels item && areUnderstood levels rest

/-- Whether all keys and values can be taken for something. -/
def entriesAreUnderstood (levels : Nat) : List (Node × Node) → Bool
  | [] => true
  | (key, value) :: rest =>
    isUnderstood levels key && isUnderstood levels value && entriesAreUnderstood levels rest

end

/-- The text of a node that is taken for a text. -/
def text? : Node → Option String
  | .scalar tag isPlain text =>
    match kind? tag isPlain text with
    | some (.text s) => some (String.ofList s)
    | _ => none
  | _ => none

/-- The character of a text of one. -/
def character? (node : Node) : Option Char := do
  match (← text? node).toList with
  | [c] => some c
  | _ => none

/-- Whether a node is taken for no value, or is a record of nothing. -/
def isNothing : Node → Bool
  | .scalar tag isPlain text => kind? tag isPlain text = some .null
  | .mapping _ entries => entries.isEmpty
  | .sequence .. => false

/-- The sampling method that a node names. -/
def samplingMethod? : Node → Option Sql.Sampling
  | .mapping _ [(key, value)] =>
    if isNothing value then text? key >>= Sql.Sampling.ofName? else none
  | node => text? node >>= Sql.Sampling.ofName?

/-- The name of a field: a text, or the position of the field. -/
def fieldName? (fields : List String) : Node → Option String
  | .scalar tag isPlain text =>
    match kind? tag isPlain text with
    | some (.text s) => some (String.ofList s)
    | some (.integer n) => if 0 ≤ n then some (fields[n.toNat]?.getD "") else none
    | _ => none
  | _ => none

/-- The values of fields, from entries with their names. -/
def fieldEntries? (fields : List String) (entries : List (Node × Node)) :
    Option (List (String × Node)) := do
  let named ← entries.mapM fun (key, value) => (fieldName? fields key).map (·, value)
  known? fields named

/-- The values of fields, from items in their order. -/
def fieldItems? (fields : List String) (items : List Node) : Option (List (String × Node)) :=
  if items.length ≤ fields.length then some (fields.zip items) else none

/-- A value that may be left out. -/
def optional? {α : Type} (read : Node → Option α) (fallback : α) : Option Node → Option α
  | some node => read node
  | none => some fallback

/-- The kinds of sources and their fields. -/
def sourceFields? : String → Option (List String)
  | "csv" => some ["folder", "delimiter"]
  | "postgres" => some ["connection_string", "schema", "sampling"]
  | _ => none

/-- The source of a kind with these values of its fields. -/
def SourcePlan.ofFields? (kind : String) (fields : List (String × Node)) :
    Option SourcePlan := do
  match kind with
  | "csv" =>
    let path ← fields.lookup "folder" >>= text?
    let delimiter ← optional? character? ',' (fields.lookup "delimiter")
    some (.folder path delimiter)
  | "postgres" =>
    let connection ← fields.lookup "connection_string" >>= text?
    let schema ← optional? text? "public" (fields.lookup "schema")
    let sampling ← optional? samplingMethod? .random (fields.lookup "sampling")
    some (.server { connection, schema, sampling })
  | _ => none

/-- Whether a key is the one that tells the kind of a source. -/
def isTypeKey (key : Node) : Bool :=
  text? key = some "type"

/-- **The source in a node**: a record, or a list of its kind and the
values of its fields. -/
def SourcePlan.ofNode? : Node → Option SourcePlan
  | .mapping tag entries => do
    let kinds := entries.filter (isTypeKey ·.1)
    let others := entries.filter (!isTypeKey ·.1)
    let kind ← match kinds with
      | [(_, .scalar _ _ kind)] => some (String.ofList kind)
      | _ => none
    let fields ← sourceFields? kind
    if isCore tag && entriesAreUnderstood deepest others then
      SourcePlan.ofFields? kind (← fieldEntries? fields others)
    else none
  | .sequence tag (.scalar _ _ kind :: items) => do
    let kind := String.ofList kind
    let fields ← sourceFields? kind
    if isCore tag && areUnderstood deepest items then
      SourcePlan.ofFields? kind (← fieldItems? fields items)
    else none
  | _ => none

/-! ## Plans -/

/-- The texts of a list. -/
def texts? : Node → Option (List String)
  | .sequence _ items => items.mapM fun item =>
      match item with
      | .scalar _ _ text => some (String.ofList text)
      | _ => none
  | .scalar _ true [] => some []
  | _ => none

/-- **The plan in a node.** -/
def ScanPlan.ofNode? (defaults : Settings) (node : Node) : Option ScanPlan := do
  let entries ← recordEntries? node
  let entries ← namedEntries? entries
  let entries ← known? ["source", "tables", "scan"] entries
  let source ← entries.lookup "source" >>= SourcePlan.ofNode?
  let tables ← optional? texts? [] (entries.lookup "tables")
  let settings ← optional? (Settings.ofNode? defaults) defaults (entries.lookup "scan")
  some { source, tables, settings }

/-- **The plan in a text.** -/
def ScanPlan.read? (defaults : Settings) (text : String) : Option ScanPlan :=
  Yaml.read? text >>= ScanPlan.ofNode? defaults

/-- **The plan in a file.** -/
def ScanPlan.load (defaults : Settings) (tree : Storage.FileTree) (path : String) :
    Except PlanFault ScanPlan :=
  match tree.read path with
  | .error _ => .error (.unreadable path)
  | .ok content =>
    match Text.Utf8.decode content with
    | .error _ => .error (.unreadable path)
    | .ok text =>
      match ScanPlan.read? defaults (String.ofList text) with
      | some plan => .ok plan
      | none => .error (.meaningless path)

end TableProfile
