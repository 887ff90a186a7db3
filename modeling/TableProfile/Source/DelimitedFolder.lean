import TableProfile.Delimited.LineCount
import TableProfile.Source.Table
import TableProfile.Storage.FileTree
import TableProfile.Text.Utf8

/-!
# A folder of delimited files

Each delimited file of a folder is a table that has the name of the file.
The first record names the columns and the other records are the rows,
whatever their number of fields. They are read one by one, and no more of
them than are asked for. A record with a field that is not well-formed
text ends the rows with an error; in the header it matters only when the
columns are asked for.

The position in such an error is the place where the reader stood before
it read the record. For the first two records that is the beginning of
the file.
-/

namespace TableProfile

open Storage Delimited Text

/-- **A folder of delimited files.** -/
structure DelimitedFolder where
  /-- The path of the folder. -/
  folder : String
  /-- The byte between fields. -/
  delimiter : UInt8 := 0x2c
  /-- The endings of the names of delimited files, in any letter case. -/
  extensions : List String := ["csv", "txt", "tsv"]
  deriving DecidableEq, Repr

/-- **A field that is not well-formed text.** -/
structure FieldFault where
  /-- The number of the record, the header and the first row having zero. -/
  record : Nat
  /-- The line at which the record was looked for. -/
  line : Nat
  /-- The byte at which the record was looked for. -/
  byte : Nat
  /-- The position of the field in its record. -/
  field : Nat
  /-- The number of bytes of the field that are well formed. -/
  valid : Nat
  deriving DecidableEq, Repr

/-- The wording of the fault. -/
def FieldFault.message (fault : FieldFault) : String :=
  s!"CSV parse error: record {fault.record} (line {fault.line}, field: {fault.field}, " ++
  s!"byte: {fault.byte}): invalid utf-8: invalid UTF-8 in field {fault.field} " ++
  s!"near byte index {fault.valid}"

namespace DelimitedFolder

/-- The ending of the name of a file: what follows its last dot, unless
that dot is its first character. -/
def extension? (name : String) : Option String :=
  match (name.splitOn ".").reverse with
  | last :: first :: rest => if first = "" ∧ rest = [] then none else some last
  | _ => none

/-- Whether the name of a file has one of the endings. -/
def isTable (source : DelimitedFolder) (name : String) : Bool :=
  match extension? name with
  | some ending => source.extensions.any fun x => x.toLower == ending.toLower
  | none => false

/-- The fields of a record as text, or the position of the first that is
none and the length of its well-formed beginning. -/
def textFields (position : Nat) : List RawField → Except (Nat × Nat) Row
  | [] => .ok []
  | field :: fields =>
    match Utf8.decode field with
    | .error valid => .error (position, valid)
    | .ok text => (textFields (position + 1) fields).map (String.ofList text :: ·)

/-- The record of a number as a row. `content` is the whole file. -/
def readRow (content : List UInt8) (number : Nat) (record : Located) : Except FieldFault Row :=
  match textFields 0 record.fields with
  | .ok row => .ok row
  | .error (field, valid) =>
    .error <| if number ≤ 1 then { record := 0, line := 1, byte := 0, field, valid }
      else
        let consumed := content.length - record.source.length
        let lines := (content.take consumed).countP (· == 0x0a)
        { record := number, line := 1 + lines, byte := consumed, field, valid }

/-- The records of a file, the header first. -/
def recordsOf (source : DelimitedFolder) (content : List UInt8) : List Located :=
  records source.delimiter (skipByteOrderMark content)

/-- The header of a file; a file without records has an empty one. -/
def header (source : DelimitedFolder) (content : List UInt8) : Except FieldFault Row :=
  match source.recordsOf content with
  | [] => .ok []
  | first :: _ => readRow content 0 first

/-- **Reads on**, when so many rows have been read and these bytes are left:
one record after the other, until there are enough rows or no more records,
or a record cannot be read. -/
def readOn (source : DelimitedFolder) (table : String) (content : List UInt8)
    (limit : Option Nat) (read : Nat) (bytes : List UInt8) : Rows :=
  if limit.any (· ≤ read) then []
  else
    match _h : record? source.delimiter bytes with
    | none => []
    | some (fields, rest) =>
      match readRow content (read + 1) ⟨fields, bytes⟩ with
      | .ok row => .value row :: source.readOn table content limit (read + 1) rest
      | .error fault => [.failure (.source table s!"row {read + 1}: {fault.message}")]
termination_by bytes.length
decreasing_by exact length_of_record? _h

/-- **The rows of a file**: the records behind the header, at most so many. -/
def stream (source : DelimitedFolder) (table : String) (content : List UInt8)
    (limit : Option Nat) : Rows :=
  match record? source.delimiter (skipByteOrderMark content) with
  | none => []
  | some (_, rest) => source.readOn table content limit 0 rest

/-- The path of a table. -/
def pathOf (source : DelimitedFolder) (table : String) : String :=
  joinPath source.folder table

/-- The names of the tables, in ascending order. -/
def tables (source : DelimitedFolder) (tree : FileTree) : Except ProfileError (List String) :=
  match tree.list source.folder with
  | .error fault => .error (.io fault.message)
  | .ok entries => .ok (entries.filterMap fun (name, entry) =>
      match entry with
      | .file _ => if source.isTable name then some name else none
      | .folder => none)

/-- The columns of a table. -/
def columns (source : DelimitedFolder) (tree : FileTree) (table : String) :
    Except ProfileError (List ColumnHeader) :=
  match tree.read (source.pathOf table) with
  | .error fault => .error (.csv fault.message)
  | .ok content =>
    match source.header content with
    | .ok names => .ok (names.map ({ name := · }))
    | .error fault => .error (.csv fault.message)

/-- The estimated number of rows of a table. -/
def rowCount (source : DelimitedFolder) (tree : FileTree) (table : String) :
    Except ProfileError (Option Int) :=
  match tree.read (source.pathOf table) with
  | .error fault => .error (.io fault.message)
  | .ok content => .ok (some (Delimited.rowCount content))

/-- **The rows of a table.** A folder can be opened like a file, and fails
when its first row is read. -/
def rows (source : DelimitedFolder) (tree : FileTree) (table : String) (limit : Option Nat) :
    Except ProfileError Rows :=
  match tree.read (source.pathOf table) with
  | .error .isFolder =>
    .ok (if limit.any (· ≤ 0) then []
      else [.failure (.source table s!"row 1: {PathFault.isFolder.message}")])
  | .error fault => .error (.csv fault.message)
  | .ok content => .ok (source.stream table content limit)

/-- **The folder as a source.** -/
def toSource (source : DelimitedFolder) (tree : FileTree) : Source where
  tables := source.tables tree
  columns table := .ofExcept (source.columns tree table)
  rowCount table := .ofExcept (source.rowCount tree table)
  rows table limit := .ofExcept (source.rows tree table limit)

end DelimitedFolder

end TableProfile
