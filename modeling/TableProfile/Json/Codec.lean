import TableProfile.Json.Tree
import TableProfile.Json.Value

/-!
# Reading and writing typed values

A codec says how values of a type are written and how they are read from
the tree of a text. A record is described by its fields, in the order in
which they are written. It is read from a JSON record, whose members may
come in any order, or from a list, whose items are the fields in order.

Members with unknown keys are passed over. A known key that comes twice
is a fault, and so is a missing field that has to be there. All faults
are met in the order of the text.
-/

namespace TableProfile.Json

open Number

/-- **How values of a type are written and read.** -/
structure Codec (α : Type) where
  /-- The value to be written. -/
  encode : α → Value
  /-- The value in a tree. -/
  decode : Tree → Except Fault α

/-- The fault of a tree that holds another kind of value than the one
asked for. A scalar is read before its kind is looked at. -/
def Tree.mismatch : Tree → Fault
  | .number literal => if literal.quantity?.isNone then .syntaxError else .dataError
  | .text none => .syntaxError
  | .broken why => why.read
  | _ => .dataError

namespace Codec

/-- Whole numbers between two bounds. -/
def integer (least greatest : Int) : Codec Int where
  encode := .integer
  decode
    | .number literal =>
      match literal.quantity? with
      | some (.integer n) => if least ≤ n ∧ n ≤ greatest then .ok n else .error .dataError
      | some (.float _) => .error .dataError
      | none => .error .syntaxError
    | tree => .error tree.mismatch

/-- Whole numbers of sixty-four bits with a sign. -/
def int64 : Codec Int :=
  integer (-int64Limit) (int64Limit - 1)

/-- Natural numbers of sixty-four bits. -/
def nat64 : Codec Nat where
  encode n := .integer n
  decode tree := ((integer 0 (UInt64.size - 1)).decode tree).map Int.toNat

/-- Floats, which may be written as whole numbers. -/
def number : Codec Float where
  encode := .number
  decode
    | .number literal =>
      match literal.quantity? with
      | some quantity => .ok quantity.toFloat
      | none => .error .syntaxError
    | tree => .error tree.mismatch

/-- True or false. -/
def flag : Codec Bool where
  encode := .flag
  decode
    | .flag b => .ok b
    | tree => .error tree.mismatch

/-- Texts. -/
def text : Codec String where
  encode := .text
  decode
    | .text (some content) => .ok (String.ofList content)
    | tree => .error tree.mismatch

/-- A value or none. -/
def optional {α : Type} (codec : Codec α) : Codec (Option α) where
  encode
    | some a => codec.encode a
    | none => .null
  decode
    | .null => .ok none
    | tree => (codec.decode tree).map some

end Codec

/-- The items of a list. -/
def decodeItems {α : Type} (decode : Tree → Except Fault α) : Items → Except Fault (List α)
  | .closed => .ok []
  | .cut fault => .error fault
  | .item head tail => do
    let a ← decode head
    let rest ← decodeItems decode tail
    return a :: rest

/-- Lists. -/
def Codec.list {α : Type} (codec : Codec α) : Codec (List α) where
  encode items := .list (items.map codec.encode)
  decode
    | .list items => decodeItems codec.decode items
    | tree => .error tree.mismatch

/-! ## Records -/

/-- **A field of a record.** -/
structure Field (α : Type) where
  /-- The key. -/
  name : String
  /-- Whether the field has to be there. -/
  required : Bool
  /-- The value to be written. -/
  encode : α → Value
  /-- The record with its field read from a tree. -/
  decode : α → Tree → Except Fault α

/-- A field that has to be there. -/
def Field.of {α β : Type} (name : String) (codec : Codec β) (get : α → β)
    (put : α → β → α) : Field α where
  name
  required := true
  encode a := codec.encode (get a)
  decode a tree := (codec.decode tree).map (put a)

/-- A field that may be left out. -/
def Field.optional {α β : Type} (name : String) (codec : Codec β) (get : α → β)
    (put : α → β → α) : Field α :=
  { Field.of name codec get put with required := false }

/-- **A record type**: its fields in order, and the record that they are
put into. -/
structure RecordType (α : Type) where
  /-- The fields. -/
  fields : List (Field α)
  /-- The record before any field is read. -/
  blank : α
  /-- Whether a list of items may be shorter than the list of fields. -/
  mayBeShort : Bool

namespace RecordType

variable {α : Type}

/-- The field of a key. -/
def field? (type : RecordType α) (key : List Char) : Option (Field α) :=
  type.fields.find? (·.name.toList == key)

/-- **Reads members**; `seen` are the names of the fields that are read
already. -/
def decodeMembers (type : RecordType α) (seen : List String) (a : α) :
    Members → Except Fault α
  | .closed =>
    if type.fields.all fun field => !field.required || seen.contains field.name then .ok a
    else .error .dataError
  | .cut why => .error why.read
  | .member none _ _ => .error .syntaxError
  | .member (some key) value tail =>
    match type.field? key with
    | none =>
      match value.skipFault? with
      | some fault => .error fault
      | none => type.decodeMembers seen a tail
    | some field =>
      if seen.contains field.name then .error .dataError
      else do
        let a ← field.decode a value
        type.decodeMembers (field.name :: seen) a tail

/-- Reads items as the fields in order. -/
def decodePositions (mayBeShort : Bool) (fields : List (Field α)) (a : α) :
    Items → Except Fault α
  | .closed => if fields.isEmpty || mayBeShort then .ok a else .error .dataError
  | .cut fault => .error fault
  | .item head tail =>
    match fields with
    | [] => .error .syntaxError
    | field :: fields => do
      let a ← field.decode a head
      decodePositions mayBeShort fields a tail

/-- **How a record type is written and read.** -/
def codec (type : RecordType α) : Codec α where
  encode a := .record (type.fields.map fun field => (field.name, field.encode a))
  decode
    | .record members => type.decodeMembers [] type.blank members
    | .list items => decodePositions type.mayBeShort type.fields type.blank items
    | tree => .error tree.mismatch

end RecordType

/-! ## Whole texts -/

namespace Codec

/-- **Reads a text**, which has to hold one value and nothing else. -/
def read {α : Type} (codec : Codec α) (text : String) : Except Fault α := do
  let (tree, rest) := readValue text.toList
  let a ← codec.decode tree
  match rest with
  | some rest => if skipBlanks rest.1 = [] then .ok a else .error .syntaxError
  | none => .error .syntaxError

/-- **Writes a value.** -/
def write {α : Type} (codec : Codec α) (a : α) : String :=
  (codec.encode a).render

end Codec

end TableProfile.Json
