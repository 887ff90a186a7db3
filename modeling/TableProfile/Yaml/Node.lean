import TableProfile.Number.Decimal
import TableProfile.Number.Digits

/-!
# YAML nodes

What a YAML text says, without the way in which it says it: scalars,
lists and records, the latter with their entries in order, and keys that
may be any node. Scalars are texts; those without quotes may be taken for
something else, and which of them are is decided here.

A number is taken for one when it is a whole number in one of four bases
or a float. A whole number of several decimal digits that begins with a
zero is a text.
-/

namespace TableProfile.Yaml

open Number

/-- **A node.** -/
inductive Node where
  /-- A scalar, written without quotes or with. -/
  | scalar (tag : Option String) (isPlain : Bool) (text : List Char)
  /-- A list. -/
  | sequence (tag : Option String) (items : List Node)
  /-- A record. -/
  | mapping (tag : Option String) (entries : List (Node × Node))

/-- The node that is not written at all. -/
def Node.empty : Node :=
  .scalar none true []

/-- The node with a tag. -/
def Node.tagged (tag : Option String) : Node → Node
  | .scalar old isPlain text => .scalar (tag.or old) isPlain text
  | .sequence old items => .sequence (tag.or old) items
  | .mapping old entries => .mapping (tag.or old) entries

/-- The tag of a node. -/
def Node.tag? : Node → Option String
  | .scalar tag .. | .sequence tag _ | .mapping tag _ => tag

/-! ## Numbers -/

/-- The number that one or more digits of a base write. -/
def inBase? (base : Nat) (digits : List Char) : Option Nat :=
  if digits.isEmpty then none
  else numberIn? base digits

/-- Whether a text is a zero and further decimal digits. -/
def hasLeadingZero (s : List Char) : Bool :=
  match s with
  | '0' :: c :: rest => (c :: rest).all Char.isDigit
  | _ => false

/-- A whole number without a sign. -/
def magnitude? : List Char → Option Nat
  | '0' :: 'x' :: digits => inBase? 16 digits
  | '0' :: 'o' :: digits => inBase? 8 digits
  | '0' :: 'b' :: digits => inBase? 2 digits
  | s => if hasLeadingZero s then none else inBase? 10 s

/-- **A natural number**, with a plus sign or without. -/
def natural? : List Char → Option Nat
  | '+' :: s => magnitude? s
  | s => magnitude? s

/-- **A whole number**, with a sign or without. -/
def integer? : List Char → Option Int
  | '-' :: s => (magnitude? s).map fun n => -(n : Int)
  | s => (natural? s).map Int.ofNat

/-- True or false. -/
def flag? (s : List Char) : Option Bool :=
  let word := String.ofList s
  if word ∈ ["true", "True", "TRUE"] then some true
  else if word ∈ ["false", "False", "FALSE"] then some false
  else none

/-- Whether a text stands for no value. -/
def isNull (s : List Char) : Bool :=
  String.ofList s ∈ ["", "~", "null", "Null", "NULL"]

/-- The text without a plus sign, unless a second sign follows it. -/
def withoutPlus? : List Char → Option (List Char)
  | '+' :: c :: rest => if c = '+' ∨ c = '-' then none else some (c :: rest)
  | '+' :: [] => some []
  | s => some s

/-- Whether a text is a float. -/
def isFloat (s : List Char) : Bool :=
  let infinities := [".inf", ".Inf", ".INF"]
  let word := String.ofList s
  (match withoutPlus? s with
    | some rest =>
      String.ofList rest ∈ infinities
        || (!hasLeadingZero (Decimal.splitSign s).2 && (finite? rest).isSome)
    | none => false)
    || word ∈ infinities.map ("-" ++ ·) || word ∈ [".nan", ".NaN", ".NAN"]

/-! ## Kinds of scalars -/

/-- **What a scalar is taken for.** -/
inductive Kind where
  /-- No value. -/
  | null
  /-- True or false. -/
  | flag (b : Bool)
  /-- A whole number of sixty-four bits. -/
  | integer (n : Int)
  /-- A whole number of more bits, which nothing can hold. -/
  | hugeInteger
  /-- A float. -/
  | float
  /-- A text. -/
  | text (s : List Char)
  deriving DecidableEq, Repr

/-- The first natural number that a signed word of 128 bits does not hold. -/
def hugeLimit : Int := 0x80000000000000000000000000000000

/-- What a scalar without quotes is taken for. -/
def plainKind (s : List Char) : Kind :=
  if isNull s then .null
  else match flag? s with
    | some b => .flag b
    | none =>
      match integer? s with
      | some n =>
        if -int64Limit ≤ n ∧ n < UInt64.size then .integer n
        else if -hugeLimit ≤ n ∧ n < 2 * hugeLimit then .hugeInteger
        else if isFloat s then .float else .text s
      | none => if isFloat s then .float else .text s

/-- The beginning of the tags that name the kinds of this language. -/
def coreTag : String := "tag:yaml.org,2002:"

/-- What a scalar with a tag of the language is taken for, unless its text
does not fit the tag. -/
def taggedKind? (kind : String) (s : List Char) : Option Kind :=
  match kind, plainKind s with
  | "null", .null => if s.isEmpty then none else some .null
  | "bool", .flag b => some (.flag b)
  | "int", .integer n => some (.integer n)
  | "float", _ => if (finite? s).isSome || isFloat s then some .float else none
  | "null", _ | "bool", _ | "int", _ => none
  | _, _ => some (.text s)

/-- **What a scalar is taken for** where any kind may stand; a tag of
another language is not understood. -/
def kind? (tag : Option String) (isPlain : Bool) (s : List Char) : Option Kind :=
  match tag with
  | none => some (if isPlain then plainKind s else .text s)
  | some tag =>
    if tag.startsWith coreTag then taggedKind? (tag.drop coreTag.length).toString s
    else if tag.startsWith "!" then none
    else some (.text s)

end TableProfile.Yaml
