/-!
# Records of delimited text

A delimited text is a sequence of records, each a sequence of fields.
Fields end at a delimiter and records at a line break, which is a line
feed or a carriage return; line breaks that stand before a record are
passed over, so that empty lines are no records and the two characters of
a line end count once. A byte-order mark in front of everything is
dropped.

A quote at the very beginning of a field opens quoted text, in which
delimiters and line breaks are ordinary, and two quotes stand for one. A
quote that is followed by anything else closes the quoted text; what then
follows up to the end of the field belongs to the field as it stands,
further quotes included. Quoted text that is never closed extends to the
end of everything.

Reading looks at bytes. Whether a field is well-formed text is a later
question, and fields may differ in number from record to record.
-/

namespace TableProfile.Delimited

/-- A field as it stands in a file. -/
abbrev RawField := List UInt8

/-- The quotation mark. -/
def quote : UInt8 := 0x22

/-- A line feed or a carriage return. -/
def isLineBreak (b : UInt8) : Bool :=
  b == 0x0a || b == 0x0d

/-- **Where in a field the reader is.** -/
inductive Place where
  /-- At its beginning, where a quote opens quoted text. -/
  | start
  /-- In plain text, where quotes are ordinary. -/
  | plain
  /-- In quoted text. -/
  | quoted
  /-- After a quote in quoted text, which may be the first of two. -/
  | closing
  deriving DecidableEq, Repr

/-- **The fields of a record and the bytes after it.** `field` is what has
been read of the current field, from right to left. -/
def fieldsFrom (delimiter : UInt8) (place : Place) (field : List UInt8) :
    List UInt8 → List RawField × List UInt8
  | [] => ([field.reverse], [])
  | b :: rest =>
    let take (place : Place) := fieldsFrom delimiter place (b :: field) rest
    let plain (_ : PUnit) :=
      if b = delimiter then
        let (fields, after) := fieldsFrom delimiter .start [] rest
        (field.reverse :: fields, after)
      else if isLineBreak b then ([field.reverse], rest)
      else take .plain
    match place with
    | .start => if b = quote then fieldsFrom delimiter .quoted field rest else plain ()
    | .plain => plain ()
    | .quoted => if b = quote then fieldsFrom delimiter .closing field rest else take .quoted
    | .closing => if b = quote then take .quoted else plain ()

/-- The bytes after a record are fewer than those it is read from, unless
there are none. -/
theorem length_fieldsFrom_snd_le (delimiter : UInt8) (place : Place) (field bytes : List UInt8) :
    (fieldsFrom delimiter place field bytes).2.length ≤ bytes.length - 1 := by
  induction bytes generalizing place field with
  | nil => simp [fieldsFrom]
  | cons b rest ih =>
    have step (place field) : (fieldsFrom delimiter place field rest).2.length ≤ rest.length :=
      Nat.le_trans (ih place field) (Nat.sub_le _ _)
    simp only [List.length_cons, Nat.add_sub_cancel]
    cases place <;> simp only [fieldsFrom] <;> repeat' split
    all_goals first | exact step _ _ | exact Nat.le_refl _

/-- The bytes without the line breaks in front of them. -/
def skipLineBreaks (bytes : List UInt8) : List UInt8 :=
  bytes.dropWhile isLineBreak

/-- **The first record and the bytes after it**, if there is a record. -/
def record? (delimiter : UInt8) (bytes : List UInt8) : Option (List RawField × List UInt8) :=
  match skipLineBreaks bytes with
  | [] => none
  | bytes => some (fieldsFrom delimiter .start [] bytes)

/-- A record uses up bytes. -/
theorem length_of_record? {delimiter : UInt8} {bytes : List UInt8} {fields : List RawField}
    {rest : List UInt8} (h : record? delimiter bytes = some (fields, rest)) :
    rest.length < bytes.length := by
  have fewer : (skipLineBreaks bytes).length ≤ bytes.length :=
    (List.dropWhile_sublist isLineBreak).length_le
  unfold record? at h
  split at h
  · simp at h
  · rename_i nonempty
    simp only [Option.some.injEq] at h
    have used := length_fieldsFrom_snd_le delimiter .start [] (skipLineBreaks bytes)
    have some := List.length_pos_iff.2 nonempty
    rw [h] at used
    simp only at used
    omega

/-- A record together with the bytes that were left before it was read. -/
structure Located where
  /-- The fields of the record. -/
  fields : List RawField
  /-- The bytes from the end of the record before. -/
  source : List UInt8
  deriving DecidableEq, Repr

/-- **All records.** -/
def records (delimiter : UInt8) (bytes : List UInt8) : List Located :=
  match _h : record? delimiter bytes with
  | none => []
  | some (fields, rest) => ⟨fields, bytes⟩ :: records delimiter rest
termination_by bytes.length
decreasing_by exact length_of_record? _h

/-- The byte-order mark. -/
def byteOrderMark : List UInt8 := [0xef, 0xbb, 0xbf]

/-- The bytes without a byte-order mark in front. -/
def skipByteOrderMark (bytes : List UInt8) : List UInt8 :=
  if byteOrderMark.isPrefixOf bytes then bytes.drop 3 else bytes

end TableProfile.Delimited
