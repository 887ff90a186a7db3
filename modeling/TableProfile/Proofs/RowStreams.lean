import TableProfile.Proofs.EncodedText
import TableProfile.Source.DelimitedFolder
import TableProfile.Source.Shelf

/-!
# Rows that are read and rows that are asked for

The rows of a delimited file are read one by one, with an eye on how many were asked
for. What comes of it can be said without that: it is what would come of reading
everything, cut to so many answers (`rows_of_read`). For the rest of the file is not
looked at until it is wanted, and what is read of it does not depend on the limit.

An error is an answer as well. One that would come behind the last row that is asked
for is never met.
-/

namespace TableProfile

/-- **The answers that are looked for**: so many of the rows, or all of
them. -/
def Rows.upTo (limit : Option Nat) (rows : Rows) : Rows :=
  match limit with
  | none => rows
  | some n => rows.take n

theorem Rows.upTo_nil (limit : Option Nat) : Rows.upTo limit [] = [] := by
  cases limit with
  | none => rfl
  | some n => exact List.take_nil

/-- Where the limit is reached, no more answers are looked for. -/
theorem Rows.upTo_of_reached {limit : Option Nat} {read : Nat}
    (h : limit.any (· ≤ read) = true) (rows : Rows) : rows.upTo (limit.map (· - read)) = [] := by
  cases limit with
  | none => cases h
  | some n =>
    have hle : n ≤ read := of_decide_eq_true h
    show rows.take (n - read) = []
    rw [Nat.sub_eq_zero_of_le hle]
    rfl

/-- Where it is not, the next answer is looked for. -/
theorem Rows.upTo_cons {limit : Option Nat} {read : Nat} (h : ¬ limit.any (· ≤ read) = true)
    (answer : Answer Row) (rest : Rows) :
    Rows.upTo (limit.map (· - read)) (answer :: rest)
      = answer :: rest.upTo (limit.map (· - (read + 1))) := by
  cases limit with
  | none => rfl
  | some n =>
    have hlt : read < n := Nat.not_le.mp fun hle => h (decide_eq_true hle)
    show List.take (n - read) (answer :: rest) = _
    rw [show n - read = n - (read + 1) + 1 by omega]
    rfl

namespace Delimited

open Text

/-- The fields of a record as they stand in a file without quotes. -/
def rawFields (record : Row) : List RawField :=
  record.map fun field => Utf8.bytesOf field.toList

end Delimited

namespace DelimitedFolder

open Delimited Storage Text

variable (source : DelimitedFolder) (table : String) (content : List UInt8)

/-- The answers to the reading of records from one number on, up to the first that
cannot be read. -/
def rowsFrom (table : String) (content : List UInt8) (number : Nat) : List Located → Rows
  | [] => []
  | record :: rest =>
    match readRow content number record with
    | .ok row => .value row :: rowsFrom table content (number + 1) rest
    | .error fault => [.failure (.source table s!"row {number}: {fault.message}")]

/-- **All rows of a file.** -/
def allRows (source : DelimitedFolder) (table : String) (content : List UInt8) : Rows :=
  rowsFrom table content 1 (source.recordsOf content).tail

/-! ## Rows of text -/

/-- The fields of a record are well-formed text. -/
theorem textFields_rawFields (position : Nat) (record : Row) :
    textFields position (rawFields record) = .ok record := by
  induction record generalizing position with
  | nil => rfl
  | cons field record ih =>
    show textFields position (Utf8.bytesOf field.toList :: rawFields record) = _
    rw [textFields, Utf8.decode_bytesOf]
    dsimp only
    rw [ih, String.ofList_toList]
    rfl

theorem readRow_of_fields {content : List UInt8} {number : Nat} {located : Located} {record : Row}
    (h : located.fields = rawFields record) : readRow content number located = .ok record := by
  unfold readRow
  rw [h, textFields_rawFields]

/-- **Records of well-formed text** are all there as rows. -/
theorem rowsFrom_of_fields {table : String} {content : List UInt8} {number : Nat}
    {located : List Located} {rows : List Row}
    (h : located.map (·.fields) = rows.map rawFields) :
    rowsFrom table content number located = rows.map .value := by
  induction rows generalizing number located with
  | nil =>
    rw [List.map_eq_nil_iff.mp h]
    rfl
  | cons row rows ih =>
    obtain ⟨first, rest, rfl, hfirst, hrest⟩ := List.map_eq_cons_iff.mp h
    rw [rowsFrom, readRow_of_fields hfirst]
    dsimp only
    rw [ih hrest]
    rfl

/-! ## Reading on -/

theorem records_of_none {delimiter : UInt8} {bytes : List UInt8}
    (h : record? delimiter bytes = none) : records delimiter bytes = [] := by
  rw [records]
  split
  · rfl
  · rename_i heq
    cases h.symm.trans heq

theorem records_of_some {delimiter : UInt8} {bytes rest : List UInt8} {fields : List RawField}
    (h : record? delimiter bytes = some (fields, rest)) :
    records delimiter bytes = ⟨fields, bytes⟩ :: records delimiter rest := by
  rw [records]
  split
  · rename_i heq
    cases h.symm.trans heq
  · rename_i heq
    cases h.symm.trans heq
    rfl

/-- **Reading on comes to all the rest**, as far as it is asked for. -/
theorem readOn_eq_upTo (limit : Option Nat) (read : Nat) (bytes : List UInt8) :
    source.readOn table content limit read bytes
      = (rowsFrom table content (read + 1) (records source.delimiter bytes)).upTo
        (limit.map (· - read)) := by
  fun_induction readOn source table content limit read bytes with
  | case1 read bytes reached => exact (Rows.upTo_of_reached reached _).symm
  | case2 read bytes wanted hnone =>
    rw [records_of_none hnone]
    exact (Rows.upTo_nil _).symm
  | case3 read bytes wanted fields rest hsome row hrow ih =>
    rw [records_of_some hsome, rowsFrom, hrow]
    dsimp only
    rw [Rows.upTo_cons wanted, ih]
  | case4 read bytes wanted fields rest hsome fault hfault =>
    rw [records_of_some hsome, rowsFrom, hfault]
    dsimp only
    rw [Rows.upTo_cons wanted, Rows.upTo_nil]

/-- **A stream is what there is**, as far as it is asked for. -/
theorem stream_eq_upTo (limit : Option Nat) :
    source.stream table content limit = (source.allRows table content).upTo limit := by
  unfold stream allRows recordsOf
  have hlimit : limit.map (· - 0) = limit := Option.map_id'
  split
  · rename_i hnone
    rw [records_of_none hnone]
    exact (Rows.upTo_nil limit).symm
  · rename_i hsome
    rw [records_of_some hsome, List.tail_cons, readOn_eq_upTo, hlimit]

variable {source table content}

/-- **The rows of a file** that can be opened. -/
theorem rows_of_read {tree : FileTree} (h : tree.read (source.pathOf table) = .ok content)
    (limit : Option Nat) :
    source.rows tree table limit = .ok ((source.allRows table content).upTo limit) := by
  unfold rows
  rw [h]
  exact congrArg Except.ok (source.stream_eq_upTo table content limit)

end DelimitedFolder

end TableProfile
