import Mathlib.Order.Basic
import TableProfile.Proofs.RowCount

/-!
# A limit cuts the rows short

Whoever asks for so many rows of a table gets the beginning of what he would get if he
asked for all of them. A folder of files keeps to this by counting while it reads, and a
shelf of tables by cutting its list.

Of a file this says which answers come. They are those to the records behind the header,
in order, and none comes behind one that cannot be read (`DelimitedFolder.IsStreamOf`).
So a record that cannot be read is told of with its number if it is among those that are
asked for, and not met otherwise.
-/

namespace TableProfile

/-- An answer is delivered if it is there and asked for. -/
theorem Rows.getElem?_upTo {rows : Rows} {limit : Option Nat} {k : Nat} {answer : Answer Row} :
    (rows.upTo limit)[k]? = some answer
      ↔ (∀ n ∈ limit, k < n) ∧ rows[k]? = some answer := by
  cases limit with
  | none => simp [Rows.upTo]
  | some n => simp [Rows.upTo, List.getElem?_take]

theorem Rows.length_upTo_le {rows : Rows} {limit : Option Nat} {n : Nat} (h : n ∈ limit) :
    (rows.upTo limit).length ≤ n := by
  obtain rfl := Option.mem_def.mp h
  exact List.length_take_le n rows

theorem Rows.upTo_of_length_le {rows : Rows} {limit : Option Nat}
    (h : ∀ n ∈ limit, rows.length ≤ n) : rows.upTo limit = rows := by
  cases limit with
  | none => rfl
  | some n => exact List.take_of_length_le (h n rfl)

namespace DelimitedFolder

open Delimited Storage

variable {source : DelimitedFolder} {table : String} {content : List UInt8}

/-- **The answer to the reading of a record.** -/
def answer (table : String) (content : List UInt8) (number : Nat) (record : Located) :
    Answer Row :=
  match readRow content number record with
  | .ok row => .value row
  | .error fault => .failure (.source table s!"row {number}: {fault.message}")

/-- **The answers to the records behind the header** of a file, in order, as far as they
are asked for and up to the first that cannot be read. The header has the number zero. -/
structure IsStreamOf (source : DelimitedFolder) (table : String) (content : List UInt8)
    (limit : Option Nat) (answers : Rows) : Prop where
  /-- No more answers come than are asked for. -/
  length_le : ∀ n ∈ limit, answers.length ≤ n
  /-- An answer comes if it is asked for, if there is a record of its number, and if all
  records before it can be read. -/
  getElem?_iff : ∀ k given, answers[k]? = some given ↔ (∀ n ∈ limit, k < n)
    ∧ ∃ record, (source.recordsOf content)[k + 1]? = some record
      ∧ answer table content (k + 1) record = given
      ∧ ∀ j < k, ∃ earlier row, (source.recordsOf content)[j + 1]? = some earlier
        ∧ readRow content (j + 1) earlier = .ok row
  /-- An error is the last answer, and tells the number of its row. -/
  failure_last : ∀ k e, answers[k]? = some (.failure e) → answers.length = k + 1
    ∧ ∃ fault : FieldFault, e = .source table s!"row {k + 1}: {fault.message}"

/-- **The first of some records can be read**, so many of them. -/
def AreReadable (content : List UInt8) (number : Nat) (records : List Located) (k : Nat) : Prop :=
  ∀ j < k, ∃ record row, records[j]? = some record ∧ readRow content (number + j) record = .ok row

theorem areReadable_succ {number k : Nat} {record : Located} {rest : List Located} :
    AreReadable content number (record :: rest) (k + 1)
      ↔ (∃ row, readRow content number record = .ok row)
        ∧ AreReadable content (number + 1) rest k := by
  unfold AreReadable
  rw [Nat.forall_lt_succ_left]
  refine and_congr ?_ (forall₂_congr fun j _ => ?_)
  · simp
  · rw [List.getElem?_cons_succ, Nat.add_right_comm, Nat.add_assoc]

theorem getElem?_zero_rowsFrom (number : Nat) (record : Located) (rest : List Located) :
    (rowsFrom table content number (record :: rest))[0]?
      = some (answer table content number record) := by
  rw [rowsFrom, answer]
  cases readRow content number record with
  | ok row => rfl
  | error fault => rfl

/-- **The answers to the reading of some records**, each with the condition under which
it comes. -/
theorem getElem?_rowsFrom {records : List Located} {number k : Nat} {given : Answer Row} :
    (rowsFrom table content number records)[k]? = some given
      ↔ (∃ record, records[k]? = some record ∧ answer table content (number + k) record = given)
        ∧ AreReadable content number records k := by
  induction records generalizing number k with
  | nil =>
    refine iff_of_false (fun h => ?_) ?_
    · cases h
    · rintro ⟨⟨record, h, -⟩, -⟩
      cases h
  | cons record rest ih =>
    cases k with
    | zero =>
      have hnone : AreReadable content number (record :: rest) 0 := fun j hj => absurd hj (by omega)
      rw [getElem?_zero_rowsFrom, and_iff_left hnone, Option.some.injEq]
      simp
    | succ k =>
      rw [areReadable_succ, rowsFrom]
      cases readRow content number record with
      | ok row =>
        have hok : ∃ row', (Except.ok row : Except FieldFault Row) = .ok row' := ⟨row, rfl⟩
        dsimp only
        rw [List.getElem?_cons_succ, ih, and_iff_right hok, List.getElem?_cons_succ,
          Nat.add_right_comm, Nat.add_assoc]
      | error fault =>
        refine iff_of_false (fun h => ?_) ?_
        · cases h
        · rintro ⟨-, ⟨row, h⟩, -⟩
          cases h

/-- An answer that is an error is that to a record which cannot be read. -/
theorem exists_fault_of_answer {number : Nat} {record : Located} {e : ProfileError}
    (h : answer table content number record = .failure e) :
    ∃ fault, readRow content number record = .error fault
      ∧ e = .source table s!"row {number}: {fault.message}" := by
  unfold answer at h
  cases hrow : readRow content number record with
  | ok row =>
    rw [hrow] at h
    cases h
  | error fault =>
    rw [hrow] at h
    exact ⟨fault, rfl, (Answer.failure.inj h).symm⟩

/-- No answer comes behind an error. -/
theorem length_rowsFrom_of_failure {records : List Located} {number k : Nat} {e : ProfileError}
    (h : (rowsFrom table content number records)[k]? = some (.failure e)) :
    (rowsFrom table content number records).length = k + 1 := by
  obtain ⟨⟨record, hrecord, hanswer⟩, -⟩ := getElem?_rowsFrom.mp h
  obtain ⟨fault, hfault, -⟩ := exists_fault_of_answer hanswer
  have hend : (rowsFrom table content number records)[k + 1]? = none := by
    refine Option.eq_none_iff_forall_ne_some.mpr fun given hnext => ?_
    obtain ⟨-, hreadable⟩ := getElem?_rowsFrom.mp hnext
    obtain ⟨record', row, hrecord', hrow⟩ := hreadable k (Nat.lt_succ_self k)
    obtain rfl := Option.some.inj (hrecord.symm.trans hrecord')
    cases hfault.symm.trans hrow
  have hlt := (List.getElem?_eq_some_iff.mp h).1
  have hle := List.getElem?_eq_none_iff.mp hend
  omega

/-- **A stream has the answers to the records behind the header.** -/
theorem isStreamOf_upTo (source : DelimitedFolder) (table : String) (content : List UInt8)
    (limit : Option Nat) :
    source.IsStreamOf table content limit ((source.allRows table content).upTo limit) where
  length_le _ h := Rows.length_upTo_le h
  getElem?_iff k given := by
    rw [Rows.getElem?_upTo, allRows, getElem?_rowsFrom, ← exists_and_right]
    simp only [AreReadable, List.getElem?_tail, Nat.add_comm 1, and_assoc]
  failure_last k e h := by
    obtain ⟨hwanted, hall⟩ := Rows.getElem?_upTo.mp h
    have hlength : (source.allRows table content).length = k + 1 := length_rowsFrom_of_failure hall
    obtain ⟨⟨record, -, hanswer⟩, -⟩ := getElem?_rowsFrom.mp hall
    obtain ⟨fault, -, he⟩ := exists_fault_of_answer hanswer
    rw [Nat.add_comm] at he
    refine ⟨?_, fault, he⟩
    rw [Rows.upTo_of_length_le fun n hn => hlength.trans_le (hwanted n hn), hlength]

/-- A folder that is opened like a file answers with an error. -/
theorem rows_of_isFolder {tree : FileTree}
    (h : tree.read (source.pathOf table) = .error .isFolder) (limit : Option Nat) :
    source.rows tree table limit = .ok (Rows.upTo limit
      [.failure (.source table s!"row 1: {PathFault.isFolder.message}")]) := by
  have hlimit : limit = limit.map (· - 0) := Option.map_id'.symm
  unfold rows
  rw [h]
  refine congrArg Except.ok ?_
  by_cases reached : limit.any (· ≤ 0) = true
  · rw [if_pos reached, hlimit, Rows.upTo_of_reached reached]
  · rw [if_neg reached, hlimit, Rows.upTo_cons reached, Rows.upTo_nil]

/-- **A limit cuts the rows of a file short.** -/
theorem rows_some_eq_take (tree : FileTree) (n : Nat) :
    source.rows tree table (some n) = (source.rows tree table none).map (List.take n) := by
  cases hread : tree.read (source.pathOf table) with
  | ok content =>
    rw [rows_of_read hread, rows_of_read hread]
    rfl
  | error fault =>
    cases fault with
    | isFolder =>
      rw [rows_of_isFolder hread, rows_of_isFolder hread]
      rfl
    | _ =>
      unfold rows
      rw [hread]
      rfl

end DelimitedFolder

namespace TableShelf

variable {shelf : TableShelf} {name : String}

/-- **The rows of a table on a shelf**, as far as they are asked for. -/
theorem rows_of_table? {held : ShelvedTable} (h : shelf.table? name = some held)
    (limit : Option Nat) :
    shelf.toSource.rows name limit = .value (Rows.upTo limit (held.rows.map .value)) := by
  have htable : shelf.table name = .ok held := by
    unfold table
    rw [h]
  show Answer.ofExcept ((shelf.table name).map _) = _
  rw [htable]
  refine congrArg Answer.value ?_
  cases limit with
  | none => exact congrArg (List.map _) (List.take_length)
  | some n =>
    show (held.rows.take (min held.rows.length n)).map Answer.value = (held.rows.map _).take n
    rw [List.map_take, Nat.min_comm, ← List.take_take, ← List.map_take, List.take_length]

end TableShelf

open Storage in
/-- **A limit cuts the rows short.** Of a folder of files and of a shelf of tables alike, whoever
asks for `n` rows gets the first `n` of the answers that there are without a limit. Of a
file these are the answers to the records behind the header, up to the first that cannot
be read; of a table on a shelf they are its rows. -/
theorem rows_limited (folder : DelimitedFolder) (tree : FileTree) (shelf : TableShelf)
    (table : String) :
    (∀ source ∈ [folder.toSource tree, shelf.toSource], ∀ n,
        source.rows table (some n) = (source.rows table none).map (List.take n))
      ∧ (∀ content limit, tree.read (folder.pathOf table) = .ok content →
        ∃ answers, (folder.toSource tree).rows table limit = .value answers
          ∧ folder.IsStreamOf table content limit answers)
      ∧ (∀ held limit, shelf.table? table = some held →
        ∃ answers, shelf.toSource.rows table limit = .value answers
          ∧ (∀ n ∈ limit, answers.length ≤ n)
          ∧ ∀ k given, answers[k]? = some given
            ↔ (∀ n ∈ limit, k < n) ∧ ∃ row, held.rows[k]? = some row ∧ .value row = given) := by
  refine ⟨fun source hsource n => ?_, fun content limit hread => ?_, fun held limit hheld => ?_⟩
  · simp only [List.mem_cons, List.not_mem_nil, or_false] at hsource
    rcases hsource with rfl | rfl
    · show Answer.ofExcept (folder.rows tree table (some n)) = _
      rw [DelimitedFolder.rows_some_eq_take]
      show _ = (Answer.ofExcept (folder.rows tree table none)).map _
      cases folder.rows tree table none with
      | ok rows => rfl
      | error e => rfl
    · cases hheld : shelf.table? table with
      | some held =>
        rw [TableShelf.rows_of_table? hheld, TableShelf.rows_of_table? hheld]
        rfl
      | none =>
        have htable : shelf.table table = .error (.source table "no such table") := by
          unfold TableShelf.table
          rw [hheld]
        show Answer.ofExcept ((shelf.table table).map _)
          = (Answer.ofExcept ((shelf.table table).map _)).map _
        rw [htable]
        rfl
  · refine ⟨_, ?_, DelimitedFolder.isStreamOf_upTo folder table content limit⟩
    exact congrArg Answer.ofExcept (DelimitedFolder.rows_of_read hread limit)
  · refine ⟨_, TableShelf.rows_of_table? hheld limit, fun n hn => Rows.length_upTo_le hn,
      fun k given => ?_⟩
    rw [Rows.getElem?_upTo, List.getElem?_map, Option.map_eq_some_iff]

open DelimitedFolder in
/-- The second of three rows cannot be read. It is told of if two rows are asked for, and
not met if one is. -/
theorem rows_limited_three_rows :
    let content : List UInt8 := [0x61, 0x0a, 0x62, 0x0a, 0xff, 0x0a, 0x63, 0x0a]
    let fault : FieldFault := { record := 2, line := 3, byte := 4, field := 0, valid := 0 }
    let held : ShelvedTable := { columns := [{ name := "a" }], rows := [["b"], ["c"]] }
    let shelf : TableShelf := ({} : TableShelf).insert "t" held
    (single content).read (current.pathOf "t") = .ok content ∧ shelf.table? "t" = some held
      ∧ (∃ answers, (current.toSource (single content)).rows "t" (some 1) = .value answers
        ∧ answers.length ≤ 1 ∧ answers[0]? = some (.value ["b"]))
      ∧ (∃ answers, (current.toSource (single content)).rows "t" (some 2) = .value answers
        ∧ answers.length = 2
        ∧ answers[1]? = some (.failure (.source "t" s!"row 2: {fault.message}")))
      ∧ ∃ answers, shelf.toSource.rows "t" (some 1) = .value answers
        ∧ answers.length ≤ 1 ∧ answers[0]? = some (.value ["b"]) := by
  intro content fault held shelf
  have hheld : shelf.table? "t" = some held := Std.ExtTreeMap.getElem?_insert_self
  have hrecords : current.recordsOf content
      = [⟨[[0x61]], content⟩, ⟨[[0x62]], content.drop 2⟩, ⟨[[0xff]], content.drop 4⟩,
        ⟨[[0x63]], content.drop 6⟩] := by
    decide +kernel
  have hfirst : readRow content 1 ⟨[[0x62]], content.drop 2⟩ = .ok ["b"] := by
    decide +kernel
  have hsecond : readRow content 2 ⟨[[0xff]], content.drop 4⟩ = .error fault := by
    decide +kernel
  obtain ⟨-, hfile, hshelf⟩ := rows_limited current (single content) shelf "t"
  obtain ⟨one, hone, stream⟩ := hfile content (some 1) (read_single content)
  obtain ⟨two, htwo, stream'⟩ := hfile content (some 2) (read_single content)
  obtain ⟨shelved, hshelved, hlength, hrows⟩ := hshelf held (some 1) hheld
  have hvalue : one[0]? = some (.value ["b"]) := by
    refine (stream.getElem?_iff 0 _).mpr ⟨?_, ⟨[[0x62]], content.drop 2⟩, ?_, ?_, ?_⟩
    · rintro n ⟨⟩
      exact Nat.one_pos
    · rw [hrecords]
      rfl
    · rw [answer, hfirst]
    · exact fun j hj => absurd hj (Nat.not_lt_zero j)
  have hfailure : two[1]? = some (.failure (.source "t" s!"row 2: {fault.message}")) := by
    refine (stream'.getElem?_iff 1 _).mpr ⟨?_, ⟨[[0xff]], content.drop 4⟩, ?_, ?_, ?_⟩
    · rintro n ⟨⟩
      exact Nat.one_lt_two
    · rw [hrecords]
      rfl
    · rw [answer, hsecond]
      rfl
    · intro j hj
      obtain rfl := Nat.lt_one_iff.mp hj
      exact ⟨⟨[[0x62]], content.drop 2⟩, ["b"], by rw [hrecords]; rfl, hfirst⟩
  have hshelfValue : shelved[0]? = some (.value ["b"]) := by
    refine (hrows 0 _).mpr ⟨?_, ["b"], rfl, rfl⟩
    rintro n ⟨⟩
    exact Nat.one_pos
  exact ⟨read_single content, hheld, ⟨one, hone, stream.length_le 1 rfl, hvalue⟩,
    ⟨two, htwo, (stream'.failure_last 1 _ hfailure).1, hfailure⟩,
    shelved, hshelved, hlength 1 rfl, hshelfValue⟩

end TableProfile
