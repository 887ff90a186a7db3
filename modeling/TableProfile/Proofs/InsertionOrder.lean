import Mathlib.Data.List.Basic
import Mathlib.Data.List.Induction
import TableProfile.Source.Shelf

/-!
# A shelf keeps the order of insertion

A shelf lists its names from one structure and finds its tables in another. What
holds them together is that the names are those of the tables, each once
(`TableShelf.InStep`). A name that was added to the order without a table would be
listed and could not be read, and one that was added although it had a table would
be listed twice. An insertion goes by the tables to decide about the order, so it
keeps both in step (`InStep.insert`), and so does any number of insertions
(`inStep_ofInsertions`).

As long as they are in step, a new name is one that is not in the order. So the
names are those that were put in, in the order in which they came first
(`isFirstOrder_order_ofInsertions`), and under each of them is the table that came
last (`table?_ofInsertions`).
-/

namespace TableProfile

/-- **Names in the order in which they come first** in a list. -/
structure IsFirstOrder (names inserted : List String) : Prop where
  /-- The names are those of the list. -/
  mem_iff : ∀ name, name ∈ names ↔ name ∈ inserted
  /-- A name that came earlier stands earlier. -/
  ascending : names.Pairwise fun a b => inserted.idxOf a < inserted.idxOf b

namespace IsFirstOrder

variable {names inserted : List String} {name : String}

/-- No name stands there twice. -/
theorem nodup (h : IsFirstOrder names inserted) : names.Nodup :=
  h.ascending.imp fun hlt => by
    rintro rfl
    exact Nat.lt_irrefl _ hlt

/-- Names keep their places when more come. -/
theorem ascending_append (h : IsFirstOrder names inserted) (more : List String) :
    names.Pairwise fun a b => (inserted ++ more).idxOf a < (inserted ++ more).idxOf b := by
  refine h.ascending.imp_of_mem fun ha hb hlt => ?_
  rwa [List.idxOf_append_of_mem ((h.mem_iff _).mp ha),
    List.idxOf_append_of_mem ((h.mem_iff _).mp hb)]

/-- A name that was there changes nothing. -/
theorem concat_of_mem (h : IsFirstOrder names inserted) (old : name ∈ inserted) :
    IsFirstOrder names (inserted ++ [name]) where
  mem_iff other := by
    rw [h.mem_iff, List.mem_append, List.mem_singleton]
    exact ⟨.inl, fun hmem => hmem.elim id fun heq => heq ▸ old⟩
  ascending := h.ascending_append [name]

/-- A new name stands at the end. -/
theorem concat_of_not_mem (h : IsFirstOrder names inserted) (new : name ∉ inserted) :
    IsFirstOrder (names ++ [name]) (inserted ++ [name]) where
  mem_iff other := by
    rw [List.mem_append, List.mem_append, h.mem_iff]
  ascending := by
    refine List.pairwise_append.mpr
      ⟨h.ascending_append [name], List.pairwise_singleton _ _, fun a ha b hb => ?_⟩
    obtain rfl := List.mem_singleton.mp hb
    have hmem := (h.mem_iff a).mp ha
    rw [List.idxOf_append_of_mem hmem, List.idxOf_append_of_notMem new]
    exact Nat.lt_of_lt_of_le (List.idxOf_lt_length_of_mem hmem) (Nat.le_add_right _ _)

end IsFirstOrder

/-! ## Answers of a source -/

namespace Source

/-- **A source has a table under a name**: it answers with its columns, with
the number of its rows, and with its rows as far as they are asked for. -/
structure Holds (source : Source) (name : String) (table : ShelvedTable) : Prop where
  /-- The columns. -/
  columns : source.columns name = .value table.columns
  /-- The number of rows. -/
  rowCount : source.rowCount name = .value (some table.rows.length)
  /-- The rows. -/
  rows : ∀ limit : Option Nat, source.rows name limit
    = .value ((limit.elim table.rows table.rows.take).map .value)

/-- **A source has no table of a name**, and says so whatever it is asked. -/
structure Lacks (source : Source) (name : String) : Prop where
  /-- Asked for the columns. -/
  columns : source.columns name = .failure (.source name "no such table")
  /-- Asked for the number of rows. -/
  rowCount : source.rowCount name = .failure (.source name "no such table")
  /-- Asked for the rows. -/
  rows : ∀ limit, source.rows name limit = .failure (.source name "no such table")

/-- **Two sources answer alike about a name.** -/
structure AnswersLike (source source' : Source) (name : String) : Prop where
  /-- The columns. -/
  columns : source.columns name = source'.columns name
  /-- The number of rows. -/
  rowCount : source.rowCount name = source'.rowCount name
  /-- The rows. -/
  rows : ∀ limit, source.rows name limit = source'.rows name limit

end Source

namespace TableShelf

variable {shelf : TableShelf} {name other : String} {table : ShelvedTable}

/-! ## One table is put in -/

/-- **Order and tables are in step.** -/
structure InStep (shelf : TableShelf) : Prop where
  /-- No name is in the order twice. -/
  nodup : shelf.order.Nodup
  /-- The names in the order are those that have a table. -/
  mem_iff : ∀ name, name ∈ shelf.order ↔ ∃ table, shelf.table? name = some table

theorem inStep_new : ({} : TableShelf).InStep where
  nodup := .nil
  mem_iff name := iff_of_false List.not_mem_nil fun ⟨table, h⟩ => by
    rw [table?, Std.ExtTreeMap.getElem?_empty] at h
    cases h

/-- **What is put in is found under its name**, and nothing else is touched. -/
theorem table?_insert (shelf : TableShelf) (name other : String) (table : ShelvedTable) :
    (shelf.insert name table).table? other
      = if other = name then some table else shelf.table? other := by
  unfold table? insert
  rw [Std.ExtTreeMap.getElem?_insert]
  by_cases heq : other = name
  · simp [heq]
  · rw [if_neg heq, if_neg fun h => heq (Std.LawfulEqCmp.eq_of_compare h).symm]

/-- Some table is found under a name after an insertion. -/
theorem exists_table?_insert (shelf : TableShelf) (name other : String) (table : ShelvedTable) :
    (∃ found, (shelf.insert name table).table? other = some found)
      ↔ other = name ∨ ∃ found, shelf.table? other = some found := by
  rw [table?_insert]
  by_cases heq : other = name
  · simp [heq]
  · simp [heq]

/-- **A name stays in its place** when a table is put in, and a new one comes last, as
long as the order is in step with the tables. -/
theorem InStep.order_insert (h : shelf.InStep) (name : String) (table : ShelvedTable) :
    (shelf.insert name table).order
      = if name ∈ shelf.order then shelf.order else shelf.order ++ [name] := by
  unfold insert
  dsimp only
  split
  · rename_i found hfound
    exact (if_pos ((h.mem_iff name).mpr ⟨found, hfound⟩)).symm
  · rename_i hnone
    refine (if_neg fun hmem => ?_).symm
    obtain ⟨found, hfound⟩ := (h.mem_iff name).mp hmem
    cases hnone.symm.trans hfound

/-- **An insertion keeps them in step.** -/
theorem InStep.insert (h : shelf.InStep) (name : String) (table : ShelvedTable) :
    (shelf.insert name table).InStep := by
  refine ⟨?_, fun other => ?_⟩
  · rw [h.order_insert]
    split
    · exact h.nodup
    · rename_i hnew
      refine List.nodup_append.mpr
        ⟨h.nodup, List.pairwise_singleton _ _, fun a ha b hb heq => hnew ?_⟩
      exact List.mem_singleton.mp hb ▸ heq ▸ ha
  · rw [exists_table?_insert, ← h.mem_iff, h.order_insert]
    split
    · rename_i hold
      exact ⟨.inr, fun hor => hor.elim (fun heq => heq ▸ hold) id⟩
    · rw [List.mem_append, List.mem_singleton, or_comm]

/-! ## Tables are put in one after the other -/

/-- **The shelf on which tables were put** one after the other, each under a
name. -/
def ofInsertions (puts : List (String × ShelvedTable)) : TableShelf :=
  puts.foldl (fun shelf put => shelf.insert put.1 put.2) {}

theorem ofInsertions_concat (puts : List (String × ShelvedTable)) (name : String)
    (table : ShelvedTable) :
    ofInsertions (puts ++ [(name, table)]) = (ofInsertions puts).insert name table :=
  List.foldl_concat _ _ _ _

/-- **Any number of insertions keeps them in step.** -/
theorem inStep_ofInsertions (puts : List (String × ShelvedTable)) :
    (ofInsertions puts).InStep := by
  induction puts using List.reverseRecOn with
  | nil => exact inStep_new
  | append_singleton puts put ih =>
    rw [ofInsertions_concat]
    exact ih.insert put.1 put.2

/-- **The names are in the order of their first insertion.** -/
theorem isFirstOrder_order_ofInsertions (puts : List (String × ShelvedTable)) :
    IsFirstOrder (ofInsertions puts).order (puts.map (·.1)) := by
  induction puts using List.reverseRecOn with
  | nil => exact ⟨fun _ => Iff.rfl, .nil⟩
  | append_singleton puts put ih =>
    obtain ⟨name, table⟩ := put
    rw [ofInsertions_concat, (inStep_ofInsertions puts).order_insert, List.map_append]
    split
    · rename_i hold
      exact ih.concat_of_mem ((ih.mem_iff name).mp hold)
    · rename_i hnew
      exact ih.concat_of_not_mem fun hmem => hnew ((ih.mem_iff name).mpr hmem)

/-- **Under a name is the table that came last.** -/
theorem table?_ofInsertions (puts : List (String × ShelvedTable)) (name : String) :
    (ofInsertions puts).table? name = puts.reverse.lookup name := by
  induction puts using List.reverseRecOn with
  | nil => exact Std.ExtTreeMap.getElem?_empty
  | append_singleton puts put ih =>
    obtain ⟨last, table⟩ := put
    rw [ofInsertions_concat, table?_insert, ih, List.reverse_concat, List.lookup_cons]
    by_cases heq : name = last
    · rw [if_pos heq, heq, beq_self_eq_true]
    · rw [if_neg heq, beq_false_of_ne heq]

/-! ## What a shelf answers -/

theorem holds_of_table? (h : shelf.table? name = some table) : shelf.toSource.Holds name table := by
  have htable : shelf.table name = .ok table := by
    unfold TableShelf.table
    rw [h]
  refine ⟨?_, ?_, fun limit => ?_⟩
  · show Answer.ofExcept ((shelf.table name).map _) = _
    rw [htable]
    rfl
  · show Answer.ofExcept ((shelf.table name).map _) = _
    rw [htable]
    rfl
  · show Answer.ofExcept ((shelf.table name).map _) = _
    rw [htable]
    have htake : table.rows.take (wanted table.rows limit)
        = limit.elim table.rows table.rows.take := by
      cases limit with
      | none => exact List.take_length
      | some n => exact (Nat.min_comm _ _ ▸ List.take_eq_take_min).symm
    exact congrArg (fun rows : List Row => Answer.value (rows.map Answer.value)) htake

theorem lacks_of_table? (h : shelf.table? name = none) : shelf.toSource.Lacks name := by
  have htable : shelf.table name = .error (.source name "no such table") := by
    unfold TableShelf.table
    rw [h]
  refine ⟨?_, ?_, fun limit => ?_⟩
  iterate 3
    show Answer.ofExcept ((shelf.table name).map _) = _
    rw [htable]
    rfl

/-- What a shelf answers about a name depends on the table of that name only. -/
theorem answersLike_of_table? {shelf' : TableShelf} (h : shelf.table? name = shelf'.table? name) :
    shelf.toSource.AnswersLike shelf'.toSource name := by
  have htable : shelf.table name = shelf'.table name := by
    unfold TableShelf.table
    rw [h]
  refine ⟨?_, ?_, fun limit => ?_⟩
  iterate 3
    exact congrArg (fun table => Answer.ofExcept (Except.map _ table)) htable

theorem lookup_reverse_eq_none {puts : List (String × ShelvedTable)}
    (h : name ∉ puts.map (·.1)) : puts.reverse.lookup name = none := by
  refine List.lookup_eq_none_iff.mpr fun put hput => bne_iff_ne.mpr ?_
  rintro rfl
  exact h (List.mem_map_of_mem (List.mem_reverse.mp hput))

/-- The table that was put in last under a name is the one that is found. -/
theorem table?_eq_some_of_last {puts before after : List (String × ShelvedTable)}
    (h : puts = before ++ (name, table) :: after) (last : name ∉ after.map (·.1)) :
    (ofInsertions puts).table? name = some table := by
  rw [table?_ofInsertions, h, List.reverse_append, List.reverse_cons, List.append_assoc,
    List.lookup_append, lookup_reverse_eq_none last, Option.none_or, List.singleton_append,
    List.lookup_cons_self]

/-- **A shelf is a map in the order of insertion.** Whatever tables were put in
under whatever names, the order and the tables are in step; the names are listed once
each, in the order in which they came first; asked about a name, the shelf answers for
the table that was put in last under it; it has no table of any other name; and one
more table changes no answer about other names than its own. -/
theorem answers_ofInsertions (puts : List (String × ShelvedTable)) :
    (ofInsertions puts).InStep
      ∧ (∃ names, (ofInsertions puts).toSource.tables = .ok names ∧ names.Nodup
        ∧ IsFirstOrder names (puts.map (·.1)))
      ∧ (∀ before name table after, puts = before ++ (name, table) :: after →
        name ∉ after.map (·.1) → (ofInsertions puts).toSource.Holds name table)
      ∧ (∀ name, name ∉ puts.map (·.1) → (ofInsertions puts).toSource.Lacks name)
      ∧ ∀ name table other, other ≠ name →
        ((ofInsertions puts).insert name table).toSource.AnswersLike
          (ofInsertions puts).toSource other := by
  have inStep := inStep_ofInsertions puts
  refine ⟨inStep, ⟨_, rfl, inStep.nodup, isFirstOrder_order_ofInsertions puts⟩,
    fun before name table after hputs hlast => ?_, fun name hnone => ?_,
    fun name table other hne => ?_⟩
  · exact holds_of_table? (table?_eq_some_of_last hputs hlast)
  · exact lacks_of_table? ((table?_ofInsertions puts name).trans (lookup_reverse_eq_none hnone))
  · exact answersLike_of_table? ((table?_insert _ name other table).trans (if_neg hne))

/-- Of three tables, the third takes the place of the first. -/
theorem answers_ofInsertions_three_tables :
    let first : ShelvedTable := { columns := [{ name := "a" }], rows := [["1"]] }
    let second : ShelvedTable := { columns := [{ name := "b" }], rows := [["2"], ["3"]] }
    let third : ShelvedTable := { columns := [{ name := "c" }], rows := [["4"], ["5"]] }
    let puts := [("t", first), ("u", second), ("t", third)]
    let source := (ofInsertions puts).toSource
    puts = [("t", first), ("u", second)] ++ ("t", third) :: []
      ∧ "t" ∉ ([] : List (String × ShelvedTable)).map (·.1) ∧ source.Holds "t" third
      ∧ puts = [("t", first)] ++ ("u", second) :: [("t", third)]
      ∧ "u" ∉ [("t", third)].map (·.1) ∧ source.Holds "u" second
      ∧ "v" ∉ puts.map (·.1) ∧ source.Lacks "v"
      ∧ "u" ≠ "t" ∧ ((ofInsertions puts).insert "t" first).toSource.AnswersLike source "u"
      ∧ source.tables = .ok ["t", "u"] := by
  intro first second third puts source
  obtain ⟨-, -, hholds, hlacks, hother⟩ := answers_ofInsertions puts
  have hlast : "t" ∉ ([] : List (String × ShelvedTable)).map (·.1) := by decide
  have honly : "u" ∉ [("t", third)].map (·.1) := by decide
  have hnone : "v" ∉ puts.map (·.1) := by decide
  have hne : "u" ≠ "t" := by decide
  have horder : (ofInsertions puts).order = ["t", "u"] := by decide +kernel
  exact ⟨rfl, hlast, hholds [("t", first), ("u", second)] "t" third [] rfl hlast, rfl, honly,
    hholds [("t", first)] "u" second [("t", third)] rfl honly, hnone, hlacks "v" hnone, hne,
    hother "t" first "u" hne, congrArg Except.ok horder⟩

end TableShelf

end TableProfile
