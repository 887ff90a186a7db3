import TableProfile.Source.Server

/-!
# Quoted names cannot be escaped from

Inside of a quoted name every double quote stands next to another, so the
reader takes them in pairs and never stops there. The first quote that it
meets alone is the closing one, provided that the text goes on without a
quote. So reading gives a name and a rest exactly if the text is the quoted
name and then the rest (`readQuoted?_eq_some_iff`), and likewise for the table
of a schema (`readQualified?_eq_some_iff`).

The condition on the rest is needed: a quote behind the closing one would be
taken for the second of a pair. A statement has a blank there, or ends.
-/

namespace TableProfile.Sql

/-! ## One name -/

/-- **The reader stops at the closing quote**, whatever quotes the name has. -/
theorem quotedName?_doubled (name : List Char) {rest : List Char} (ends : rest.head? ≠ some '"') :
    quotedName? (doubled name ++ '"' :: rest) = some (name, rest) := by
  induction name with
  | nil =>
    cases rest with
    | nil => rfl
    | cons c rest =>
      have hc : c ≠ '"' := fun h => ends (congrArg some h)
      simp [doubled, quotedName?, hc]
  | cons c name ih =>
    unfold doubled
    split
    · rename_i hquote
      rw [List.cons_append, List.cons_append, quotedName?, ih, hquote]
      rfl
    · rename_i hplain
      rw [List.cons_append, quotedName?, if_neg hplain, ih]
      · rfl
      · exact fun _ h _ => hplain h

/-- **What the reader takes was written so**, and no quote follows it. -/
theorem eq_of_quotedName? {text name rest : List Char}
    (h : quotedName? text = some (name, rest)) :
    text = doubled name ++ '"' :: rest ∧ rest.head? ≠ some '"' := by
  fun_induction quotedName? text generalizing name rest with
  | case1 => cases h
  | case2 text ih =>
    obtain ⟨⟨name', rest'⟩, hread, heq⟩ := Option.map_eq_some_iff.mp h
    obtain ⟨rfl, rfl⟩ := Prod.mk.inj heq
    obtain ⟨htext, hends⟩ := ih hread
    exact ⟨congrArg ('"' :: '"' :: ·) htext, hends⟩
  | case3 text alone =>
    obtain ⟨rfl, rfl⟩ := Prod.mk.inj (Option.some.inj h)
    refine ⟨rfl, fun hquote => ?_⟩
    obtain ⟨rest', rfl⟩ := List.head?_eq_some_iff.mp hquote
    exact alone rest' rfl rfl
  | case4 c text _ hplain ih =>
    obtain ⟨⟨name', rest'⟩, hread, heq⟩ := Option.map_eq_some_iff.mp h
    obtain ⟨rfl, rfl⟩ := Prod.mk.inj heq
    obtain ⟨htext, hends⟩ := ih hread
    refine ⟨?_, hends⟩
    rw [doubled, if_neg hplain, htext]
    rfl

theorem toList_quote (name : String) :
    (quote name).toList = '"' :: (doubled name.toList ++ ['"']) :=
  String.toList_ofList

/-- **Reading undoes quoting and nothing else**: a text reads as a name with a
rest exactly if it is the quoted name and then the rest. -/
theorem readQuoted?_eq_some_iff {text rest : List Char} {name : String} :
    readQuoted? text = some (name.toList, rest)
      ↔ text = (quote name).toList ++ rest ∧ rest.head? ≠ some '"' := by
  rw [toList_quote, List.cons_append, List.append_assoc]
  constructor
  · intro h
    unfold readQuoted? at h
    split at h
    · obtain ⟨htext, hends⟩ := eq_of_quotedName? h
      exact ⟨congrArg ('"' :: ·) htext, hends⟩
    · cases h
  · rintro ⟨rfl, hends⟩
    exact quotedName?_doubled name.toList hends

/-! ## A table of a schema -/

theorem toList_qualified (schema table : String) :
    (qualified schema table).toList = (quote schema).toList ++ '.' :: (quote table).toList := by
  unfold qualified
  rw [String.toList_append, String.toList_append, List.append_assoc]
  rfl

/-- **Reading a qualified name undoes writing it**, and nothing else does. -/
theorem readQualified?_eq_some_iff {text rest : List Char} {schema table : String} :
    readQualified? text = some (schema.toList, table.toList, rest)
      ↔ text = (qualified schema table).toList ++ rest ∧ rest.head? ≠ some '"' := by
  rw [toList_qualified, List.append_assoc, List.cons_append]
  constructor
  · intro h
    unfold readQualified? at h
    split at h
    · rename_i name after hschema
      obtain ⟨⟨name', rest'⟩, htable, heq⟩ := Option.map_eq_some_iff.mp h
      have heq : (name, name', rest') = (schema.toList, table.toList, rest) := heq
      simp only [Prod.mk.injEq] at heq
      obtain ⟨rfl, rfl, rfl⟩ := heq
      obtain ⟨htext, -⟩ := readQuoted?_eq_some_iff.mp hschema
      obtain ⟨hafter, hends⟩ := readQuoted?_eq_some_iff.mp htable
      exact ⟨htext.trans (congrArg (_ ++ '.' :: ·) hafter), hends⟩
    · cases h
  · rintro ⟨rfl, hends⟩
    have hschema : readQuoted? ((quote schema).toList ++ '.' :: ((quote table).toList ++ rest))
        = some (schema.toList, '.' :: ((quote table).toList ++ rest)) :=
      readQuoted?_eq_some_iff.mpr ⟨rfl, by simp⟩
    have htable : readQuoted? ((quote table).toList ++ rest) = some (table.toList, rest) :=
      readQuoted?_eq_some_iff.mpr ⟨rfl, hends⟩
    unfold readQualified?
    rw [hschema]
    show (readQuoted? _).map _ = _
    rw [htable]
    rfl

/-- **Different tables have different qualified names.** -/
theorem qualified_inj {schema schema' table table' : String} :
    qualified schema table = qualified schema' table' ↔ schema = schema' ∧ table = table' := by
  refine ⟨fun h => ?_, fun ⟨hschema, htable⟩ => hschema ▸ htable ▸ rfl⟩
  have hends : ([] : List Char).head? ≠ some '"' := by simp
  have hread := readQualified?_eq_some_iff.mpr
    ⟨(List.append_nil (qualified schema table).toList).symm, hends⟩
  have hread' := readQualified?_eq_some_iff.mpr
    ⟨(List.append_nil (qualified schema' table').toList).symm, hends⟩
  rw [h, hread'] at hread
  obtain ⟨hschema, htable⟩ := Prod.mk.inj (Option.some.inj hread)
  exact ⟨(String.toList_inj.mp hschema).symm,
    (String.toList_inj.mp (Prod.mk.inj htable).1).symm⟩

/-! ## Statements -/

/-- What stands in a statement behind the table. -/
def Sampling.ending (method : Sampling) : Option Nat → String
  | none => ""
  | some limit => method.ordering ++ " LIMIT " ++ toString limit

/-- A statement is the same for all tables around the name of the table. -/
theorem Sampling.query_eq (method : Sampling) (table : String) (limit : Option Nat) :
    method.query table limit = "SELECT * FROM " ++ table ++ method.ending limit := by
  cases limit with
  | none => exact (String.append_empty).symm
  | some n =>
    show "SELECT * FROM " ++ table ++ method.ordering ++ " LIMIT " ++ toString n
      = "SELECT * FROM " ++ table ++ (method.ordering ++ " LIMIT " ++ toString n)
    simp only [String.append_assoc]

/-- No quote stands behind the table. -/
theorem Sampling.head?_ending (method : Sampling) (limit : Option Nat) :
    (method.ending limit).toList.head? ≠ some '"' := by
  cases limit with
  | none => simp [ending]
  | some n => cases method <;> simp [ending, ordering]

/-- **Quoted names are read back and cannot be escaped from.** A text reads as a
name with a rest exactly if it is the quoted name with a rest that does not
begin with a quote; the same holds of the names of a schema and a table, so no
two tables have one qualified name. In every statement that yields rows of a
table, the names end where the table ends: what follows them is read as it was
written, and it is the same for all tables. -/
theorem names_read_back :
    (∀ (name : String) (text rest : List Char), readQuoted? text = some (name.toList, rest)
        ↔ text = (quote name).toList ++ rest ∧ rest.head? ≠ some '"')
      ∧ (∀ (schema table : String) (text rest : List Char),
        readQualified? text = some (schema.toList, table.toList, rest)
          ↔ text = (qualified schema table).toList ++ rest ∧ rest.head? ≠ some '"')
      ∧ (∀ schema schema' table table' : String, qualified schema table = qualified schema' table'
          ↔ schema = schema' ∧ table = table')
      ∧ ∀ (method : Sampling) (limit : Option Nat), ∃ ending : String,
        ∀ schema table : String,
          method.query (qualified schema table) limit
              = "SELECT * FROM " ++ qualified schema table ++ ending
            ∧ readQualified? (qualified schema table ++ ending).toList
              = some (schema.toList, table.toList, ending.toList) := by
  refine ⟨fun _ _ _ => readQuoted?_eq_some_iff, fun _ _ _ _ => readQualified?_eq_some_iff,
    fun _ _ _ _ => qualified_inj, fun method limit => ⟨method.ending limit, fun schema table => ?_⟩⟩
  refine ⟨method.query_eq _ limit, readQualified?_eq_some_iff.mpr ⟨?_, method.head?_ending limit⟩⟩
  exact String.toList_append

end TableProfile.Sql
