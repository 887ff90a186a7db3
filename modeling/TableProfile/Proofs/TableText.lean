import TableProfile.Delimited.Delimiter
import TableProfile.Proofs.EncodedText
import TableProfile.Proofs.RowCount
import TableProfile.Sql.Identifier

/-!
# Tables as text, and read again

A table can be written as delimited text in many ways. A field that holds no
delimiter, no quote and no line break stands as it is or in quotes, any other in
quotes with those inside doubled; lines end with a line feed, or with a carriage
return and a line feed; empty lines may stand between the records, and the last
record may go without a line end. `TableText` says which texts are texts of a
table, and every table has one (`exists_tableText`).

Whichever of them is in a file, the reader gets the table back, and so does the
count of its rows (`DelimitedFolder.read_tableText`). The way there follows the
grammar. A field is read from its text whatever follows, and leaves the reader
at a place where only a delimiter or the end of the line makes a difference
(`fieldsFrom_fieldText`); fields make records, and records make tables. The
count goes through the same texts, and says of each how it leaves the line
(`LineCount.foldl_step_fieldText`). Both look at bytes, and get away with it
because no byte of another character is taken for a delimiter, a quote or a line
break (`Divides.plainByte`).
-/

namespace TableProfile

/-- Each quote gives two. -/
theorem Sql.doubled_cons (c : Char) (chars : List Char) :
    doubled (c :: chars) = (if c = '"' then ['"', '"'] else [c]) ++ doubled chars := by
  rw [doubled]
  split <;> rfl

namespace Delimited

open Text

/-! ## The text of a table -/

/-- A character that may stand in a field without quotes. -/
def Ordinary (d c : Char) : Prop :=
  c ≠ d ∧ c ≠ '"' ∧ c ≠ '\n' ∧ c ≠ '\r'

instance (d c : Char) : Decidable (Ordinary d c) :=
  inferInstanceAs (Decidable (c ≠ d ∧ c ≠ '"' ∧ c ≠ '\n' ∧ c ≠ '\r'))

/-- **The texts of a field.** -/
inductive FieldText (d : Char) : String → List Char → Prop where
  /-- As it stands, if all of its characters are ordinary. -/
  | bare {field : String} (ordinary : ∀ c ∈ field.toList, Ordinary d c) :
      FieldText d field field.toList
  /-- In quotes, with those inside doubled. -/
  | quoted (field : String) : FieldText d field ('"' :: (Sql.doubled field.toList ++ ['"']))

/-- **The texts of fields**, with delimiters between them. -/
inductive FieldsText (d : Char) : Row → List Char → Prop where
  /-- A single field. -/
  | one {field : String} {text : List Char} (here : FieldText d field text) :
      FieldsText d [field] text
  /-- A field, and others after it. -/
  | more {field : String} {fields : Row} {text rest : List Char} (here : FieldText d field text)
      (there : FieldsText d fields rest) : FieldsText d (field :: fields) (text ++ d :: rest)

/-- **The texts of a record.** An empty one would be no record, so a single
field that is empty is in quotes. -/
structure RecordText (d : Char) (record : Row) (text : List Char) : Prop where
  /-- It is the text of its fields. -/
  fields : FieldsText d record text
  /-- It is not empty. -/
  nonempty : text ≠ []

/-- The two ways to end a line. -/
inductive LineEnd : List Char → Prop where
  /-- With a line feed. -/
  | feed : LineEnd ['\n']
  /-- With a carriage return and a line feed. -/
  | both : LineEnd ['\r', '\n']

/-- **The texts of records.** Each record ends its line, but the last may go to
the end of everything, and there may be empty lines anywhere between them. -/
inductive TableText (d : Char) : List Row → List Char → Prop where
  /-- No record. -/
  | none : TableText d [] []
  /-- An empty line in front. -/
  | blank {records : List Row} {ending text : List Char} (ends : LineEnd ending)
      (rest : TableText d records text) : TableText d records (ending ++ text)
  /-- A record on a line of its own. -/
  | line {record : Row} {records : List Row} {text ending rest : List Char}
      (here : RecordText d record text) (ends : LineEnd ending)
      (there : TableText d records rest) :
      TableText d (record :: records) (text ++ (ending ++ rest))
  /-- A record that goes to the end. -/
  | last {record : Row} {text : List Char} (here : RecordText d record text) :
      TableText d [record] text

theorem exists_fieldsText (d : Char) {fields : Row} (some : fields ≠ []) :
    ∃ text, FieldsText d fields ('"' :: text) := by
  induction fields with
  | nil => exact absurd rfl some
  | cons field fields ih =>
    cases fields with
    | nil => exact ⟨_, .one (.quoted field)⟩
    | cons next fields =>
      obtain ⟨text, written⟩ := ih (List.cons_ne_nil _ _)
      exact ⟨_, .more (.quoted field) written⟩

/-- **Every table has a text**, if its records have fields. -/
theorem exists_tableText (d : Char) {table : List Row} (some : ∀ record ∈ table, record ≠ []) :
    ∃ text, TableText d table text := by
  induction table with
  | nil => exact ⟨_, .none⟩
  | cons record table ih =>
    obtain ⟨text, here⟩ := exists_fieldsText d (some record List.mem_cons_self)
    obtain ⟨rest, there⟩ := ih fun record hmem => some record (List.mem_cons_of_mem _ hmem)
    exact ⟨_, .line ⟨here, List.cons_ne_nil _ _⟩ .feed there⟩

/-- **A delimiter** that can be told from quotes and line ends, and its byte. -/
structure Divides (d : Char) (delimiter : UInt8) : Prop where
  /-- It is the byte of the character. -/
  byte : byteOf? d = some delimiter
  /-- The character is no quote. -/
  ne_quote : d ≠ '"'
  /-- It is no line feed. -/
  ne_feed : d ≠ '\n'
  /-- It is no carriage return. -/
  ne_return : d ≠ '\r'

/-! ## Bytes -/

/-- **A byte that means nothing** to the reader outside quoted text. -/
structure PlainByte (delimiter b : UInt8) : Prop where
  /-- It is no delimiter. -/
  ne_delimiter : b ≠ delimiter
  /-- It is no quote. -/
  ne_quote : b ≠ quote
  /-- It is no line break. -/
  not_break : isLineBreak b = false

section

variable {d : Char} {delimiter : UInt8}

theorem Divides.toNat_eq (h : Divides d delimiter) :
    d.toNat < 0x80 ∧ delimiter.toNat = d.toNat := by
  have hbyte := h.byte
  unfold byteOf? at hbyte
  split at hbyte
  · rename_i hlt
    obtain rfl := Option.some.inj hbyte
    exact ⟨hlt, Utf8.toNat_ofNat (Nat.lt_trans hlt (by decide))⟩
  · cases hbyte

/-- The delimiter is a single byte. -/
theorem Divides.bytesOf_cons (h : Divides d delimiter) (chars : List Char) :
    Utf8.bytesOf (d :: chars) = delimiter :: Utf8.bytesOf chars := by
  obtain ⟨hlt, hsame⟩ := h.toNat_eq
  rw [Utf8.bytesOf_cons, Utf8.utf8EncodeChar_of_lt hlt, ← hsame, UInt8.ofNat_toNat]
  rfl

theorem Divides.byte_ne_quote (h : Divides d delimiter) : delimiter ≠ quote := by
  rintro rfl
  exact h.ne_quote (Char.toNat_inj.mp h.toNat_eq.2.symm)

theorem Divides.not_break (h : Divides d delimiter) : isLineBreak delimiter = false := by
  refine Bool.of_not_eq_true fun hbreak => ?_
  rcases isLineBreak_iff.mp hbreak with rfl | rfl
  · exact h.ne_feed (Char.toNat_inj.mp h.toNat_eq.2.symm)
  · exact h.ne_return (Char.toNat_inj.mp h.toNat_eq.2.symm)

/-- The byte of an ASCII character is found in that character only. -/
theorem eq_of_mem_utf8EncodeChar {c a : Char} {b : UInt8} (ha : a.toNat < 0x80)
    (hb : b.toNat = a.toNat) (hmem : b ∈ String.utf8EncodeChar c) : c = a := by
  refine Char.toNat_inj.mp (((Utf8.mem_utf8EncodeChar ?_).mp hmem).trans hb)
  rwa [hb]

theorem ne_quote_of_mem {c : Char} (hc : c ≠ '"') {b : UInt8} (hmem : b ∈ String.utf8EncodeChar c) :
    b ≠ quote := by
  rintro rfl
  exact hc (eq_of_mem_utf8EncodeChar (by decide) rfl hmem)

theorem not_break_of_mem {c : Char} (hfeed : c ≠ '\n') (hreturn : c ≠ '\r') {b : UInt8}
    (hmem : b ∈ String.utf8EncodeChar c) : isLineBreak b = false := by
  refine Bool.of_not_eq_true fun hbreak => ?_
  rcases isLineBreak_iff.mp hbreak with rfl | rfl
  · exact hfeed (eq_of_mem_utf8EncodeChar (by decide) rfl hmem)
  · exact hreturn (eq_of_mem_utf8EncodeChar (by decide) rfl hmem)

/-- **Ordinary characters have plain bytes only.** -/
theorem Divides.plainByte (h : Divides d delimiter) {chars : List Char}
    (ordinary : ∀ c ∈ chars, Ordinary d c) : ∀ b ∈ Utf8.bytesOf chars, PlainByte delimiter b := by
  intro b hb
  obtain ⟨c, hc, hmem⟩ := List.mem_flatMap.mp hb
  obtain ⟨hd, hquote, hfeed, hreturn⟩ := ordinary c hc
  refine ⟨?_, ne_quote_of_mem hquote hmem, not_break_of_mem hfeed hreturn hmem⟩
  rintro rfl
  exact hd (eq_of_mem_utf8EncodeChar h.toNat_eq.1 h.toNat_eq.2 hmem)

/-! ## Reading fields -/

theorem PlainByte.next? {place : Place} {b : UInt8} (h : PlainByte delimiter b)
    (hplace : place ≠ .quoted) : place.next? delimiter b = some .plain := by
  rw [Place.next?_of_ne_quoted hplace h.ne_quote, Place.unquoted?, if_neg h.ne_delimiter,
    if_neg (Bool.eq_false_iff.mp h.not_break)]

theorem fieldsFrom_plain {bytes : List UInt8} (h : ∀ b ∈ bytes, PlainByte delimiter b)
    (field rest : List UInt8) :
    fieldsFrom delimiter .plain field (bytes ++ rest)
      = fieldsFrom delimiter .plain (bytes.reverse ++ field) rest := by
  induction bytes generalizing field with
  | nil => rfl
  | cons b bytes ih =>
    have hb : PlainByte delimiter b := h b List.mem_cons_self
    rw [List.cons_append, fieldsFrom_cons, hb.next? Place.noConfusion]
    refine (ih (fun b hb => h b (List.mem_cons_of_mem _ hb)) _).trans ?_
    rw [List.reverse_cons, List.append_assoc]
    rfl

theorem fieldsFrom_quoted {bytes : List UInt8} (h : ∀ b ∈ bytes, b ≠ quote)
    (field rest : List UInt8) :
    fieldsFrom delimiter .quoted field (bytes ++ rest)
      = fieldsFrom delimiter .quoted (bytes.reverse ++ field) rest := by
  induction bytes generalizing field with
  | nil => rfl
  | cons b bytes ih =>
    have hb : b ≠ quote := h b List.mem_cons_self
    have hkeeps : Place.quoted.keeps b = true := bne_iff_ne.mpr hb
    rw [List.cons_append, fieldsFrom_cons, Place.next?, if_neg hb, hkeeps]
    refine (ih (fun b hb => h b (List.mem_cons_of_mem _ hb)) _).trans ?_
    rw [List.reverse_cons, List.append_assoc]
    rfl

/-- **Quoted text gives back what was doubled.** -/
theorem fieldsFrom_doubled (chars : List Char) (field rest : List UInt8) :
    fieldsFrom delimiter .quoted field (Utf8.bytesOf (Sql.doubled chars) ++ rest)
      = fieldsFrom delimiter .quoted ((Utf8.bytesOf chars).reverse ++ field) rest := by
  induction chars generalizing field with
  | nil => rfl
  | cons c chars ih =>
    rw [Sql.doubled_cons, Utf8.bytesOf_append, Utf8.bytesOf_cons, List.reverse_append,
      List.append_assoc, List.append_assoc]
    by_cases hc : c = '"'
    · rw [if_pos hc, hc]
      show fieldsFrom delimiter .quoted field (quote :: quote :: _) = _
      rw [fieldsFrom_cons]
      show fieldsFrom delimiter .closing field (quote :: _) = _
      rw [fieldsFrom_cons]
      exact ih (quote :: field)
    · rw [if_neg hc, Utf8.bytesOf_cons, Utf8.bytesOf_nil, List.append_nil,
        fieldsFrom_quoted fun b hb => ne_quote_of_mem hc hb]
      exact ih _

/-- **The text of a field is read as the field**, whatever follows. -/
theorem fieldsFrom_fieldText (h : Divides d delimiter) {field : String} {text : List Char}
    (written : FieldText d field text) :
    ∃ place, place ≠ Place.quoted ∧ ∀ rest,
      fieldsFrom delimiter .start [] (Utf8.bytesOf text ++ rest)
        = fieldsFrom delimiter place (Utf8.bytesOf field.toList).reverse rest := by
  cases written with
  | bare ordinary =>
    have hplain := h.plainByte ordinary
    cases hbytes : Utf8.bytesOf field.toList with
    | nil => exact ⟨.start, Place.noConfusion, fun rest => rfl⟩
    | cons b bytes =>
      rw [hbytes] at hplain
      have hb : PlainByte delimiter b := hplain b List.mem_cons_self
      have hkeeps : Place.start.keeps b = true := bne_iff_ne.mpr hb.ne_quote
      refine ⟨.plain, Place.noConfusion, fun rest => ?_⟩
      rw [List.cons_append, fieldsFrom_cons, hb.next? Place.noConfusion, hkeeps]
      refine (fieldsFrom_plain (fun b hb => hplain b (List.mem_cons_of_mem _ hb)) _ rest).trans ?_
      rw [List.reverse_cons]
      rfl
  | quoted =>
    refine ⟨.closing, Place.noConfusion, fun rest => ?_⟩
    show fieldsFrom delimiter .start []
      (quote :: (Utf8.bytesOf (Sql.doubled field.toList ++ ['"']) ++ rest)) = _
    rw [fieldsFrom_cons, Utf8.bytesOf_append, List.append_assoc]
    refine (fieldsFrom_doubled field.toList [] _).trans ?_
    show fieldsFrom delimiter .quoted _ (quote :: rest) = _
    rw [fieldsFrom_cons, List.append_nil]
    rfl

/-- **The text of fields is read as these fields**, up to the end of the
line. -/
theorem fieldsFrom_fieldsText (h : Divides d delimiter) {fields : Row} {text : List Char}
    (written : FieldsText d fields text) {rest : List UInt8}
    (ends : ∀ b ∈ rest.head?, isLineBreak b = true) :
    fieldsFrom delimiter .start [] (Utf8.bytesOf text ++ rest) = (rawFields fields, rest.tail) := by
  induction written with
  | one here =>
    obtain ⟨place, hplace, hfield⟩ := fieldsFrom_fieldText h here
    rw [hfield]
    cases rest with
    | nil =>
      rw [fieldsFrom, List.reverse_reverse]
      rfl
    | cons b rest =>
      have hbreak : isLineBreak b = true := ends b rfl
      have hdelimiter : b ≠ delimiter := by
        rintro rfl
        rw [h.not_break] at hbreak
        cases hbreak
      rw [fieldsFrom_cons, Place.next?_of_ne_quoted hplace (ne_quote_of_isLineBreak hbreak),
        Place.unquoted?, if_neg hdelimiter, if_pos hbreak, List.reverse_reverse]
      rfl
  | more here there ih =>
    obtain ⟨place, hplace, hfield⟩ := fieldsFrom_fieldText h here
    rw [Utf8.bytesOf_append, h.bytesOf_cons, List.append_assoc, hfield, List.cons_append,
      fieldsFrom_cons, Place.next?_of_ne_quoted hplace h.byte_ne_quote, Place.unquoted?,
      if_pos rfl, ih, List.reverse_reverse]
    rfl

/-! ## Reading records -/

theorem FieldText.head_ne {field : String} {text : List Char} (written : FieldText d field text) :
    ∀ c ∈ text.head?, c ≠ '\n' ∧ c ≠ '\r' := by
  cases written with
  | bare ordinary => exact fun c hc => (ordinary c (List.mem_of_mem_head? hc)).2.2
  | quoted =>
    rintro _ ⟨⟩
    exact ⟨by decide, by decide⟩

theorem FieldsText.head_ne (h : Divides d delimiter) {fields : Row} {text : List Char}
    (written : FieldsText d fields text) : ∀ c ∈ text.head?, c ≠ '\n' ∧ c ≠ '\r' := by
  cases written with
  | one here => exact here.head_ne
  | @more field fields text rest here there =>
    cases text with
    | nil =>
      rintro _ ⟨⟩
      exact ⟨h.ne_feed, h.ne_return⟩
    | cons c text => exact here.head_ne

/-- **A record does not begin with a line break.** -/
theorem RecordText.exists_cons (h : Divides d delimiter) {record : Row} {text : List Char}
    (written : RecordText d record text) :
    ∃ b bytes, Utf8.bytesOf text = b :: bytes ∧ isLineBreak b = false := by
  cases text with
  | nil => exact absurd rfl written.nonempty
  | cons c text =>
    obtain ⟨hfeed, hreturn⟩ := written.fields.head_ne h c rfl
    rw [Utf8.bytesOf_cons]
    cases hbytes : String.utf8EncodeChar c with
    | nil => exact absurd hbytes String.utf8EncodeChar_ne_nil
    | cons b bytes =>
      exact ⟨b, _, rfl, not_break_of_mem hfeed hreturn (hbytes ▸ List.mem_cons_self)⟩

theorem fields_records (bytes : List UInt8) :
    (records delimiter bytes).map (·.fields)
      = match record? delimiter bytes with
        | none => []
        | some (fields, rest) => fields :: (records delimiter rest).map (·.fields) := by
  rw [records]
  split
  · rename_i hnone
    rw [hnone]
    rfl
  · rename_i hsome
    rw [hsome]
    rfl

/-- A line break in front makes no difference to the fields. -/
theorem fields_records_lineBreak {b : UInt8} (hb : isLineBreak b = true) (rest : List UInt8) :
    (records delimiter (b :: rest)).map (·.fields) = (records delimiter rest).map (·.fields) := by
  have hskip : skipLineBreaks (b :: rest) = skipLineBreaks rest := List.dropWhile_cons_of_pos hb
  rw [fields_records, fields_records rest, record?, record?, hskip]

theorem fields_records_lineEnd {ending : List Char} (ends : LineEnd ending) (rest : List UInt8) :
    (records delimiter (Utf8.bytesOf ending ++ rest)).map (·.fields)
      = (records delimiter rest).map (·.fields) := by
  cases ends with
  | feed => exact fields_records_lineBreak rfl rest
  | both => exact (fields_records_lineBreak rfl _).trans (fields_records_lineBreak rfl rest)

/-- **The text of a record is read as the record**, up to the end of the
line. -/
theorem fields_records_recordText (h : Divides d delimiter) {record : Row} {text : List Char}
    (written : RecordText d record text) {rest : List UInt8}
    (ends : ∀ b ∈ rest.head?, isLineBreak b = true) :
    (records delimiter (Utf8.bytesOf text ++ rest)).map (·.fields)
      = rawFields record :: (records delimiter rest.tail).map (·.fields) := by
  have hfields := fieldsFrom_fieldsText h written.fields ends
  obtain ⟨b, bytes, hbytes, hbreak⟩ := written.exists_cons h
  rw [hbytes, List.cons_append] at hfields
  have hskip : skipLineBreaks (b :: (bytes ++ rest)) = b :: (bytes ++ rest) :=
    List.dropWhile_cons_of_neg (Bool.eq_false_iff.mp hbreak)
  have hrecord : record? delimiter (b :: (bytes ++ rest)) = some (rawFields record, rest.tail) := by
    unfold record?
    rw [hskip]
    exact congrArg some hfields
  rw [hbytes, List.cons_append, fields_records, hrecord]

/-- **The text of a table is read as the table.** -/
theorem fields_records_tableText (h : Divides d delimiter) {table : List Row} {text : List Char}
    (written : TableText d table text) :
    (records delimiter (Utf8.bytesOf text)).map (·.fields) = table.map rawFields := by
  induction written with
  | none =>
    rw [Utf8.bytesOf_nil, fields_records]
    rfl
  | blank ends rest ih => rw [Utf8.bytesOf_append, fields_records_lineEnd ends, ih]
  | @line record table text ending rest here ends there ih =>
    rw [Utf8.bytesOf_append, Utf8.bytesOf_append, List.map_cons, ← ih]
    cases ends with
    | feed =>
      refine fields_records_recordText h here ?_
      rintro _ ⟨⟩
      rfl
    | both =>
      refine (fields_records_recordText h here ?_).trans ?_
      · rintro _ ⟨⟩
        rfl
      · exact congrArg (rawFields record :: ·) (fields_records_lineBreak rfl _)
  | @last record text here =>
    have hend : ∀ b ∈ ([] : List UInt8).head?, isLineBreak b = true := by rintro _ ⟨⟩
    have hone := fields_records_recordText h here hend
    rw [List.append_nil] at hone
    rw [hone, List.tail_nil, fields_records]
    rfl

/-! ## Counting lines -/

namespace LineCount

variable {c : LineCount}

theorem foldl_step_plain {bytes : List UInt8} (h : ∀ b ∈ bytes, PlainByte delimiter b)
    (c : LineCount) :
    bytes.foldl step c = { c with isUsed := c.isUsed || !bytes.isEmpty } := by
  induction bytes generalizing c with
  | nil =>
    rw [List.isEmpty_nil, Bool.not_true, Bool.or_false]
    rfl
  | cons b bytes ih =>
    have hb : PlainByte delimiter b := h b List.mem_cons_self
    rw [List.foldl_cons, step_of_not_isLineBreak hb.not_break hb.ne_quote,
      ih fun b hb => h b (List.mem_cons_of_mem _ hb), Bool.true_or, List.isEmpty_cons,
      Bool.not_false, Bool.or_true]

/-- **In quoted text nothing counts** but a quote. -/
theorem foldl_step_quoted {bytes : List UInt8} (h : ∀ b ∈ bytes, b ≠ quote)
    (hquoted : c.isQuoted = true) (hused : c.isUsed = true) : bytes.foldl step c = c := by
  induction bytes with
  | nil => rfl
  | cons b bytes ih =>
    have hsame : ({ c with isUsed := true } : LineCount) = c := by rw [← hused]
    rw [List.foldl_cons, step_of_isQuoted hquoted (h b List.mem_cons_self), hsame]
    exact ih fun b hb => h b (List.mem_cons_of_mem _ hb)

theorem foldl_step_doubled (chars : List Char) (hquoted : c.isQuoted = true)
    (hused : c.isUsed = true) : (Utf8.bytesOf (Sql.doubled chars)).foldl step c = c := by
  induction chars with
  | nil => rfl
  | cons a chars ih =>
    rw [Sql.doubled_cons, Utf8.bytesOf_append, List.foldl_append]
    refine Eq.trans (congrArg (List.foldl step · _) ?_) ih
    by_cases ha : a = '"'
    · -- the second quote undoes the first
      have hsame : ({ c with isQuoted := !!c.isQuoted, isUsed := true } : LineCount) = c := by
        rw [Bool.not_not, ← hused]
      rw [if_pos ha]
      exact hsame
    · rw [if_neg ha, Utf8.bytesOf_cons, Utf8.bytesOf_nil, List.append_nil]
      exact foldl_step_quoted (fun b hb => ne_quote_of_mem ha hb) hquoted hused

/-- **The text of a field is on its line**, if there is any. -/
theorem foldl_step_fieldText (h : Divides d delimiter) {field : String} {text : List Char}
    (written : FieldText d field text) (hquoted : c.isQuoted = false) :
    (Utf8.bytesOf text).foldl step c = { c with isUsed := c.isUsed || !text.isEmpty } := by
  cases written with
  | bare ordinary =>
    have hempty : (Utf8.bytesOf field.toList).isEmpty = field.toList.isEmpty := by
      cases field.toList with
      | nil => rfl
      | cons a chars =>
        rw [Utf8.bytesOf_cons, List.isEmpty_cons, List.isEmpty_eq_false_iff]
        exact List.append_ne_nil_of_left_ne_nil String.utf8EncodeChar_ne_nil _
    rw [foldl_step_plain (h.plainByte ordinary), hempty]
  | quoted =>
    show (Utf8.bytesOf (Sql.doubled field.toList ++ ['"'])).foldl step (c.step quote) = _
    rw [Utf8.bytesOf_append, List.foldl_append, step_quote, hquoted,
      foldl_step_doubled field.toList rfl rfl, List.isEmpty_cons, Bool.not_false, Bool.or_true]
    rfl

theorem foldl_step_fieldsText (h : Divides d delimiter) {fields : Row} {text : List Char}
    (written : FieldsText d fields text) (hquoted : c.isQuoted = false) :
    (Utf8.bytesOf text).foldl step c = { c with isUsed := c.isUsed || !text.isEmpty } := by
  induction written generalizing c with
  | one here => exact foldl_step_fieldText h here hquoted
  | @more field fields text rest here there ih =>
    have hsome : (text ++ d :: rest).isEmpty = false :=
      List.isEmpty_eq_false_iff.mpr (List.append_ne_nil_of_right_ne_nil _ (List.cons_ne_nil _ _))
    rw [Utf8.bytesOf_append, h.bytesOf_cons, List.foldl_append,
      foldl_step_fieldText h here hquoted, List.foldl_cons,
      step_of_not_isLineBreak h.not_break h.byte_ne_quote, hsome, Bool.not_false, Bool.or_true]
    exact ih hquoted

theorem foldl_step_recordText (h : Divides d delimiter) {record : Row} {text : List Char}
    (written : RecordText d record text) (hquoted : c.isQuoted = false) :
    (Utf8.bytesOf text).foldl step c = { c with isUsed := true } := by
  rw [foldl_step_fieldsText h written.fields hquoted,
    List.isEmpty_eq_false_iff.mpr written.nonempty, Bool.not_false, Bool.or_true]

/-- **A line end** ends the line, and the line counts if anything was on it. -/
theorem foldl_step_lineEnd {ending : List Char} (ends : LineEnd ending)
    (hquoted : c.isQuoted = false) :
    (Utf8.bytesOf ending).foldl step c = { c with lines := c.total, isUsed := false } := by
  cases ends with
  | feed => exact step_lineFeed hquoted
  | both =>
    show (c.step 0x0d).step 0x0a = _
    rw [step_return hquoted, step_lineFeed hquoted]

/-- **Each record of a table is a line that counts**, and nothing else is. -/
theorem total_foldl_tableText (h : Divides d delimiter) {table : List Row} {text : List Char}
    (written : TableText d table text) (hquoted : c.isQuoted = false) (hunused : c.isUsed = false) :
    ((Utf8.bytesOf text).foldl step c).total = c.lines + table.length := by
  have total_unused {c : LineCount} (hunused : c.isUsed = false) : c.total = c.lines := by
    rw [total, hunused]
    rfl
  induction written generalizing c with
  | none => exact total_unused hunused
  | blank ends rest ih =>
    rw [Utf8.bytesOf_append, List.foldl_append, foldl_step_lineEnd ends hquoted,
      total_unused hunused]
    exact ih (c := { c with isUsed := false }) hquoted rfl
  | @line record table text ending rest here ends there ih =>
    rw [Utf8.bytesOf_append, Utf8.bytesOf_append, List.foldl_append, List.foldl_append,
      foldl_step_recordText h here hquoted,
      foldl_step_lineEnd (c := { c with isUsed := true }) ends hquoted]
    refine (ih (c := { c with lines := c.lines + 1, isUsed := false }) hquoted rfl).trans ?_
    rw [List.length_cons, Nat.add_comm table.length]
    exact Nat.add_assoc _ _ _
  | @last record text here =>
    rw [foldl_step_recordText h here hquoted]
    rfl

end LineCount

/-- **The number of records of a text** is counted correctly. -/
theorem lineCount_tableText (h : Divides d delimiter) {table : List Row} {text : List Char}
    (written : TableText d table text) : lineCount (Utf8.bytesOf text) = table.length :=
  (LineCount.total_foldl_tableText h written rfl rfl).trans (Nat.zero_add _)

end

end Delimited

/-! ## Reading tables -/

namespace DelimitedFolder

open Delimited Text Storage

/-- **Reading undoes writing.** Whichever text of a table is in a file, the
fields of its first record are the columns, its other records are the rows, in
order and whatever their number of fields, and their number is the estimate. The
text must not begin with a byte-order mark, which would be dropped. -/
theorem read_tableText {source : DelimitedFolder} {tree : FileTree} {table : String} {d : Char}
    {header : Row} {rows : List Row} {text : List Char} (h : Divides d source.delimiter)
    (written : TableText d (header :: rows) text)
    (unmarked : byteOrderMark.isPrefixOf (Utf8.encode (String.ofList text)) = false)
    (hread : tree.read (source.pathOf table) = .ok (Utf8.encode (String.ofList text))) :
    source.columns tree table = .ok (header.map ({ name := · }))
      ∧ source.rows tree table none = .ok (rows.map .value)
      ∧ source.rowCount tree table = .ok (some rows.length) := by
  have hfields := fields_records_tableText h written
  have hcount := lineCount_tableText h written
  rw [Utf8.encode_ofList] at unmarked hread
  have hrecords : source.recordsOf (Utf8.bytesOf text)
      = records source.delimiter (Utf8.bytesOf text) := by
    unfold recordsOf skipByteOrderMark
    rw [if_neg (Bool.eq_false_iff.mp unmarked)]
  obtain ⟨first, rest, heq, hfirst, hrest⟩ := List.map_eq_cons_iff.mp hfields
  refine ⟨?_, ?_, ?_⟩
  · unfold columns DelimitedFolder.header
    rw [hread]
    dsimp only
    rw [hrecords, heq]
    dsimp only
    rw [readRow_of_fields hfirst]
  · rw [rows_of_read hread, allRows, hrecords, heq, List.tail_cons, rowsFrom_of_fields hrest]
    rfl
  · unfold DelimitedFolder.rowCount
    rw [hread]
    dsimp only
    rw [Delimited.rowCount, hcount, List.length_cons, Nat.add_sub_cancel]

/-- A header, a row with a line break and a quote, and a row of one empty field,
with both line ends and an empty line. -/
theorem read_tableText_three_records :
    let header : Row := ["a", "b"]
    let rows : List Row := [["x\ny", "1\""], [""]]
    let text : List Char := "a,\"b\"\r\n\n\"x\ny\",\"1\"\"\"\n\"\"".toList
    let content := Utf8.encode (String.ofList text)
    Divides ',' current.delimiter ∧ TableText ',' (header :: rows) text
      ∧ byteOrderMark.isPrefixOf content = false
      ∧ (single content).read (current.pathOf "t") = .ok content
      ∧ current.columns (single content) "t" = .ok [{ name := "a" }, { name := "b" }]
      ∧ current.rows (single content) "t" none = .ok [.value ["x\ny", "1\""], .value [""]]
      ∧ current.rowCount (single content) "t" = .ok (some 2) := by
  intro header rows text content
  have h : Divides ',' current.delimiter := ⟨by decide, by decide, by decide, by decide⟩
  have ordinary : ∀ c ∈ "a".toList, Ordinary ',' c := fun c hc => by
    obtain rfl := List.mem_singleton.mp hc
    decide
  have hheader : RecordText ',' ["a", "b"] "a,\"b\"".toList :=
    ⟨.more (.bare ordinary) (.one (.quoted _)), by decide⟩
  have hfirst : RecordText ',' ["x\ny", "1\""] "\"x\ny\",\"1\"\"\"".toList :=
    ⟨.more (.quoted _) (.one (.quoted _)), by decide⟩
  have hsecond : RecordText ',' [""] "\"\"".toList := ⟨.one (.quoted _), by decide⟩
  have written : TableText ',' (header :: rows) text :=
    .line hheader .both (.blank .feed (.line hfirst .feed (.last hsecond)))
  have unmarked : byteOrderMark.isPrefixOf content = false := by decide +kernel
  obtain ⟨hcolumns, hrows, hcount⟩ := read_tableText h written unmarked (read_single content)
  exact ⟨h, written, unmarked, read_single content, hcolumns, hrows, hcount⟩

end DelimitedFolder

end TableProfile
