import Mathlib.Data.List.Induction
import TableProfile.Proofs.RecordBounds
import TableProfile.Proofs.RowStreams
import TableProfile.Proofs.WrittenFiles

/-!
# Counting rows and reading them

The estimated number of rows is compared with the rows here. Both go through
the same bytes; one of them counts lines and knows about quotes only that each
of them opens or closes quoted text, the other knows where fields begin. They
agree on which line breaks are quoted as long as the quotes are paired wherever
a line breaks (`QuotesPaired`). Quotes that stand in plain text are the only
ones to spoil this (`quotesPaired_of_forall_ne_plain`).

With paired quotes the count and the reader keep in step from byte to byte
(`isUsed_step_iff`): a line is in use exactly as long as the reader is within a
record, or has ended one with a carriage return and waits for the line feed. A
record that begins while it waits has no line of its own. These records are the
difference between the rows and the estimate (`DelimitedFolder.rowCount_of_rows`).

Two more things are needed. The delimiter must not be a line feed, which divides
fields for the reader and ends lines for the count. And a byte-order mark, which
only the reader passes over, must not be alone on its line.
-/

namespace TableProfile

namespace Delimited

/-- **Quotes that are paired** wherever a line breaks: the reader is in quoted
text there exactly if the quotes before are odd in number. -/
def QuotesPaired (delimiter : UInt8) (bytes : List UInt8) : Prop :=
  ∀ i (h : i < bytes.length), isLineBreak bytes[i] = true →
    (standing delimiter (bytes.take i) = .within .quoted
      ↔ (bytes.take i).count quote % 2 = 1)

/-- No quote is a line break. -/
theorem ne_quote_of_isLineBreak {b : UInt8} (h : isLineBreak b = true) : b ≠ quote := by
  rintro rfl
  cases h

namespace LineCount

/-- The count of so many bytes from the beginning. -/
def ofBytes (bytes : List UInt8) : LineCount :=
  bytes.foldl step {}

theorem ofBytes_concat (bytes : List UInt8) (b : UInt8) :
    ofBytes (bytes ++ [b]) = (ofBytes bytes).step b :=
  List.foldl_concat _ _ _ _

variable {c : LineCount} {b : UInt8}

/-- A quote opens or closes quoted text, and is on the line. -/
theorem step_quote (c : LineCount) :
    c.step quote = { c with isQuoted := !c.isQuoted, isUsed := true } :=
  rfl

/-- A line feed outside quoted text ends the line. -/
theorem step_lineFeed (h : c.isQuoted = false) :
    c.step 0x0a = { c with lines := c.total, isUsed := false } := by
  unfold step
  rw [h]
  rfl

/-- A carriage return outside quoted text counts for nothing. -/
theorem step_return (h : c.isQuoted = false) : c.step 0x0d = c := by
  unfold step
  rw [h]
  rfl

/-- Whatever else is in quoted text is on the line. -/
theorem step_of_isQuoted (h : c.isQuoted = true) (hquote : b ≠ quote) :
    c.step b = { c with isUsed := true } := by
  unfold step
  rw [if_neg hquote, h, if_neg (fun hb => Bool.false_ne_true hb.2),
    if_neg (fun hb => Bool.false_ne_true hb.2)]

/-- Whatever is neither a quote nor a line break is on the line. -/
theorem step_of_not_isLineBreak (h : isLineBreak b = false) (hquote : b ≠ quote) :
    c.step b = { c with isUsed := true } := by
  obtain ⟨hfeed, hreturn⟩ := isLineBreak_eq_false_iff.mp h
  unfold step
  rw [if_neg hquote, if_neg (fun hb => hfeed hb.1), if_neg (fun hb => hreturn hb.1)]

theorem isUsed_step_of_not_isLineBreak (h : isLineBreak b = false) :
    (c.step b).isUsed = true := by
  by_cases hquote : b = quote
  · rw [hquote, step_quote]
  · rw [step_of_not_isLineBreak h hquote]

theorem isQuoted_step (c : LineCount) (b : UInt8) :
    (c.step b).isQuoted = if b = quote then !c.isQuoted else c.isQuoted := by
  unfold step
  split
  · rfl
  · split
    · rfl
    · split <;> rfl

/-- **A byte adds a line** exactly if it is the first that is used on it. -/
theorem total_step (c : LineCount) (b : UInt8) :
    (c.step b).total = c.total + if !c.isUsed && (c.step b).isUsed then 1 else 0 := by
  unfold step
  obtain ⟨lines, isQuoted, isUsed⟩ := c
  unfold total
  split
  · cases isUsed <;> rfl
  · split
    · cases isUsed <;> rfl
    · split <;> cases isUsed <;> rfl

theorem isQuoted_ofBytes (bytes : List UInt8) :
    (ofBytes bytes).isQuoted = true ↔ bytes.count quote % 2 = 1 := by
  induction bytes using List.reverseRecOn with
  | nil => exact iff_of_false Bool.false_ne_true Nat.zero_ne_one
  | append_singleton bytes b ih =>
    rw [ofBytes_concat, isQuoted_step, List.count_append, List.count_singleton]
    by_cases hquote : b = quote
    · rw [if_pos hquote, if_pos (beq_iff_eq.mpr hquote), Bool.not_eq_true', ← Bool.not_eq_true, ih]
      omega
    · rw [if_neg hquote, if_neg (by rwa [beq_iff_eq]), ih, Nat.add_zero]

end LineCount

section

variable {delimiter : UInt8}

/-- A line break in quoted text belongs to it. -/
theorem Standing.step_quoted {b : UInt8} (h : isLineBreak b = true) :
    (within .quoted).step delimiter b = .within .quoted := by
  show Place.quoted.stand delimiter b = _
  unfold Place.stand
  rw [Place.next?, if_neg (ne_quote_of_isLineBreak h)]

/-- **A line feed outside quoted text** leaves the reader apart. -/
theorem Standing.step_lineFeed {s : Standing} (hd : delimiter ≠ 0x0a)
    (h : s ≠ .within .quoted) : s.step delimiter 0x0a = .apart := by
  have hunquoted : Place.unquoted? delimiter 0x0a = none := if_neg hd.symm
  cases s with
  | apart => rfl
  | returned => rfl
  | within place =>
    have hplace : place ≠ .quoted := fun heq => h (congrArg within heq)
    have hnext := (Place.next?_of_ne_quoted hplace (by decide)).trans hunquoted
    show place.stand delimiter 0x0a = _
    unfold Place.stand
    rw [hnext]
    rfl

/-- **A carriage return** leaves the reader where no line begins, unless it
was apart. -/
theorem Standing.step_return_eq_apart_iff {s : Standing} :
    s.step delimiter 0x0d = .apart ↔ s = .apart := by
  cases s with
  | apart => exact iff_of_true rfl rfl
  | returned => exact iff_of_false Standing.noConfusion Standing.noConfusion
  | within place =>
    refine iff_of_false ?_ Standing.noConfusion
    show place.stand delimiter 0x0d ≠ _
    unfold Place.stand
    split
    · exact Standing.noConfusion
    · exact Standing.noConfusion

theorem QuotesPaired.of_concat {bytes : List UInt8} {b : UInt8}
    (h : QuotesPaired delimiter (bytes ++ [b])) : QuotesPaired delimiter bytes := by
  intro i hi hbreak
  have hi' : i < (bytes ++ [b]).length := Nat.lt_of_lt_of_le hi (by simp)
  have hsame := h i hi' (by rwa [List.getElem_append_left hi])
  rwa [List.take_append_of_le_length (Nat.le_of_lt hi)] at hsame

theorem QuotesPaired.concat {bytes : List UInt8} {b : UInt8}
    (h : QuotesPaired delimiter (bytes ++ [b])) (hbreak : isLineBreak b = true) :
    standing delimiter bytes = .within .quoted ↔ bytes.count quote % 2 = 1 := by
  have hlast := h bytes.length (by simp) (by simpa using hbreak)
  rwa [List.take_left] at hlast

/-- **One byte keeps reader and count in step**: a line is in use exactly if
the reader is not apart. -/
theorem isUsed_step_iff {s : Standing} {c : LineCount} {b : UInt8} (hd : delimiter ≠ 0x0a)
    (used : c.isUsed = true ↔ s ≠ .apart)
    (paired : isLineBreak b = true → (s = .within .quoted ↔ c.isQuoted = true)) :
    (c.step b).isUsed = true ↔ s.step delimiter b ≠ .apart := by
  cases hbreak : isLineBreak b with
  | false =>
    refine iff_of_true (LineCount.isUsed_step_of_not_isLineBreak hbreak) fun happart => ?_
    have hwithin : ∃ place, s.step delimiter b = .within place := by
      cases s with
      | within place => exact place.exists_stand hbreak
      | _ => exact Standing.exists_step_of_begins (congrArg not hbreak)
    obtain ⟨place, hplace⟩ := hwithin
    cases happart.symm.trans hplace
  | true =>
    have hquoted := paired hbreak
    cases hq : c.isQuoted with
    | true =>
      obtain rfl := hquoted.mpr hq
      rw [Standing.step_quoted hbreak,
        LineCount.step_of_isQuoted hq (ne_quote_of_isLineBreak hbreak)]
      exact iff_of_true rfl Standing.noConfusion
    | false =>
      have hunquoted : s ≠ .within .quoted := by
        rw [Ne, hquoted, hq]
        exact Bool.false_ne_true
      rcases isLineBreak_iff.mp hbreak with rfl | rfl
      · rw [Standing.step_lineFeed hd hunquoted, LineCount.step_lineFeed hq]
        exact iff_of_false Bool.false_ne_true fun h => h rfl
      · rw [LineCount.step_return hq, Ne, Standing.step_return_eq_apart_iff]
        exact used

/-- **What a byte adds to the records** it adds to the lines as well, unless it
crowds the line of the record before. -/
theorem begins_eq_add {s : Standing} {c : LineCount} {b : UInt8} (hd : delimiter ≠ 0x0a)
    (used : c.isUsed = true ↔ s ≠ .apart)
    (paired : isLineBreak b = true → (s = .within .quoted ↔ c.isQuoted = true)) :
    (if s.begins b then 1 else 0)
      = (if !c.isUsed && (c.step b).isUsed then 1 else 0) + if s.crowds b then 1 else 0 := by
  cases s with
  | apart =>
    have hunused : c.isUsed = false := Bool.of_not_eq_true fun h => used.mp h rfl
    rw [hunused]
    cases hbreak : isLineBreak b with
    | false =>
      rw [LineCount.isUsed_step_of_not_isLineBreak hbreak, Standing.begins, hbreak]
      rfl
    | true =>
      have hstep : (c.step b).isUsed = false := by
        refine Bool.of_not_eq_true fun h => (isUsed_step_iff hd used paired).mp h ?_
        rw [Standing.step, if_pos hbreak]
      rw [hstep, Standing.begins, hbreak]
      rfl
  | returned =>
    rw [used.mpr Standing.noConfusion]
    exact (Nat.zero_add _).symm
  | within place =>
    rw [used.mpr Standing.noConfusion]
    rfl

/-- **Reader and count run side by side** as long as the quotes are paired: a
line is in use exactly if the reader is not apart, and the lines that count,
with the records that crowd them, are the records that began. -/
theorem total_add_crowded {bytes : List UInt8} (hd : delimiter ≠ 0x0a)
    (paired : QuotesPaired delimiter bytes) :
    ((LineCount.ofBytes bytes).isUsed = true ↔ standing delimiter bytes ≠ .apart)
      ∧ (LineCount.ofBytes bytes).total + crowded delimiter bytes
        = Standing.apart.tally delimiter Standing.begins bytes := by
  induction bytes using List.reverseRecOn with
  | nil => exact ⟨iff_of_false Bool.false_ne_true fun h => h rfl, rfl⟩
  | append_singleton bytes b ih =>
    obtain ⟨used, htotal⟩ := ih paired.of_concat
    have hnow := paired.concat
    rw [← LineCount.isQuoted_ofBytes] at hnow
    refine ⟨?_, ?_⟩
    · rw [LineCount.ofBytes_concat, standing_concat]
      exact isUsed_step_iff hd used hnow
    · have hbegins := begins_eq_add hd used hnow
      unfold crowded at htotal ⊢
      rw [LineCount.ofBytes_concat, LineCount.total_step, Standing.tally_concat,
        Standing.tally_concat, ← htotal]
      change _ = _ + if (standing delimiter bytes).begins b then 1 else 0
      rw [hbegins]
      exact Nat.add_add_add_comm _ _ _ _

/-- Where a line is crowded, some line counts. -/
theorem crowded_eq_zero_or_total_pos {bytes : List UInt8} (hd : delimiter ≠ 0x0a)
    (paired : QuotesPaired delimiter bytes) :
    crowded delimiter bytes = 0 ∨ 0 < (LineCount.ofBytes bytes).total := by
  induction bytes using List.reverseRecOn with
  | nil => exact .inl rfl
  | append_singleton bytes b ih =>
    have hmono : (LineCount.ofBytes bytes).total ≤ (LineCount.ofBytes (bytes ++ [b])).total := by
      rw [LineCount.ofBytes_concat, LineCount.total_step]
      exact Nat.le_add_right _ _
    cases hcrowds : (standing delimiter bytes).crowds b with
    | false =>
      have hsame : crowded delimiter (bytes ++ [b]) = crowded delimiter bytes := by
        unfold crowded
        rw [Standing.tally_concat]
        change _ + (if (standing delimiter bytes).crowds b then 1 else 0) = _
        rw [hcrowds]
        rfl
      rw [hsame]
      exact (ih paired.of_concat).imp_right fun hpos => Nat.lt_of_lt_of_le hpos hmono
    | true =>
      -- the record before is on the line that it crowds
      have hreturned : standing delimiter bytes = .returned := by
        rw [Standing.crowds, Bool.and_eq_true, decide_eq_true_eq] at hcrowds
        exact hcrowds.1
      have hused : (LineCount.ofBytes bytes).isUsed = true := by
        rw [(total_add_crowded hd paired.of_concat).1, hreturned]
        exact Standing.noConfusion
      refine .inr (Nat.lt_of_lt_of_le ?_ hmono)
      rw [LineCount.total, if_pos hused]
      exact Nat.succ_pos _

/-- **The estimate misses the records that crowd a line**, and no others, as
long as the quotes are paired. -/
theorem rowCount_add_crowded {bytes : List UInt8} (hd : delimiter ≠ 0x0a)
    (paired : QuotesPaired delimiter bytes) :
    rowCount bytes + crowded delimiter bytes = (records delimiter bytes).length - 1 := by
  have htotal := (total_add_crowded hd paired).2
  rw [length_records, ← htotal]
  show (LineCount.ofBytes bytes).total - 1 + crowded delimiter bytes = _
  rcases crowded_eq_zero_or_total_pos hd paired with hzero | hpos
  · rw [hzero]
    rfl
  · omega

/-- **A byte-order mark in front does not count**, unless a line break follows
it. -/
theorem rowCount_skipByteOrderMark {content : List UInt8}
    (h : ∀ b rest, content = byteOrderMark ++ b :: rest → isLineBreak b = false) :
    rowCount (skipByteOrderMark content) = rowCount content := by
  unfold skipByteOrderMark
  split
  · rename_i hmark
    obtain ⟨rest, rfl⟩ := List.isPrefixOf_iff_prefix.mp hmark
    show rowCount rest = _
    cases rest with
    | nil => rfl
    | cons b rest =>
      -- the first byte of the line makes up for the mark
      have hbyte : LineCount.step { isUsed := true } b = LineCount.step {} b := by
        have hbreak := h b rest rfl
        by_cases hquote : b = quote
        · rw [hquote]
          rfl
        · rw [LineCount.step_of_not_isLineBreak hbreak hquote,
            LineCount.step_of_not_isLineBreak hbreak hquote]
      show (rest.foldl LineCount.step (LineCount.step {} b)).total - 1
        = (rest.foldl LineCount.step (LineCount.step { isUsed := true } b)).total - 1
      rw [hbyte]
  · rfl

/-! ## When quotes are paired -/

/-- Without a quote, no byte leads into quoted text. -/
theorem Place.stand_eq_quoted_iff {place : Place} {b : UInt8} (h : b ≠ quote) :
    place.stand delimiter b = .within .quoted ↔ place = .quoted := by
  have hunquoted : ∀ next, unquoted? delimiter b = some next → next ≠ quoted := by
    intro next hnext
    unfold unquoted? at hnext
    split at hnext
    · obtain rfl := Option.some.inj hnext
      exact Place.noConfusion
    · split at hnext
      · cases hnext
      · obtain rfl := Option.some.inj hnext
        exact Place.noConfusion
  by_cases hplace : place = quoted
  · subst hplace
    refine iff_of_true ?_ rfl
    unfold stand
    rw [next?, if_neg h]
  · refine iff_of_false (fun hstand => ?_) hplace
    unfold stand at hstand
    rw [next?_of_ne_quoted hplace h] at hstand
    split at hstand
    · rename_i next hnext
      exact hunquoted next hnext (Standing.within.inj hstand)
    · split at hstand <;> cases hstand

theorem Standing.step_eq_quoted_iff {s : Standing} {b : UInt8} (h : b ≠ quote) :
    s.step delimiter b = .within .quoted ↔ s = .within .quoted := by
  have hstart : Place.start.stand delimiter b ≠ .within .quoted := by
    rw [Ne, Place.stand_eq_quoted_iff h]
    exact Place.noConfusion
  cases s with
  | apart =>
    refine iff_of_false (fun hstep => ?_) Standing.noConfusion
    rw [step] at hstep
    split at hstep
    · cases hstep
    · exact hstart hstep
  | returned =>
    refine iff_of_false (fun hstep => ?_) Standing.noConfusion
    rw [step] at hstep
    split at hstep
    · cases hstep
    · split at hstep
      · cases hstep
      · exact hstart hstep
  | within place => exact (Place.stand_eq_quoted_iff h).trans (Standing.within.injEq _ _ ▸ Iff.rfl)

/-- **A quote leads into quoted text** from everywhere but from there and from
plain text. -/
theorem Standing.step_quote_eq_quoted_iff {s : Standing} (h : s ≠ .within .plain) :
    s.step delimiter quote = .within .quoted ↔ s ≠ .within .quoted := by
  cases s with
  | apart => exact iff_of_true rfl Standing.noConfusion
  | returned => exact iff_of_true rfl Standing.noConfusion
  | within place =>
    cases place with
    | start => exact iff_of_true rfl (fun h => Place.noConfusion (Standing.within.inj h))
    | plain => exact absurd rfl h
    | quoted =>
      exact iff_of_false (fun h => Place.noConfusion (Standing.within.inj h)) fun h => h rfl
    | closing => exact iff_of_true rfl (fun h => Place.noConfusion (Standing.within.inj h))

/-- **Quotes are paired** if none of them stands in plain text. -/
theorem quotesPaired_of_forall_ne_plain {bytes : List UInt8}
    (h : ∀ before b after, bytes = before ++ b :: after → b = quote →
      standing delimiter before ≠ .within .plain) : QuotesPaired delimiter bytes := by
  have hprefix : ∀ before after, bytes = before ++ after →
      (standing delimiter before = .within .quoted ↔ before.count quote % 2 = 1) := by
    intro before
    induction before using List.reverseRecOn with
    | nil => exact fun _ _ => iff_of_false Standing.noConfusion Nat.zero_ne_one
    | append_singleton before b ih =>
      intro after heq
      rw [List.append_assoc, List.singleton_append] at heq
      have hbefore := ih _ heq
      rw [standing_concat, List.count_append, List.count_singleton]
      by_cases hquote : b = quote
      · rw [hquote, Standing.step_quote_eq_quoted_iff (h _ _ _ heq hquote), Ne, hbefore,
          if_pos (beq_self_eq_true _)]
        omega
      · rw [Standing.step_eq_quoted_iff hquote, hbefore, if_neg (by rwa [beq_iff_eq]),
          Nat.add_zero]
  exact fun i _ _ => hprefix _ _ (List.take_append_drop i bytes).symm

end

end Delimited

/-! ## The rows of a folder -/

namespace DelimitedFolder

open Delimited Storage

/-- **Rows that can all be read** are as many as their records. -/
theorem length_rowsFrom {table : String} {content : List UInt8} {number : Nat}
    {records : List Located}
    (h : ∀ answer ∈ rowsFrom table content number records, ∃ row, answer = .value row) :
    (rowsFrom table content number records).length = records.length := by
  induction records generalizing number with
  | nil => rfl
  | cons record rest ih =>
    unfold rowsFrom at h ⊢
    split
    · rename_i row hrow
      rw [hrow] at h
      rw [List.length_cons, List.length_cons,
        ih fun answer hmem => h answer (List.mem_cons_of_mem _ hmem)]
    · rename_i fault hfault
      rw [hfault] at h
      obtain ⟨row, heq⟩ := h _ List.mem_cons_self
      cases heq

instance (delimiter : UInt8) (bytes : List UInt8) : Decidable (QuotesPaired delimiter bytes) :=
  inferInstanceAs (Decidable (∀ i (h : i < bytes.length), isLineBreak bytes[i] = true →
    (standing delimiter (bytes.take i) = .within .quoted
      ↔ (bytes.take i).count quote % 2 = 1)))

/-- **The estimated number of rows, and the rows**: with paired quotes they
differ by the records that crowd the line of another, if all rows can be read.
So the estimate is the number of rows exactly if no record begins right after a
carriage return that ended a record. The fields must not be divided by line
feeds, and no line break may follow a byte-order mark. -/
theorem rowCount_of_rows {source : DelimitedFolder} {tree : FileTree} {table : String}
    {content : List UInt8} {rows : Rows} (hread : tree.read (source.pathOf table) = .ok content)
    (hrows : source.rows tree table none = .ok rows)
    (complete : ∀ answer ∈ rows, ∃ row, answer = .value row)
    (hd : source.delimiter ≠ 0x0a)
    (paired : QuotesPaired source.delimiter (skipByteOrderMark content))
    (marked : ∀ b rest, content = byteOrderMark ++ b :: rest → isLineBreak b = false) :
    ∃ n : Nat, source.rowCount tree table = .ok (some n)
      ∧ n + crowded source.delimiter (skipByteOrderMark content) = rows.length := by
  refine ⟨Delimited.rowCount content, ?_, ?_⟩
  · unfold DelimitedFolder.rowCount
    rw [hread]
  · rw [rows_of_read hread] at hrows
    obtain rfl := Except.ok.inj hrows
    have hlength := length_rowsFrom complete
    rw [← rowCount_skipByteOrderMark marked, rowCount_add_crowded hd paired]
    exact (hlength.trans List.length_tail).symm

/-- The current folder. -/
def current : DelimitedFolder := { folder := "" }

/-- The tree of a single file. -/
def single (content : List UInt8) : FileTree := { entries := [(["t"], .file content)] }

theorem read_single (content : List UInt8) :
    (single content).read (current.pathOf "t") = .ok content := by
  have hpath : current.pathOf "t" = "t" := by decide +kernel
  have hsteps : pathSteps "t" = ["t"] := by
    apply pathSteps_of_short <;> decide +kernel
  have horigin : (single content).origin "t" = [] := by
    have hrelative : "t".startsWith "/" = false := by decide +kernel
    unfold FileTree.origin
    rw [hrelative]
    rfl
  have hresolve : (single content).resolve "t" = .ok (["t"], .file content) := by
    unfold FileTree.resolve
    rw [if_neg (by decide +kernel), if_neg (by decide +kernel), hsteps, horigin]
    rfl
  unfold FileTree.read
  rw [hpath, hresolve]

theorem rows_single (content : List UInt8) :
    current.rows (single content) "t" none = .ok (current.allRows "t" content) :=
  rows_of_read (read_single content) none

/-- Three records, of which the first holds a line break in quoted text and the
second ends with a carriage return: one of the two rows is counted. -/
theorem rowCount_of_rows_three_records :
    let content : List UInt8 := [0x22, 0x61, 0x0a, 0x22, 0x0a, 0x62, 0x0d, 0x63, 0x0a]
    let rows : Rows := [.value ["b"], .value ["c"]]
    (single content).read (current.pathOf "t") = .ok content
      ∧ current.rows (single content) "t" none = .ok rows
      ∧ (∀ answer ∈ rows, ∃ row, answer = .value row) ∧ current.delimiter ≠ 0x0a
      ∧ QuotesPaired current.delimiter (skipByteOrderMark content)
      ∧ (∀ b rest, content = byteOrderMark ++ b :: rest → isLineBreak b = false)
      ∧ crowded current.delimiter (skipByteOrderMark content) = 1
      ∧ current.rowCount (single content) "t" = .ok (some 1) := by
  intro content rows
  have hrows : current.rows (single content) "t" none = .ok rows := by
    rw [rows_single]
    have hfields : (current.recordsOf content).tail.map (·.fields)
        = [["b"], ["c"]].map rawFields := by
      decide +kernel
    exact congrArg Except.ok (rowsFrom_of_fields hfields)
  have complete : ∀ answer ∈ rows, ∃ row, answer = .value row := by
    intro answer hmem
    simp only [rows, List.mem_cons, List.not_mem_nil, or_false] at hmem
    rcases hmem with rfl | rfl
    · exact ⟨_, rfl⟩
    · exact ⟨_, rfl⟩
  have hd : current.delimiter ≠ 0x0a := by decide
  have paired : QuotesPaired current.delimiter (skipByteOrderMark content) := by decide
  have marked : ∀ b rest, content = byteOrderMark ++ b :: rest → isLineBreak b = false :=
    fun b rest h => absurd (List.cons.inj h).1 (by decide)
  have hcrowded : crowded current.delimiter (skipByteOrderMark content) = 1 := by decide
  obtain ⟨n, hcount, hsum⟩ :=
    rowCount_of_rows (read_single content) hrows complete hd paired marked
  rw [hcrowded] at hsum
  obtain rfl : n = 1 := Nat.succ.inj hsum
  exact ⟨read_single content, hrows, complete, hd, paired, marked, hcrowded, hcount⟩

/-- **A quote in plain text spoils the count.** Of the two rows, of which the
first ends with a quote, one is counted. -/
theorem rowCount_eq_one_of_two_rows :
    let content : List UInt8 := [0x61, 0x0a, 0x78, 0x22, 0x0a, 0x79, 0x0a]
    current.rows (single content) "t" none = .ok [.value ["x\""], .value ["y"]]
      ∧ current.rowCount (single content) "t" = .ok (some 1) := by
  intro content
  refine ⟨?_, ?_⟩
  · rw [rows_single]
    have hfields : (current.recordsOf content).tail.map (·.fields)
        = [["x\""], ["y"]].map rawFields := by
      decide +kernel
    exact congrArg Except.ok (rowsFrom_of_fields hfields)
  · unfold DelimitedFolder.rowCount
    rw [read_single]
    rfl

end DelimitedFolder

end TableProfile
