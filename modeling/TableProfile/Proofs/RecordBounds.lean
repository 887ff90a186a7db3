import Mathlib.Data.List.Basic
import TableProfile.Delimited.Record

/-!
# Where records begin

The reader of delimited text takes a record as a whole. To compare it with
anything that looks at one byte after the other, its way is cut into single
bytes here: at each byte it stands between two records or at a place within
one (`Standing`), and the byte tells where it stands next (`Standing.step`).

Nothing is lost by this. The records of a text are as many as the bytes at
which the reader enters one (`length_records`). Line breaks that stand between
records make no difference, nor does it matter which of the two ended the
record before (`tally_begins_returned`); but whether a carriage return did is
kept, for the sake of those who do not take it for the end of a line.
-/

namespace TableProfile.Delimited

/-- The place after a byte outside quoted text, or none if the record ends
with it. -/
def Place.unquoted? (delimiter b : UInt8) : Option Place :=
  if b = delimiter then some start else if isLineBreak b then none else some plain

/-- **The place after a byte**, or none if the record ends with it. -/
def Place.next? (delimiter : UInt8) (place : Place) (b : UInt8) : Option Place :=
  match place with
  | start => if b = quote then some quoted else unquoted? delimiter b
  | plain => unquoted? delimiter b
  | quoted => some (if b = quote then closing else quoted)
  | closing => if b = quote then some quoted else unquoted? delimiter b

/-- Whether a byte that ends neither its field nor the record is a byte of the
field. Quotes that open or close quoted text are not. -/
def Place.keeps (place : Place) (b : UInt8) : Bool :=
  match place with
  | start => b != quote
  | plain => true
  | quoted => b != quote
  | closing => true

/-- **Where the reader of a text stands.** -/
inductive Standing where
  /-- Before a record, at the beginning of a line. -/
  | apart
  /-- Before a record, after the carriage return that ended the one before. -/
  | returned
  /-- Within a record. -/
  | within (place : Place)
  deriving DecidableEq, Repr

/-- Where the reader stands after a byte of a record. -/
def Place.stand (delimiter : UInt8) (place : Place) (b : UInt8) : Standing :=
  match place.next? delimiter b with
  | some place => .within place
  | none => if b = 0x0d then .returned else .apart

namespace Standing

/-- **Where the reader stands after a byte.** -/
def step (delimiter : UInt8) (s : Standing) (b : UInt8) : Standing :=
  match s with
  | apart => if isLineBreak b then apart else Place.start.stand delimiter b
  | returned =>
    if b = 0x0a then apart else if b = 0x0d then returned else Place.start.stand delimiter b
  | within place => place.stand delimiter b

/-- **Whether a record begins with a byte.** -/
def begins (s : Standing) (b : UInt8) : Bool :=
  match s with
  | apart => !isLineBreak b
  | returned => !isLineBreak b
  | within _ => false

/-- Whether a record begins with a byte on the line of the record before, of
which a carriage return was the end. -/
def crowds (s : Standing) (b : UInt8) : Bool :=
  s = returned && !isLineBreak b

/-- **How many bytes** meet a condition on where the reader stands before
them. -/
def tally (delimiter : UInt8) (test : Standing → UInt8 → Bool) (s : Standing) : List UInt8 → Nat
  | [] => 0
  | b :: rest => (if test s b then 1 else 0) + (s.step delimiter b).tally delimiter test rest

end Standing

/-- **Where the reader stands after bytes.** -/
def standing (delimiter : UInt8) (bytes : List UInt8) : Standing :=
  bytes.foldl (Standing.step delimiter) .apart

/-- **The records that begin on the line of the record before.** -/
def crowded (delimiter : UInt8) (bytes : List UInt8) : Nat :=
  Standing.apart.tally delimiter Standing.crowds bytes

section

variable {delimiter : UInt8}

theorem standing_concat (bytes : List UInt8) (b : UInt8) :
    standing delimiter (bytes ++ [b]) = (standing delimiter bytes).step delimiter b :=
  List.foldl_concat _ _ _ _

theorem Standing.tally_concat (test : Standing → UInt8 → Bool) (s : Standing)
    (bytes : List UInt8) (b : UInt8) :
    s.tally delimiter test (bytes ++ [b])
      = s.tally delimiter test bytes
        + if test (bytes.foldl (Standing.step delimiter) s) b then 1 else 0 := by
  induction bytes generalizing s with
  | nil => exact Nat.add_comm _ _
  | cons a rest ih =>
    rw [List.cons_append, tally, tally, ih, Nat.add_assoc]
    rfl

/-! ## The bytes of a record -/

theorem isLineBreak_iff {b : UInt8} : isLineBreak b = true ↔ b = 0x0a ∨ b = 0x0d := by
  rw [isLineBreak, Bool.or_eq_true, beq_iff_eq, beq_iff_eq]

theorem isLineBreak_eq_false_iff {b : UInt8} :
    isLineBreak b = false ↔ b ≠ 0x0a ∧ b ≠ 0x0d := by
  rw [isLineBreak, Bool.or_eq_false_iff, beq_eq_false_iff_ne, beq_eq_false_iff_ne]

/-- Outside quoted text, a byte that is no quote leads where it leads from
everywhere. -/
theorem Place.next?_of_ne_quoted {place : Place} {b : UInt8} (hplace : place ≠ quoted)
    (hb : b ≠ quote) : place.next? delimiter b = unquoted? delimiter b := by
  cases place with
  | start => exact if_neg hb
  | plain => rfl
  | quoted => exact absurd rfl hplace
  | closing => exact if_neg hb

/-- **A record is read byte by byte**: each byte leads to the next place, ends
its field or ends the record. -/
theorem fieldsFrom_cons (place : Place) (field : List UInt8) (b : UInt8) (rest : List UInt8) :
    fieldsFrom delimiter place field (b :: rest)
      = match place.next? delimiter b with
        | none => ([field.reverse], rest)
        | some .start =>
          (field.reverse :: (fieldsFrom delimiter .start [] rest).1,
            (fieldsFrom delimiter .start [] rest).2)
        | some next =>
          fieldsFrom delimiter next (if place.keeps b then b :: field else field) rest := by
  have hunquoted : (if b = delimiter then
        (field.reverse :: (fieldsFrom delimiter .start [] rest).1,
          (fieldsFrom delimiter .start [] rest).2)
      else if isLineBreak b then ([field.reverse], rest)
      else fieldsFrom delimiter .plain (b :: field) rest)
      = match Place.unquoted? delimiter b with
        | none => ([field.reverse], rest)
        | some .start =>
          (field.reverse :: (fieldsFrom delimiter .start [] rest).1,
            (fieldsFrom delimiter .start [] rest).2)
        | some next => fieldsFrom delimiter next (b :: field) rest := by
    unfold Place.unquoted?
    by_cases hd : b = delimiter
    · rw [if_pos hd, if_pos hd]
    · rw [if_neg hd, if_neg hd]
      by_cases hbreak : isLineBreak b
      · rw [if_pos hbreak, if_pos hbreak]
      · rw [if_neg hbreak, if_neg hbreak]
  cases place with
  | start =>
    rw [fieldsFrom]
    unfold Place.next? Place.keeps
    by_cases hq : b = quote
    · simp [hq]
    · simpa [hq] using hunquoted
  | plain =>
    rw [fieldsFrom]
    exact hunquoted
  | quoted =>
    rw [fieldsFrom]
    unfold Place.next? Place.keeps
    by_cases hq : b = quote <;> simp [hq]
  | closing =>
    rw [fieldsFrom]
    unfold Place.next? Place.keeps
    by_cases hq : b = quote
    · simp [hq]
    · simpa [hq] using hunquoted

/-- **Only a line break ends a record.** -/
theorem Place.exists_next? (place : Place) {b : UInt8} (h : isLineBreak b = false) :
    ∃ next, place.next? delimiter b = some next := by
  have hunquoted : ∃ next, unquoted? delimiter b = some next := by
    unfold unquoted?
    rw [if_neg (Bool.eq_false_iff.mp h)]
    split <;> exact ⟨_, rfl⟩
  cases place with
  | start =>
    rw [next?]
    split
    · exact ⟨_, rfl⟩
    · exact hunquoted
  | plain => exact hunquoted
  | quoted => exact ⟨_, rfl⟩
  | closing =>
    rw [next?]
    split
    · exact ⟨_, rfl⟩
    · exact hunquoted

theorem Place.exists_stand (place : Place) {b : UInt8} (h : isLineBreak b = false) :
    ∃ next, place.stand delimiter b = .within next := by
  obtain ⟨next, hnext⟩ := @Place.exists_next? delimiter place b h
  unfold stand
  rw [hnext]
  exact ⟨next, rfl⟩

/-- A record that begins is entered. -/
theorem Standing.exists_step_of_begins {s : Standing} {b : UInt8} (h : s.begins b = true) :
    ∃ place, s.step delimiter b = .within place := by
  have hentered (hbreak : isLineBreak b = false) :
      ∃ place, Place.start.stand delimiter b = .within place := Place.start.exists_stand hbreak
  cases s with
  | apart =>
    have hbreak : isLineBreak b = false := by simpa [begins] using h
    unfold step
    rw [if_neg (Bool.eq_false_iff.mp hbreak)]
    exact hentered hbreak
  | returned =>
    have hbreak : isLineBreak b = false := by simpa [begins] using h
    obtain ⟨hfeed, hreturn⟩ := isLineBreak_eq_false_iff.mp hbreak
    unfold step
    rw [if_neg hfeed, if_neg hreturn]
    exact hentered hbreak
  | within place => cases h

/-! ## Counting records -/

/-- **It does not matter to the records** what ended the record before. -/
theorem Standing.tally_begins_returned (bytes : List UInt8) :
    returned.tally delimiter begins bytes = apart.tally delimiter begins bytes := by
  induction bytes with
  | nil => rfl
  | cons b rest ih =>
    rw [tally, tally]
    refine congrArg ((if !isLineBreak b then 1 else 0) + ·) ?_
    unfold step
    by_cases hfeed : b = 0x0a
    · rw [if_pos hfeed, hfeed]
      rfl
    · by_cases hreturn : b = 0x0d
      · rw [if_neg hfeed, if_pos hreturn, hreturn]
        exact ih
      · have hbreak : isLineBreak b = false := isLineBreak_eq_false_iff.mpr ⟨hfeed, hreturn⟩
        rw [if_neg hfeed, if_neg hreturn, if_neg (Bool.eq_false_iff.mp hbreak)]

/-- **What is left after a record** has as many records as begin from within
it. -/
theorem tally_begins_within (place : Place) (field bytes : List UInt8) :
    (Standing.within place).tally delimiter Standing.begins bytes
      = Standing.apart.tally delimiter Standing.begins
        (fieldsFrom delimiter place field bytes).2 := by
  induction bytes generalizing place field with
  | nil => rw [fieldsFrom]; rfl
  | cons b rest ih =>
    rw [fieldsFrom_cons, Standing.tally]
    show (0 + (place.stand delimiter b).tally delimiter Standing.begins rest) = _
    rw [Nat.zero_add]
    unfold Place.stand
    split
    · rename_i next hnext
      rw [hnext]
      cases next with
      | start => exact ih _ _
      | plain => exact ih _ _
      | quoted => exact ih _ _
      | closing => exact ih _ _
    · rename_i hnone
      rw [hnone]
      split
      · exact Standing.tally_begins_returned rest
      · rfl

theorem tally_begins_skipLineBreaks (bytes : List UInt8) :
    Standing.apart.tally delimiter Standing.begins bytes
      = Standing.apart.tally delimiter Standing.begins (skipLineBreaks bytes) := by
  induction bytes with
  | nil => rfl
  | cons b rest ih =>
    unfold skipLineBreaks
    rw [List.dropWhile_cons]
    split
    · rename_i hbreak
      rw [Standing.tally, Standing.step, if_pos hbreak, ih]
      show (if !isLineBreak b then 1 else 0) + _ = _
      rw [hbreak]
      exact Nat.zero_add _
    · rfl

theorem isLineBreak_of_skipLineBreaks {bytes rest : List UInt8} {b : UInt8}
    (h : skipLineBreaks bytes = b :: rest) : isLineBreak b = false := by
  have hhead := List.head?_dropWhile_not isLineBreak bytes
  unfold skipLineBreaks at h
  rwa [h] at hhead

/-- **The records of a text are those that begin in it.** -/
theorem length_records (bytes : List UInt8) :
    (records delimiter bytes).length = Standing.apart.tally delimiter Standing.begins bytes := by
  fun_induction records delimiter bytes with
  | case1 bytes hnone =>
    rw [tally_begins_skipLineBreaks]
    unfold record? at hnone
    split at hnone
    · rename_i hempty
      rw [hempty]
      rfl
    · cases hnone
  | case2 bytes fields rest hsome ih =>
    rw [tally_begins_skipLineBreaks, List.length_cons, ih]
    unfold record? at hsome
    cases hskip : skipLineBreaks bytes with
    | nil =>
      rw [hskip] at hsome
      cases hsome
    | cons b after =>
      rw [hskip] at hsome
      have hrest : (fieldsFrom delimiter .start [] (b :: after)).2 = rest :=
        (Prod.mk.inj (Option.some.inj hsome)).2
      have hbreak := isLineBreak_of_skipLineBreaks hskip
      rw [← hrest, ← tally_begins_within, Standing.tally, Standing.tally]
      show 0 + (Place.start.stand delimiter b).tally delimiter Standing.begins after + 1
        = (if !isLineBreak b then 1 else 0)
          + (if isLineBreak b then Standing.apart
              else Place.start.stand delimiter b).tally delimiter Standing.begins after
      rw [hbreak, Nat.zero_add, Nat.add_comm]
      rfl

end

end TableProfile.Delimited
