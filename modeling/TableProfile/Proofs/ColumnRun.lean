import Mathlib.Data.List.Induction
import TableProfile.Proofs.Tokens

/-!
# A column from its first cell to its last

A cell does two things to a column. It is *taken in*: counted as a value or
as words, with the turn into free text if this is the checkpoint. Then the
sheet is *trimmed*, if it holds more than memory allows. The first half
keeps what the sheet says of the cells exact, the second may discard
entries, and everything that is proved here of a whole run comes from these
two halves by one induction on the last cell.

Whatever happens, the sheet understates what the column counts
(`understates_observeAll`). If no trim discards an entry, it is the tally of
it (`isTallyOf_observeAll`), and the column knows whether that is so
(`discardedEarly_observeAll`). The sheet itself does not: the turn into free
text begins a new sheet, which has discarded nothing, from one that may have
(`count_of_hasDiscarded_eq_false`).
-/

namespace TableProfile

/-- **What a column counts** of its cells: the cells as they are, or their
words. -/
def Counting.seen : Counting → List String → List String
  | .cells => fun list => list
  | .words => fun list => list.flatMap ColumnProfile.cellWords

theorem Counting.seen_append (counting : Counting) (earlier later : List String) :
    counting.seen (earlier ++ later) = counting.seen earlier ++ counting.seen later := by
  cases counting with
  | cells => rfl
  | words => exact List.flatMap_append

/-- Counting words, the next cell adds its words. -/
theorem Counting.seen_concat_words (cells : List String) (cell : String) :
    Counting.words.seen (cells ++ [cell])
      = Counting.words.seen cells ++ ColumnProfile.cellWords cell := by
  rw [Counting.seen_append]
  exact congrArg (Counting.words.seen cells ++ ·) (List.flatMap_singleton ..)

namespace ColumnProfile

open TallySheet

variable (p : ColumnProfile) (cell : String) (cells : List String)

/-! ## Taking in a cell -/

/-- **What a cell does to a column** before the sheet is trimmed. -/
def takeIn : ColumnProfile :=
  (((p.measure cell).tally cell).decide).sample cell

theorem observe_eq : p.observe cell = (p.takeIn cell).bound := rfl

/-! A cell is taken in by four steps, and each of them touches a few fields
only. -/

/-- **The sampler after a cell**: a number is added to it as long as every
value is one. -/
def nextSampler : Option Sampler :=
  if p.allNumbers then
    match Number.finite? (content cell) with
    | some number => p.sampler.map (·.add number)
    | none => p.sampler
  else p.sampler

theorem sample_eq : p.sample cell = { p with sampler := p.nextSampler cell } := by
  unfold sample nextSampler
  split
  · cases hs : p.sampler with
    | none =>
      have hsame : p = { p with sampler := none } := by rw [← hs]
      cases Number.finite? (content cell) with
      | none => exact hsame
      | some number => exact hsame
    | some sampler =>
      cases Number.finite? (content cell) with
      | none => exact (by rw [← hs] : p = { p with sampler := some sampler })
      | some number => rfl
  · rfl

theorem decide_eq : ∃ counting values, p.decide = { p with counting, values } := by
  unfold decide
  split
  · exact ⟨_, _, rfl⟩
  · exact ⟨p.counting, p.values, rfl⟩

theorem tally_eq : ∃ newcomers allIntegers allReals allDates values,
    p.tally cell = { p with newcomers, allIntegers, allReals, allDates, values } := by
  unfold tally
  cases p.counting with
  | cells =>
    cases isBlankCell cell with
    | true => exact ⟨_, p.allIntegers, p.allReals, p.allDates, _, rfl⟩
    | false => exact ⟨_, _, _, _, _, rfl⟩
  | words => exact ⟨p.newcomers, p.allIntegers, p.allReals, p.allDates, _, rfl⟩

/-- **What taking in a cell leaves alone**, apart from what it measures. -/
theorem takeIn_eq : ∃ newcomers allIntegers allReals allDates values counting sampler,
    p.takeIn cell = { p.measure cell with
      newcomers, allIntegers, allReals, allDates, values, counting, sampler } := by
  obtain ⟨_, _, _, _, _, ht⟩ := tally_eq (p.measure cell) cell
  obtain ⟨_, _, hd⟩ := decide_eq ((p.measure cell).tally cell)
  rw [takeIn, sample_eq, hd, ht]
  exact ⟨_, _, _, _, _, _, _, rfl⟩

@[simp] theorem settings_takeIn : (p.takeIn cell).settings = p.settings := by
  obtain ⟨_, _, _, _, _, _, _, h⟩ := takeIn_eq p cell
  rw [h]
  rfl

@[simp] theorem rows_takeIn : (p.takeIn cell).rows = p.rows + 1 := by
  obtain ⟨_, _, _, _, _, _, _, h⟩ := takeIn_eq p cell
  rw [h]
  rfl

@[simp] theorem blanks_takeIn :
    (p.takeIn cell).blanks = if isBlankCell cell then p.blanks + 1 else p.blanks := by
  obtain ⟨_, _, _, _, _, _, _, h⟩ := takeIn_eq p cell
  rw [h]
  rfl

@[simp] theorem discardedEarly_takeIn : (p.takeIn cell).discardedEarly = p.discardedEarly := by
  obtain ⟨_, _, _, _, _, _, _, h⟩ := takeIn_eq p cell
  rw [h]
  rfl

theorem values_tally_of_cells (h : p.counting = .cells) :
    (p.tally cell).counting = .cells ∧ (p.tally cell).values = p.values.add cell := by
  unfold tally
  rw [h]
  cases isBlankCell cell with
  | true => exact ⟨rfl, rfl⟩
  | false => exact ⟨rfl, rfl⟩

theorem values_tally_of_words (h : p.counting = .words) :
    (p.tally cell).counting = .words
      ∧ (p.tally cell).values = p.values.addAll (cellWords cell) := by
  unfold tally
  rw [h]
  exact ⟨rfl, rfl⟩

/-- **How a cell is counted**: as a value, as the value that turns the
column into free text, or as words. -/
inductive Counts (p : ColumnProfile) (cell : String) : Counting → TallySheet → Prop
  /-- The column goes on counting values. -/
  | value (was : p.counting = .cells)
      (stays : ¬ (p.rows + 1 = p.settings.checkpoint
        ∧ ((p.measure cell).tally cell).resemblesText = true)) :
      Counts p cell .cells (p.values.add cell)
  /-- This is the checkpoint, and the column turns into free text. -/
  | turn (was : p.counting = .cells) (here : p.rows + 1 = p.settings.checkpoint)
      (resembles : ((p.measure cell).tally cell).resemblesText = true) :
      Counts p cell .words (tokenize (p.values.add cell))
  /-- The column goes on counting words. -/
  | words (was : p.counting = .words) :
      Counts p cell .words (p.values.addAll (cellWords cell))

/-- **A column that counts words is past its checkpoint**, so that it turns
only once. -/
def Turned : Prop :=
  p.counting = .words → p.settings.checkpoint ≤ p.rows

variable {p}

theorem counts_takeIn (h : p.Turned) :
    Counts p cell (p.takeIn cell).counting (p.takeIn cell).values := by
  obtain ⟨_, _, _, _, _, ht⟩ := tally_eq (p.measure cell) cell
  have hrows : ((p.measure cell).tally cell).rows = p.rows + 1 := by
    rw [ht]
    rfl
  have hsettings : ((p.measure cell).tally cell).settings = p.settings := by
    rw [ht]
    rfl
  rw [takeIn, sample_eq]
  show Counts p cell (((p.measure cell).tally cell).decide).counting
    (((p.measure cell).tally cell).decide).values
  unfold decide
  rw [hrows, hsettings]
  cases hc : p.counting with
  | cells =>
    obtain ⟨hcounting, hvalues⟩ := values_tally_of_cells (p.measure cell) cell hc
    by_cases hturn : p.rows + 1 = p.settings.checkpoint
        ∧ ((p.measure cell).tally cell).resemblesText = true
    · rw [if_pos hturn, hvalues]
      exact .turn hc hturn.1 hturn.2
    · rw [if_neg hturn, hcounting, hvalues]
      exact .value hc hturn
  | words =>
    obtain ⟨hcounting, hvalues⟩ := values_tally_of_words (p.measure cell) cell hc
    -- the checkpoint is behind a column that counts words
    have hpast : ¬ (p.rows + 1 = p.settings.checkpoint
        ∧ ((p.measure cell).tally cell).resemblesText = true) := by
      rintro ⟨heq, -⟩
      exact absurd (h hc) (by rw [← heq]; exact Nat.not_succ_le_self _)
    rw [if_neg hpast, hcounting, hvalues]
    exact .words hc

/-- A column that does not turn takes a cell in as a value. -/
theorem values_takeIn_of_cells (h : p.Turned) (goesOn : (p.takeIn cell).counting = .cells) :
    (p.takeIn cell).values = p.values.add cell := by
  have hcounts := counts_takeIn cell h
  rw [goesOn] at hcounts
  generalize (p.takeIn cell).values = values at hcounts
  cases hcounts with
  | value was stays => rfl

namespace Counts

variable {cell} {counting : Counting} {values : TallySheet} {earlier : List String}

/-- **Counting a cell invents nothing.** -/
theorem understates (h : Counts p cell counting values)
    (before : p.values.Understates (p.counting.seen earlier)) :
    values.Understates (counting.seen (earlier ++ [cell])) := by
  cases h with
  | value was stays =>
    rw [was] at before
    exact before.addAll [cell]
  | turn was here resembles =>
    rw [was] at before
    exact understates_tokenize (before.addAll [cell])
  | words was =>
    rw [was] at before
    rw [Counting.seen_concat_words]
    exact before.addAll (cellWords cell)

/-- **Counting a cell loses nothing.** -/
theorem isTallyOf (h : Counts p cell counting values)
    (before : p.values.IsTallyOf (p.counting.seen earlier)) :
    values.IsTallyOf (counting.seen (earlier ++ [cell])) := by
  cases h with
  | value was stays =>
    rw [was] at before
    exact before.addAll [cell]
  | turn was here resembles =>
    rw [was] at before
    exact isTallyOf_tokenize (before.addAll [cell])
  | words was =>
    rw [was] at before
    rw [Counting.seen_concat_words]
    exact before.addAll (cellWords cell)

/-- Counting a cell discards nothing. -/
theorem hasDiscarded_eq_false (h : Counts p cell counting values)
    (before : p.values.hasDiscarded = false) : values.hasDiscarded = false := by
  cases h with
  | value was stays => exact before
  | turn was here resembles => exact hasDiscarded_tokenize _
  | words was => exact (hasDiscarded_addAll _ _).trans before

end Counts

/-! ## The trim after a cell -/

variable (p)

/-- How many values can be held without a trim that discards some: a trim
begins above the first limit and keeps as many as the second. -/
def room : Nat :=
  max p.settings.maxInMemory p.settings.maxToReport

theorem bound_of_size_le (h : p.values.size ≤ p.room) : p.bound = p := by
  unfold bound
  by_cases hm : p.settings.maxInMemory < p.values.size
  · have hr : p.values.size ≤ p.settings.maxToReport :=
      (le_max_iff.mp h).resolve_left (Nat.not_le.mpr hm)
    rw [if_pos hm, trim_of_size_le _ _ hr, decide_eq_false (Nat.not_lt.mpr hr), Bool.or_false]
  · rw [if_neg hm]

theorem bound_of_lt (h : p.room < p.values.size) :
    p.bound
      = { p with
          values := p.values.trim p.settings.maxToReport
          discardedEarly := true } := by
  obtain ⟨hm, hr⟩ := max_lt_iff.mp h
  unfold bound
  rw [if_pos hm, decide_eq_true hr, Bool.or_true]

/-- What a trim leaves alone: all but the sheet and what is remembered of trims. -/
theorem bound_eq : ∃ values discardedEarly, p.bound = { p with values, discardedEarly } := by
  unfold bound
  split
  · exact ⟨_, _, rfl⟩
  · exact ⟨p.values, p.discardedEarly, rfl⟩

/-- A trim that discards leaves what is reported and no more. -/
theorem size_bound :
    p.bound.values.size
      = if p.values.size ≤ p.room then p.values.size else p.settings.maxToReport := by
  by_cases h : p.values.size ≤ p.room
  · rw [bound_of_size_le p h, if_pos h]
  · have hlt := Nat.not_le.mp h
    rw [bound_of_lt p hlt, if_neg h]
    exact (size_trim _ _).trans (min_eq_right ((le_max_right _ _).trans hlt.le))

@[simp] theorem settings_bound : p.bound.settings = p.settings := by
  unfold bound
  split <;> rfl

@[simp] theorem rows_bound : p.bound.rows = p.rows := by
  unfold bound
  split <;> rfl

@[simp] theorem blanks_bound : p.bound.blanks = p.blanks := by
  unfold bound
  split <;> rfl

@[simp] theorem counting_bound : p.bound.counting = p.counting := by
  unfold bound
  split <;> rfl

/-- **A cell discards** if the trim after it leaves fewer values than there
were. -/
def Discards : Prop :=
  (p.observe cell).values.size < (p.takeIn cell).values.size

instance : Decidable (p.Discards cell) :=
  inferInstanceAs (Decidable (_ < _))

theorem discards_iff : p.Discards cell ↔ (p.takeIn cell).room < (p.takeIn cell).values.size := by
  unfold Discards
  rw [observe_eq, size_bound]
  split
  · rename_i h
    exact iff_of_false (lt_irrefl _) (Nat.not_lt.mpr h)
  · rename_i h
    have hlt := Nat.not_le.mp h
    exact iff_of_true ((le_max_right _ _).trans_lt hlt) hlt

variable {p cell}

/-- A cell that discards nothing is just taken in. -/
theorem observe_of_not_discards (h : ¬ p.Discards cell) : p.observe cell = p.takeIn cell :=
  bound_of_size_le _ (Nat.not_lt.mp (fun hlt => h ((discards_iff p cell).mpr hlt)))

/-- A cell that discards leaves its mark, on the sheet and on the column. -/
theorem observe_of_discards (h : p.Discards cell) :
    (p.observe cell).values = (p.takeIn cell).values.trim p.settings.maxToReport
      ∧ (p.observe cell).values.hasDiscarded = true
      ∧ (p.observe cell).discardedEarly = true := by
  have hlt := (discards_iff p cell).mp h
  have hreport : (p.takeIn cell).settings.maxToReport < (p.takeIn cell).values.size :=
    (le_max_right _ _).trans_lt hlt
  rw [observe_eq, bound_of_lt _ hlt]
  refine ⟨by rw [settings_takeIn], ?_, rfl⟩
  show ((p.takeIn cell).values.trim (p.takeIn cell).settings.maxToReport).hasDiscarded = true
  rw [hasDiscarded_trim, decide_eq_true hreport, Bool.or_true]

theorem turned_observe (h : p.Turned) : (p.observe cell).Turned := by
  intro hwords
  rw [observe_eq, counting_bound] at hwords
  rw [observe_eq, settings_bound, rows_bound, settings_takeIn, rows_takeIn]
  have hcounts := counts_takeIn cell h
  rw [hwords] at hcounts
  generalize (p.takeIn cell).values = values at hcounts
  cases hcounts with
  | turn was here resembles => exact here.ge
  | words was => exact (h was).trans (Nat.le_succ _)

/-- **A trim leaves at most what there was**: no invented value, and no
greater count. -/
theorem understates_bound {seen : List String} (h : p.values.Understates seen) :
    p.bound.values.Understates seen := by
  unfold bound
  split
  · exact h.trim _
  · exact h

/-! ## All cells -/

variable (p cell)

@[simp] theorem observeAll_nil : p.observeAll [] = p := rfl

theorem observeAll_append (earlier later : List String) :
    p.observeAll (earlier ++ later) = (p.observeAll earlier).observeAll later :=
  List.foldl_append

theorem observeAll_concat :
    p.observeAll (cells ++ [cell]) = (p.observeAll cells).observe cell := by
  rw [observeAll_append]
  rfl

@[simp] theorem settings_observeAll : (p.observeAll cells).settings = p.settings := by
  induction cells using List.reverseRecOn with
  | nil => rfl
  | append_singleton cells cell ih =>
    rw [observeAll_concat, observe_eq, settings_bound, settings_takeIn, ih]

theorem rows_observeAll : (p.observeAll cells).rows = p.rows + cells.length := by
  induction cells using List.reverseRecOn with
  | nil => rfl
  | append_singleton cells cell ih =>
    rw [observeAll_concat, observe_eq, rows_bound, rows_takeIn, ih, List.length_append, add_assoc]
    rfl

/-- The blank cells are counted. -/
theorem blanks_observeAll : (p.observeAll cells).blanks = p.blanks + cells.countP isBlankCell := by
  induction cells using List.reverseRecOn with
  | nil => rfl
  | append_singleton cells cell ih =>
    rw [observeAll_concat, observe_eq, blanks_bound, blanks_takeIn, ih, List.countP_append,
      List.countP_singleton]
    split <;> rfl

/-- **The states of a column after some cells**: as the last cell left it, or
finished. -/
inductive ComesTo : ColumnProfile → Prop
  /-- More cells may follow. -/
  | running : ComesTo (p.observeAll cells)
  /-- The sheet is trimmed to what is reported. -/
  | finished : ComesTo (p.observeAll cells).finish

theorem ComesTo.settings_eq {p q : ColumnProfile} {cells : List String} (state : p.ComesTo cells q) :
    q.settings = p.settings := by
  cases state <;> exact settings_observeAll p cells

/-- **A column of which no cell was seen**: its name, its declared type, its
limits and its sampler, and nothing else. -/
def IsFresh : Prop :=
  p = { name := p.name, declared := p.declared, settings := p.settings, sampler := p.sampler }

/-- **No cell of a run discards.** -/
def DiscardsNothing : Prop :=
  ∀ earlier cell later, cells = earlier ++ cell :: later → ¬ (p.observeAll earlier).Discards cell

theorem discardsNothing_concat :
    p.DiscardsNothing (cells ++ [cell])
      ↔ p.DiscardsNothing cells ∧ ¬ (p.observeAll cells).Discards cell := by
  constructor
  · intro h
    refine ⟨fun earlier c later heq => h earlier c (later ++ [cell]) ?_, h cells cell [] rfl⟩
    rw [heq, List.append_assoc]
    rfl
  · -- a cell of the run is its last one, or one of those before
    rintro ⟨hall, hlast⟩ earlier c later heq
    rcases List.eq_nil_or_concat later with rfl | ⟨later', c', rfl⟩
    · obtain ⟨rfl, hc⟩ := List.append_inj' heq rfl
      exact (List.cons.inj hc).1 ▸ hlast
    · rw [List.concat_eq_append, ← List.cons_append, ← List.append_assoc] at heq
      exact hall earlier c later' (List.append_inj' heq rfl).1

variable {p}

/-- A column begins with its name, its limits and its sampler, and with the declared type
unless that is blank. -/
theorem eq_of_start {name : String} {declared : Option String} {settings : ProfileLimits}
    {seed : UInt64} (h : start name declared settings seed = .ok p) :
    p = { name, settings, declared := declared.filter (!isBlankCell ·), sampler := p.sampler } := by
  unfold start at h
  cases hs : settings.samplerSize.mapM (Sampler.ofSeed · seed) with
  | error e =>
    rw [hs] at h
    exact absurd h (by rintro ⟨⟩)
  | ok sampler =>
    rw [hs] at h
    obtain rfl := Except.ok.inj h
    rfl

theorem isFresh_of_start {name : String} {declared : Option String} {settings : ProfileLimits}
    {seed : UInt64} (h : start name declared settings seed = .ok p) : p.IsFresh := by
  rw [eq_of_start h]
  rfl

theorem settings_of_start {name : String} {declared : Option String} {settings : ProfileLimits}
    {seed : UInt64} (h : start name declared settings seed = .ok p) : p.settings = settings :=
  congrArg ColumnProfile.settings (eq_of_start h)

theorem declared_of_start {name : String} {declared : Option String} {settings : ProfileLimits}
    {seed : UInt64} (h : start name declared settings seed = .ok p) :
    p.declared = declared.filter (!isBlankCell ·) :=
  congrArg ColumnProfile.declared (eq_of_start h)

section Run

variable (fresh : p.IsFresh)

include fresh

/-- In every state, all rows are counted. -/
theorem ComesTo.rows_eq {q : ColumnProfile} (state : p.ComesTo cells q) : q.rows = cells.length := by
  have hrun : (p.observeAll cells).rows = cells.length := by
    rw [rows_observeAll, show p.rows = 0 from congrArg rows fresh, Nat.zero_add]
  cases state with
  | running => exact hrun
  | finished => exact hrun

/-- In every state, all blank cells are counted. -/
theorem ComesTo.blanks_eq {q : ColumnProfile} (state : p.ComesTo cells q) :
    q.blanks = cells.countP isBlankCell := by
  have hrun : (p.observeAll cells).blanks = cells.countP isBlankCell := by
    rw [blanks_observeAll, show p.blanks = 0 from congrArg blanks fresh, Nat.zero_add]
  cases state with
  | running => exact hrun
  | finished => exact hrun

/-- A column turns at its checkpoint, or not at all. -/
theorem turned_observeAll : (p.observeAll cells).Turned := by
  induction cells using List.reverseRecOn with
  | nil =>
    intro h
    rw [observeAll_nil, fresh] at h
    cases h
  | append_singleton cells cell ih =>
    rw [observeAll_concat]
    exact turned_observe ih

/-- **A sheet never says too much**: what it holds was seen, at least as
often as it says. -/
theorem understates_observeAll :
    (p.observeAll cells).values.Understates ((p.observeAll cells).counting.seen cells) := by
  induction cells using List.reverseRecOn with
  | nil =>
    rw [observeAll_nil, fresh]
    exact isTallyOf_empty.understates
  | append_singleton cells cell ih =>
    rw [observeAll_concat, observe_eq, counting_bound]
    exact understates_bound ((counts_takeIn cell (turned_observeAll cells fresh)).understates ih)

/-- **A sheet that has lost nothing says it all.** -/
theorem isTallyOf_observeAll (lossless : p.DiscardsNothing cells) :
    (p.observeAll cells).values.IsTallyOf ((p.observeAll cells).counting.seen cells) := by
  induction cells using List.reverseRecOn with
  | nil =>
    rw [observeAll_nil, fresh]
    exact isTallyOf_empty
  | append_singleton cells cell ih =>
    obtain ⟨hearlier, hlast⟩ := (discardsNothing_concat p cell cells).mp lossless
    rw [observeAll_concat, observe_of_not_discards hlast]
    exact (counts_takeIn cell (turned_observeAll cells fresh)).isTallyOf (ih hearlier)

/-! ## What is remembered of the trims -/

/-- **The column remembers every trim that discarded.** -/
theorem discardedEarly_observeAll :
    (p.observeAll cells).discardedEarly = false ↔ p.DiscardsNothing cells := by
  induction cells using List.reverseRecOn with
  | nil =>
    rw [observeAll_nil, fresh]
    exact iff_of_true rfl (fun earlier _ _ h => absurd h (by cases earlier <;> simp))
  | append_singleton cells cell ih =>
    rw [discardsNothing_concat, observeAll_concat]
    by_cases hlast : (p.observeAll cells).Discards cell
    · obtain ⟨-, -, hflag⟩ := observe_of_discards hlast
      rw [hflag]
      exact iff_of_false Bool.noConfusion (fun h => h.2 hlast)
    · rw [observe_of_not_discards hlast, discardedEarly_takeIn, ih]
      exact (and_iff_left hlast).symm

/-- A run that discards nothing ends with a sheet that has discarded
nothing. -/
theorem hasDiscarded_observeAll (lossless : p.DiscardsNothing cells) :
    (p.observeAll cells).values.hasDiscarded = false := by
  induction cells using List.reverseRecOn with
  | nil =>
    rw [observeAll_nil, fresh]
  | append_singleton cells cell ih =>
    obtain ⟨hearlier, hlast⟩ := (discardsNothing_concat p cell cells).mp lossless
    rw [observeAll_concat, observe_of_not_discards hlast]
    exact (counts_takeIn cell (turned_observeAll cells fresh)).hasDiscarded_eq_false (ih hearlier)

/-- As long as values are counted, the sheet remembers it too. -/
theorem hasDiscarded_observeAll_of_cells (h : (p.observeAll cells).counting = .cells) :
    (p.observeAll cells).values.hasDiscarded = (p.observeAll cells).discardedEarly := by
  induction cells using List.reverseRecOn with
  | nil =>
    rw [observeAll_nil, fresh]
  | append_singleton cells cell ih =>
    rw [observeAll_concat] at h ⊢
    by_cases hlast : (p.observeAll cells).Discards cell
    · obtain ⟨-, hsheet, hflag⟩ := observe_of_discards hlast
      rw [hsheet, hflag]
    · rw [observe_of_not_discards hlast] at h ⊢
      have hcounts := counts_takeIn cell (turned_observeAll cells fresh)
      rw [discardedEarly_takeIn]
      rw [h] at hcounts
      generalize ((p.observeAll cells).takeIn cell).values = values at hcounts
      cases hcounts with
      | value was stays => exact ih was

/-- **The sheet of a text remembers no trim before its turn.** If it says
that it has discarded nothing, then it has the words of every cell after the
turn, but of the cells before only what the sheet of values still held. -/
theorem count_of_hasDiscarded_eq_false (h : (p.observeAll cells).counting = .words)
    (flag : (p.observeAll cells).values.hasDiscarded = false) :
    ∃ before turn after, cells = before ++ turn :: after
      ∧ before.length + 1 = p.settings.checkpoint
      ∧ (p.observeAll before).counting = .cells
      ∧ ∀ w, (p.observeAll cells).values.count w
          = (tokenize ((p.observeAll before).values.add turn)).count w
            + (after.flatMap cellWords).count w := by
  induction cells using List.reverseRecOn with
  | nil =>
    rw [observeAll_nil, fresh] at h
    cases h
  | append_singleton cells cell ih =>
    rw [observeAll_concat] at h flag ⊢
    -- a trim that discards would have left its mark
    have hlast : ¬ (p.observeAll cells).Discards cell := fun hd => by
      rw [(observe_of_discards hd).2.1] at flag
      cases flag
    rw [observe_of_not_discards hlast] at h flag ⊢
    have hcounts := counts_takeIn cell (turned_observeAll cells fresh)
    rw [h] at hcounts
    generalize ((p.observeAll cells).takeIn cell).values = values at hcounts flag ⊢
    cases hcounts with
    | turn was here resembles =>
      rw [rows_observeAll, settings_observeAll, fresh] at here
      exact ⟨cells, cell, [], rfl, by rwa [Nat.zero_add] at here, was, fun w => rfl⟩
    | words was =>
      rw [hasDiscarded_addAll] at flag
      obtain ⟨before, turn, after, rfl, hlength, hcells, hcount⟩ := ih was flag
      refine ⟨before, turn, after ++ [cell], by simp, hlength, hcells, fun w => ?_⟩
      rw [count_addAll, hcount, List.flatMap_append, List.count_append, add_assoc,
        List.flatMap_singleton]

end Run

end ColumnProfile

end TableProfile
