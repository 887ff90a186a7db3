import Mathlib.Data.List.Forall2
import Mathlib.Order.Nat
import TableProfile.Proofs.ColumnRun
import TableProfile.Scan.Activity

/-!
# What the draws of a sample decide

Which numbers stay in a sample that has no room for all of them is left to
draws. Two scans of the same table draw differently, and a table that is
asked for twice is sampled twice. Nothing but the *estimates* shows it: the
standard deviation and the quartiles of a sample that leaves values out.
Everything else of a report is a function of the rows.

Two reservoirs that were given the same values by different draws are
*alike*: they agree on all exact numbers, on the size of the sample, and on
the sample itself as long as it leaves nothing out. Likeness is carried
through a profile, a table and an activity, each time by one step and an
induction on what is left. At the end, two activities that differ in their
seeds only become equal once the estimates are taken out
(`withoutEstimates_ofTable`).
-/

namespace TableProfile

/-! ## Reservoirs -/

namespace Reservoir

variable {α : Type} [Quantity α]

/-- **Two reservoirs that were given the same values**, by whatever
draws. -/
structure Alike (r r' : Reservoir α) : Prop where
  /-- They have the same room. -/
  capacity : r.capacity = r'.capacity
  /-- As many values were added to them. -/
  count : r.count = r'.count
  /-- The sums agree. -/
  sum : r.sum = r'.sum
  /-- The smallest values agree. -/
  lowest : r.lowest = r'.lowest
  /-- The largest values agree. -/
  highest : r.highest = r'.highest
  /-- The samples are of one size. -/
  size : r.samples.size = r'.samples.size
  /-- The sample has no more than was added. -/
  size_le : r.samples.size ≤ r.count
  /-- A sample that leaves nothing out does not depend on draws. -/
  samples : r.count ≤ r.capacity → r.samples = r'.samples

theorem size_inserted (samples : Array α) (value : α) :
    (inserted samples value).size = samples.size + 1 := by
  unfold inserted
  exact Array.size_insertIdx _

theorem size_replaced (samples : Array α) (victim : Nat) (h : victim < samples.size)
    (value : α) : (replaced samples victim h value).size = samples.size := by
  unfold replaced
  rw [Array.size_insertIdx, Array.size_eraseIdx]
  exact Nat.sub_add_cancel (Nat.zero_lt_of_lt h)

/-- The size of the next sample does not depend on the draw. -/
theorem size_resampled (r : Reservoir α) (value : α) (j : Nat) :
    (r.resampled value j).size
      = if r.samples.size < r.capacity then r.samples.size + 1 else r.samples.size := by
  unfold resampled hasRoom
  by_cases h : r.samples.size < r.capacity
  · rw [decide_eq_true h, if_pos rfl, if_pos h, size_inserted]
  · rw [decide_eq_false h, if_neg Bool.false_ne_true, if_neg h]
    split
    · exact size_replaced _ _ _ _
    · rfl

/-- **Reservoirs stay alike** when the same value is added to both, whatever
is drawn. -/
theorem Alike.add {r r' : Reservoir α} (h : r.Alike r') (value : α) (j j' : Nat) :
    (r.add value j).Alike (r'.add value j') where
  capacity := h.capacity
  count := congrArg (· + 1) h.count
  sum := congrArg (· + value) h.sum
  lowest := congrArg (lower · value) h.lowest
  highest := congrArg (higher · value) h.highest
  size := by
    show (r.resampled value j).size = (r'.resampled value j').size
    rw [size_resampled, size_resampled, h.size, h.capacity]
  size_le := by
    show (r.resampled value j).size ≤ r.count + 1
    rw [size_resampled]
    split
    · exact Nat.add_le_add_right h.size_le 1
    · exact h.size_le.trans (Nat.le_succ _)
  samples := by
    -- a value that leaves nothing out finds room, and no draw is looked at
    intro (hcount : r.count + 1 ≤ r.capacity)
    have hroom : r.samples.size < r.capacity := h.size_le.trans_lt hcount
    have hroom' : r'.samples.size < r'.capacity := by rwa [← h.size, ← h.capacity]
    show r.resampled value j = r'.resampled value j'
    unfold resampled hasRoom
    rw [decide_eq_true hroom, decide_eq_true hroom', if_pos rfl, if_pos rfl,
      h.samples (Nat.le_of_succ_le hcount)]

end Reservoir

/-- Samplers are alike if their reservoirs are. -/
def Sampler.Alike (s s' : Sampler) : Prop :=
  s.reservoir.Alike s'.reservoir

/-- A sampler adds a value to its reservoir with one draw or another. -/
theorem Sampler.reservoir_add (s : Sampler) (value : Float) :
    ∃ j, (s.add value).reservoir = s.reservoir.add value j := by
  unfold Sampler.add
  split
  · exact ⟨0, rfl⟩
  · exact ⟨_, rfl⟩

theorem Sampler.Alike.add {s s' : Sampler} (h : s.Alike s') (value : Float) :
    (s.add value).Alike (s'.add value) := by
  obtain ⟨j, hj⟩ := s.reservoir_add value
  obtain ⟨j', hj'⟩ := s'.reservoir_add value
  unfold Sampler.Alike
  rw [hj, hj']
  exact Reservoir.Alike.add h value j j'

/-- **Two attempts that fail alike or succeed alike.** -/
inductive Likewise {α : Type} (R : α → α → Prop) :
    Except ProfileError α → Except ProfileError α → Prop
  /-- Both fail with the same error. -/
  | error (e : ProfileError) : Likewise R (.error e) (.error e)
  /-- Both succeed, with related values. -/
  | ok {a a' : α} (related : R a a') : Likewise R (.ok a) (.ok a')

namespace Likewise

variable {α β : Type} {R : α → α → Prop} {S : β → β → Prop}

theorem bind {x x' : Except ProfileError α} {f f' : α → Except ProfileError β}
    (h : Likewise R x x') (hf : ∀ a a', R a a' → Likewise S (f a) (f' a')) :
    Likewise S (x >>= f) (x' >>= f') := by
  cases h with
  | error e => exact .error e
  | ok related => exact hf _ _ related

/-- Attempts that are made for each element of a list. -/
theorem mapM {γ : Type} {f f' : γ → Except ProfileError α} (hf : ∀ c, Likewise R (f c) (f' c))
    (l : List γ) : Likewise (List.Forall₂ R) (l.mapM f) (l.mapM f') := by
  induction l with
  | nil => exact .ok .nil
  | cons c rest ih =>
    rw [List.mapM_cons, List.mapM_cons]
    refine (hf c).bind (fun a a' ha => ih.bind (fun as as' has => ?_))
    exact .ok (.cons ha has)

end Likewise

/-- A seed has no say in whether a sampler can be made, and none in the
reservoir it begins with. -/
theorem Sampler.alike_ofSeed (capacity : Nat) (seed seed' : UInt64) :
    Likewise Sampler.Alike (ofSeed capacity seed) (ofSeed capacity seed') := by
  unfold ofSeed Reservoir.ofCapacity
  by_cases hpos : 0 < capacity
  · rw [dif_pos hpos]
    exact .ok ⟨rfl, rfl, rfl, rfl, rfl, rfl, le_rfl, fun _ => rfl⟩
  · rw [dif_neg hpos]
    exact .error _

/-! ## Profiles -/

namespace ColumnProfile

/-- **Two profiles that differ in their draws only.** -/
def Alike (p p' : ColumnProfile) : Prop :=
  ∃ sampler, p' = { p with sampler } ∧ Option.Rel Sampler.Alike p.sampler sampler

variable {p p' : ColumnProfile}

/-- What a profile keeps beside its sample does not depend on the sample. -/
theorem measure_tally_decide_with (p : ColumnProfile) (sampler : Option Sampler)
    (cell : String) :
    ((({ p with sampler }.measure cell).tally cell).decide)
      = { ((p.measure cell).tally cell).decide with sampler } := by
  have htally : ({ p with sampler }.measure cell).tally cell
      = { (p.measure cell).tally cell with sampler } := by
    show ({ p.measure cell with sampler }.tally cell) = _
    unfold tally
    cases hc : (p.measure cell).counting with
    | cells => cases isBlankCell cell <;> rfl
    | words => rfl
  rw [htally]
  unfold decide
  split <;> rename_i h
  · exact (if_pos h).symm ▸ rfl
  · exact (if_neg h).symm ▸ rfl

theorem sampler_measure_tally_decide (p : ColumnProfile) (cell : String) :
    (((p.measure cell).tally cell).decide).sampler = p.sampler := by
  have h := congrArg ColumnProfile.sampler (measure_tally_decide_with p p.sampler cell)
  exact h

/-- Profiles that are alike take a number into their samples alike. -/
theorem Alike.sample (h : p.Alike p') (cell : String) :
    (p.sample cell).Alike (p'.sample cell) := by
  obtain ⟨sampler, rfl, hrel⟩ := h
  rw [sample_eq, sample_eq]
  refine ⟨_, rfl, ?_⟩
  unfold nextSampler
  show Option.Rel Sampler.Alike _ (if p.allNumbers then _ else _)
  split
  · cases Number.finite? (content cell) with
    | none => exact hrel
    | some number =>
      show Option.Rel _ (p.sampler.map _) (sampler.map _)
      generalize p.sampler = drawn at hrel ⊢
      cases hrel with
      | none => exact .none
      | some halike => exact .some (halike.add number)
  · exact hrel

theorem Alike.bound (h : p.Alike p') : p.bound.Alike p'.bound := by
  obtain ⟨sampler, rfl, hrel⟩ := h
  unfold ColumnProfile.bound
  by_cases hsize : p.settings.maxInMemory < p.values.size
  · rw [if_pos hsize, if_pos hsize]
    exact ⟨sampler, rfl, hrel⟩
  · rw [if_neg hsize, if_neg hsize]
    exact ⟨sampler, rfl, hrel⟩

/-- **A cell keeps profiles alike.** -/
theorem Alike.observe (h : p.Alike p') (cell : String) :
    (p.observe cell).Alike (p'.observe cell) := by
  obtain ⟨sampler, rfl, hrel⟩ := h
  refine (Alike.sample ⟨sampler, measure_tally_decide_with p sampler cell, ?_⟩ cell).bound
  rw [sampler_measure_tally_decide]
  exact hrel

/-- **A seed decides neither whether a profile can begin nor how**, up to
draws. -/
theorem alike_start (name : String) (declared : Option String) (settings : ProfileLimits)
    (seed seed' : UInt64) :
    Likewise Alike (start name declared settings seed) (start name declared settings seed') := by
  unfold start
  cases settings.samplerSize with
  | none => exact .ok ⟨none, rfl, .none⟩
  | some capacity =>
    have hsampler : Likewise (Option.Rel Sampler.Alike)
        ((some capacity).mapM (Sampler.ofSeed · seed))
        ((some capacity).mapM (Sampler.ofSeed · seed')) :=
      (Sampler.alike_ofSeed capacity seed seed').bind (fun _ _ h => .ok (.some h))
    exact hsampler.bind (fun _ s' h => .ok ⟨s', rfl, h⟩)

end ColumnProfile

/-! ## Reports without estimates -/

/-- **The numbers that no draw decides**: the estimates of a sample that
leaves values out are taken out. -/
def Report.Numbers.withoutEstimates (n : Report.Numbers) : Report.Numbers :=
  if n.estimated then
    { n with
      deviation := Number.Binary64.notANumber
      lowerQuartile := Number.Binary64.notANumber
      median := Number.Binary64.notANumber
      upperQuartile := Number.Binary64.notANumber }
  else n

/-- The report of a column without estimates. -/
def Report.Column.withoutEstimates (c : Report.Column) : Report.Column :=
  { c with numbers := c.numbers.map Report.Numbers.withoutEstimates }

/-- The report of a table without estimates. -/
def Report.Table.withoutEstimates (t : Report.Table) : Report.Table :=
  { t with columns := t.columns.map Report.Column.withoutEstimates }

/-- The report of a scan without estimates. -/
def Report.withoutEstimates (r : Report) : Report :=
  { r with tables := r.tables.map Report.Table.withoutEstimates }

/-- How the profile of a table ends, without estimates. -/
def TableResult.withoutEstimates (r : TableResult) : TableResult :=
  r.map (·.map Report.Table.withoutEstimates)

namespace Reservoir

/-- Reservoirs that are alike and leave nothing out are the same. -/
theorem Alike.eq_of_leavesOut {r r' : Reservoir Float} (h : r.Alike r')
    (all : r.leavesOut = false) : r = r' := by
  have hcount : r.count ≤ r.capacity := Nat.not_lt.mp (of_decide_eq_false all)
  obtain ⟨hcapacity, hc, hsum, hlowest, hhighest, -, -, hsamples⟩ := h
  obtain ⟨capacity, samples, count, sum, lowest, highest, pos⟩ := r
  obtain ⟨capacity', samples', count', sum', lowest', highest', pos'⟩ := r'
  obtain rfl : capacity = capacity' := hcapacity
  obtain rfl : count = count' := hc
  obtain rfl : sum = sum' := hsum
  obtain rfl : lowest = lowest' := hlowest
  obtain rfl : highest = highest' := hhighest
  obtain rfl : samples = samples' := hsamples hcount
  rfl

/-- What a report says of a reservoir. -/
def toNumbers (r : Reservoir Float) : Report.Numbers where
  minimum := r.minimum
  maximum := r.maximum
  mean := r.mean
  deviation := r.standardDeviation
  lowerQuartile := r.quartile 1
  median := r.quartile 2
  upperQuartile := r.quartile 3
  estimated := r.leavesOut

/-- **What no draw decides** of the numbers of a reservoir. -/
theorem Alike.withoutEstimates_toNumbers {r r' : Reservoir Float} (h : r.Alike r') :
    r.toNumbers.withoutEstimates = r'.toNumbers.withoutEstimates := by
  cases hall : r.leavesOut with
  | false => rw [h.eq_of_leavesOut hall]
  | true =>
    -- both samples leave values out, so that both have their estimates taken out
    have hall' : r'.leavesOut = true := by
      rw [← hall]
      unfold leavesOut
      rw [h.capacity, h.count]
    unfold Report.Numbers.withoutEstimates
    show (if r.leavesOut then _ else _) = if r'.leavesOut then _ else _
    rw [hall, hall', if_pos rfl, if_pos rfl]
    unfold toNumbers minimum maximum mean mean?
    rw [h.count, h.sum, h.lowest, h.highest, hall, hall']

end Reservoir

namespace ColumnProfile

variable {p p' : ColumnProfile}

theorem numbers_eq_bind (p : ColumnProfile) :
    p.numbers = p.sampler.bind fun s =>
      if p.allNumbers && s.reservoir.size != 0 then some s.reservoir.toNumbers else none := by
  unfold numbers
  cases p.sampler with
  | none => rfl
  | some s => rfl

/-- **Profiles that are alike give one report**, without estimates. -/
theorem Alike.withoutEstimates_report (h : p.Alike p') (knownRows : Option Int) (least : Nat) :
    (p.finish.report knownRows least).withoutEstimates
      = (p'.finish.report knownRows least).withoutEstimates := by
  obtain ⟨sampler, rfl, hrel⟩ := h
  have hnumbers : p.finish.numbers.map Report.Numbers.withoutEstimates
      = ({ p with sampler }.finish.numbers).map Report.Numbers.withoutEstimates := by
    rw [numbers_eq_bind, numbers_eq_bind]
    show (p.sampler.bind _).map _ = (sampler.bind _).map _
    generalize p.sampler = drawn at hrel ⊢
    cases hrel with
    | none => rfl
    | @some s s' halike =>
      show (if p.allNumbers && s.reservoir.size != 0 then _ else _ : Option _).map _
        = (if p.allNumbers && s'.reservoir.size != 0 then _ else _ : Option _).map _
      have hsize : s.reservoir.size = s'.reservoir.size := Reservoir.Alike.size halike
      rw [hsize]
      split
      · exact congrArg some (Reservoir.Alike.withoutEstimates_toNumbers halike)
      · rfl
  exact congrArg (fun numbers => { (p.finish.report knownRows least) with numbers }) hnumbers

end ColumnProfile

/-! ## Tables -/

namespace TableState

/-- **Two tables in the course of the same rows**, up to draws. -/
structure Alike (t t' : TableState) : Prop where
  /-- The columns are alike. -/
  profiles : List.Forall₂ ColumnProfile.Alike t.profiles t'.profiles
  /-- The same number of rows was read. -/
  read : t.read = t'.read
  /-- The same number of rows was looked at. -/
  profiled : t.profiled = t'.profiled
  /-- The same number of rows was passed over. -/
  skipped : t.skipped = t'.skipped

variable {t t' : TableState}

theorem Alike.count (h : t.Alike t') : t.count.Alike t'.count :=
  ⟨h.profiles, congrArg (· + 1) h.read, h.profiled, h.skipped⟩

/-- Cells keep columns alike, each its own. -/
theorem alike_zipWith_observe {profiles profiles' : List ColumnProfile}
    (h : List.Forall₂ ColumnProfile.Alike profiles profiles') (row : Row) :
    List.Forall₂ ColumnProfile.Alike (List.zipWith ColumnProfile.observe profiles row)
      (List.zipWith ColumnProfile.observe profiles' row) := by
  induction h generalizing row with
  | nil => exact .nil
  | cons hp _ ih =>
    cases row with
    | nil => exact .nil
    | cons cell rest => exact .cons (hp.observe cell) (ih rest)

/-- **A row keeps tables alike.** -/
theorem Alike.look (h : t.Alike t') (row : Row) : (t.look row).Alike (t'.look row) := by
  unfold TableState.look
  rw [h.profiles.length_eq]
  split
  · exact ⟨alike_zipWith_observe h.profiles row, h.read, congrArg (· + 1) h.profiled, h.skipped⟩
  · exact ⟨h.profiles, h.read, h.profiled, congrArg (· + 1) h.skipped⟩

theorem alike_start (settings : Settings) (seed seed' : Nat → UInt64)
    (columns : List ColumnHeader) :
    Likewise Alike (start settings seed columns) (start settings seed' columns) := by
  refine (Likewise.mapM (fun _ => ?_) columns.zipIdx).bind (fun _ _ h => .ok ⟨h, rfl, rfl, rfl⟩)
  exact ColumnProfile.alike_start _ _ _ _ _

/-- Columns that are alike give one list of reports, without estimates. -/
theorem map_withoutEstimates_report {profiles profiles' : List ColumnProfile}
    (h : List.Forall₂ ColumnProfile.Alike profiles profiles') (rowCount : Option Int)
    (least : Nat) :
    (profiles.map (·.finish.report rowCount least)).map Report.Column.withoutEstimates
      = (profiles'.map (·.finish.report rowCount least)).map Report.Column.withoutEstimates := by
  induction h with
  | nil => rfl
  | cons hp _ ih => exact List.cons_eq_cons.mpr ⟨hp.withoutEstimates_report _ _, ih⟩

/-- **Tables that are alike give one report**, without estimates. -/
theorem Alike.withoutEstimates_report (h : t.Alike t') (table : String) (settings : Settings)
    (rowCount : Option Int) :
    (t.report table settings rowCount).map Report.Table.withoutEstimates
      = (t'.report table settings rowCount).map Report.Table.withoutEstimates := by
  unfold TableState.report
  rw [h.profiled, h.skipped]
  split
  · rfl
  · exact congrArg (fun columns => some (Report.Table.mk table rowCount _ _ columns))
      (map_withoutEstimates_report h.profiles rowCount settings.minCellCount)

end TableState

/-! ## Activities -/

namespace Activity

/-- **An activity without the estimates** of the report it ends with. -/
def withoutEstimates : Activity → Activity
  | ended result => ended result.withoutEstimates
  | brokenDown => brokenDown
  | asks next => asks fun goOn => (next goOn).withoutEstimates
  | calls call next => calls call fun u => (next u).withoutEstimates

variable (table : String) (settings : Settings) (rowCount : Option Int)

/-- **The rows of a table keep the activity the same**, up to estimates. -/
theorem withoutEstimates_throughRows {t t' : TableState} (h : t.Alike t') (rows : Rows) :
    (throughRows table settings rowCount t rows).withoutEstimates
      = (throughRows table settings rowCount t' rows).withoutEstimates := by
  have hlast : ∀ {t t' : TableState}, t.Alike t' →
      (ended (.ok (t.report table settings rowCount))).withoutEstimates
        = (ended (.ok (t'.report table settings rowCount))).withoutEstimates :=
    fun h => congrArg (ended <| .ok ·) (h.withoutEstimates_report table settings rowCount)
  induction rows generalizing t t' with
  | nil =>
    unfold throughRows
    rw [h.read]
    split
    · exact hlast h
    · exact congrArg (calls .nextRow) (funext fun _ => hlast h)
  | cons answer rest ih =>
    unfold throughRows
    rw [h.read]
    split
    · exact hlast h
    · refine congrArg (calls .nextRow) (funext fun _ => ?_)
      cases answer with
      | breakdown => rfl
      | failure e => rfl
      | value row =>
        have hread : t.count.read = t'.count.read := h.count.read
        show (if t.count.read % _ = 0 then _ else _ : Activity).withoutEstimates
          = (if t'.count.read % _ = 0 then _ else _ : Activity).withoutEstimates
        rw [hread]
        split
        · refine congrArg asks (funext fun goOn => ?_)
          cases goOn with
          | true => exact ih (h.count.look row)
          | false => rfl
        · exact ih (h.count.look row)

variable (source : Source) (seed seed' : Nat → UInt64)

/-- To open the rows of a table keeps the activity the same, up to
estimates. -/
theorem withoutEstimates_openRows (columns : List ColumnHeader) :
    (openRows source settings seed table columns rowCount).withoutEstimates
      = (openRows source settings seed' table columns rowCount).withoutEstimates := by
  unfold openRows
  have hstart := TableState.alike_start settings seed seed' columns
  generalize TableState.start settings seed columns = begun at hstart ⊢
  generalize TableState.start settings seed' columns = begun' at hstart ⊢
  cases hstart with
  | error e => rfl
  | ok halike =>
    refine congrArg (calls .rows) (funext fun _ => ?_)
    cases source.rows table settings.limit with
    | breakdown => rfl
    | failure e => rfl
    | value rows => exact withoutEstimates_throughRows table settings rowCount halike rows

/-- **What is done about a table does not depend on the draws**, up to
estimates. -/
theorem withoutEstimates_ofTable :
    (ofTable source settings seed table).withoutEstimates
      = (ofTable source settings seed' table).withoutEstimates := by
  refine congrArg asks (funext fun goOn => ?_)
  cases goOn with
  | false => rfl
  | true =>
    refine congrArg (calls .columns) (funext fun _ => ?_)
    cases source.columns table with
    | breakdown => rfl
    | failure e => rfl
    | value columns =>
      show (if columns.isEmpty then _ else _ : Activity).withoutEstimates
        = (if columns.isEmpty then _ else _ : Activity).withoutEstimates
      split
      · rfl
      · refine congrArg (calls .rowCount) (funext fun _ => ?_)
        cases source.rowCount table with
        | breakdown => rfl
        | failure e =>
          show (if e.isCancellation then _ else _ : Activity).withoutEstimates
            = (if e.isCancellation then _ else _ : Activity).withoutEstimates
          split
          · rfl
          · exact withoutEstimates_openRows table settings none source seed seed' columns
        | value rowCount =>
          exact withoutEstimates_openRows table settings rowCount source seed seed' columns

end Activity

end TableProfile
