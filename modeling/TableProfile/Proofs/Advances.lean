import TableProfile.Proofs.Completion
import TableProfile.Proofs.Undisturbed

/-!
# How far the progress gets

A scan announces how many tables it was asked for, and then each result that
it receives advances the progress by one, unless the table was told to stop.
The advances are one more account: they are never more than the tables that
were asked for (`ScanState.done_le_of_reaches`), and in a scan that completes
none of them gets lost.

A worker that breaks down sends nothing. Its table is listed as a failure when
the scan ends, but the progress does not hear of it. So a completed scan is
behind by as many tables as broke down (`Scan.progress_of_returns`), and only
without a breakdown does the progress come to its end. It takes a source that
breaks down itself (`Scan.breaksDownOn_of_breaksDown`).
-/

namespace TableProfile

/-- **Whether a table that ended so advances the progress.** -/
def Ending.advances : Ending → Bool
  | result (.ok _) => true
  | result (.error e) => !e.isCancellation
  | breakdown => false

/-- Whether a table broke down. -/
def Ending.isBreakdown : Ending → Bool
  | result _ => false
  | breakdown => true

namespace Ending

theorem advances_withoutEstimates (e : Ending) : e.withoutEstimates.advances = e.advances := by
  cases e with
  | result r => cases r <;> rfl
  | breakdown => rfl

theorem isBreakdown_withoutEstimates (e : Ending) :
    e.withoutEstimates.isBreakdown = e.isBreakdown := by
  cases e <;> rfl

theorem isCancellation_withoutEstimates (e : Ending) :
    e.withoutEstimates.isCancellation = e.isCancellation := by
  cases e with
  | result r => cases r <;> rfl
  | breakdown => rfl

/-- **What was not told to stop** either advances the progress or broke
down. -/
theorem advances_eq_not_isBreakdown {e : Ending} (h : e.isCancellation = false) :
    e.advances = !e.isBreakdown := by
  cases e with
  | result r =>
    cases r with
    | ok report? => rfl
    | error e => exact congrArg not h
  | breakdown => rfl

end Ending

namespace Collected

/-- **What is received** advances the progress by one, or leaves it as it
is. -/
theorem progress_receive (c : Collected) (position : Nat) (table : String)
    (result : TableResult) :
    (c.receive position table result).progress
      = if (Ending.result result).advances then c.progress.advance else c.progress := by
  cases result with
  | ok report? => cases report? <;> rfl
  | error e =>
    show (if e.isCancellation then _ else _ : Collected).progress
      = if !e.isCancellation then _ else _
    cases e.isCancellation <;> rfl

end Collected

/-- **The account of the advances.** -/
def Account.advances : Account Unit where
  value _ _ ending := if ending.advances then [()] else []
  taken c := List.replicate c.progress.done ()
  taken_receive c position table result := by
    rw [Collected.progress_receive]
    split
    · exact List.replicate_succ'
    · exact (List.append_nil _).symm
  taken_canceled _ := rfl
  value_canceled _ _ := rfl

/-- A table is worth one advance, or none. -/
theorem Account.length_value_advances (position : Nat) (table : String) (ending : Ending) :
    (Account.advances.value position table ending).length
      = if ending.advances then 1 else 0 := by
  show (if ending.advances then [()] else []).length = _
  split <;> rfl

namespace ScanState

variable {scan : Scan} {tables : List String} {s next : ScanState} {actor : Actor}

/-- **A turn advances the progress by one**, or leaves it as it is. -/
theorem progress_of_moves (h : Moves scan s actor next) :
    next.collected.progress = s.collected.progress
      ∨ next.collected.progress = s.collected.progress.advance := by
  cases h with
  | @receives message rest here sent =>
    dsimp only
    rw [Collected.progress_receive]
    split
    · exact .inr rfl
    · exact .inl rfl
  | _ => exact .inl rfl

/-- The total is announced once and for all. -/
theorem total_of_reaches (h : scan.Reaches tables s) :
    s.collected.progress.total = tables.length := by
  induction h with
  | start => rfl
  | @turn s next actor before moved ih =>
    rcases progress_of_moves (moves_of_turn? moved) with h | h
    · rw [h]
      exact ih
    · rw [h]
      exact ih

end ScanState

namespace Scan

variable {scan : Scan} {tables : List String} {outcome : Outcome}

/-- **Whether a table breaks down** unless it is told to stop before. -/
def breaksDown (scan : Scan) (table : String) : Bool :=
  (scan.plainEnding table).isBreakdown

/-- **A table breaks down only if its source does.** -/
theorem breaksDownOn_of_breaksDown {table : String} (h : scan.breaksDown table = true) :
    scan.source.BreaksDownOn scan.settings.limit table := by
  have covers : scan.source.Covers scan.settings.limit table
      (fun e => e.isBreakdown = true → scan.source.BreaksDownOn scan.settings.limit table) := {
    done := by rintro _ ⟨⟩
    noRoom := by rintro ⟨⟩
    columns := by rintro _ _ ⟨⟩
    rowCount := by rintro _ _ _ ⟨⟩
    rows := by rintro _ _ ⟨⟩
    row := by rintro _ _ _ _ _ ⟨⟩
    breakdown := fun breaks _ => breaks }
  refine Activity.uninterrupted_ofTable covers (scan.seeds 0) ?_
  exact (Ending.isBreakdown_withoutEstimates _).symm.trans h

/-- How often the progress advances if every table gets to its end. -/
theorem length_ofTables_advances (position : Nat) (tables : List String) :
    (Account.advances.ofTables scan position tables).length
      = tables.countP fun table => (scan.plainEnding table).advances := by
  induction tables generalizing position with
  | nil => rfl
  | cons table rest ih =>
    have hplain : (scan.ending position table).advances = (scan.plainEnding table).advances := by
      rw [← SameAs.withoutEstimates_ending ⟨rfl, rfl⟩ position, Ending.advances_withoutEstimates]
    rw [Account.ofTables_cons, List.length_append, ih, Account.length_value_advances, hplain,
      List.countP_cons, Nat.add_comm]

end Scan

namespace ScanState

variable {scan : Scan} {tables : List String} {s : ScanState}

/-- **There are never more advances than tables.** -/
theorem done_le_of_reaches (h : scan.Reaches tables s) :
    s.collected.progress.done ≤ tables.length := by
  have hle : (Account.advances.taken s.collected : Multiset Unit)
      ≤ Account.advances.ofTables scan 0 tables := by
    refine le_trans ?_ (Account.total_le_of_reaches (A := Account.advances) h rfl)
    unfold Account.total
    rw [add_assoc, add_assoc]
    exact Multiset.le_add_right _ _
  have hcard := Multiset.card_le_card hle
  rw [Multiset.coe_card, Multiset.coe_card, Scan.length_ofTables_advances] at hcard
  exact (List.length_replicate.symm.trans_le hcard).trans List.countP_le_length

/-- **How far the progress is when a scan has ended**: as far as is accounted for. -/
theorem EndedWith.done_eq {outcome : Outcome} (ended : s.EndedWith outcome) {l : List Unit}
    (total : Account.advances.total scan s = (l : Multiset Unit)) :
    outcome.progress.done = l.length := by
  -- what has ended has sent its result, or has none to send
  have hnone : (s.workers.mapIdx Account.advances.ofWorker).flatten = [] := by
    refine List.flatten_eq_nil_iff.mpr fun l hl => ?_
    obtain ⟨i, hi, rfl⟩ := List.mem_mapIdx.mp hl
    unfold Account.ofWorker
    rcases ended.workers _ (List.getElem_mem hi) with hstage | hstage
    · rw [hstage]
      rfl
    · rw [hstage]
      rfl
  rw [Account.total_of_ended Account.advances scan ended, hnone] at total
  have hcard := congrArg Multiset.card total
  rw [Multiset.card_add, Multiset.coe_card, Multiset.coe_card, Multiset.coe_card] at hcard
  rw [ended.outcome_eq]
  exact (List.length_replicate.symm.trans (Nat.add_zero _).symm).trans hcard

end ScanState

namespace Scan

variable {scan : Scan} {tables : List String} {outcome : Outcome}

/-- A scan that is never told to stop receives every result there is. -/
theorem done_of_ends (h : scan.Ends tables outcome) (goesOn : ∀ q, scan.interrupt q = true) :
    outcome.progress.done = tables.countP fun table => (scan.plainEnding table).advances := by
  obtain ⟨s, reaches, hended⟩ := h
  have ended := (ScanState.balanced_of_reaches reaches).settled.endedWith hended
  have heq := Account.total_eq_of_reaches (A := Account.advances) reaches goesOn rfl
  rw [ended.done_eq heq, length_ofTables_advances]

/-- **A completed scan is behind by the tables that broke down.** -/
theorem done_add_countP_breaksDown (h : scan.Ends tables outcome)
    (completed : outcome.canceled = false) :
    outcome.progress.done + tables.countP scan.breaksDown = tables.length := by
  obtain ⟨hundisturbed, huncanceled⟩ := ends_undisturbed h completed
  have hdone := done_of_ends hundisturbed fun _ => rfl
  have hadvances : (tables.countP fun table => (scan.plainEnding table).advances)
      = tables.countP fun table => !scan.breaksDown table := by
    refine List.countP_congr fun table htable => ?_
    obtain ⟨i, hi⟩ := List.getElem?_of_mem htable
    have hplain : (scan.plainEnding table).isCancellation = false := by
      rw [← SameAs.withoutEstimates_ending ⟨rfl, rfl⟩ i, Ending.isCancellation_withoutEstimates]
      exact huncanceled i table hi
    rw [Ending.advances_eq_not_isBreakdown hplain]
    rfl
  have hsplit := List.length_eq_countP_add_countP scan.breaksDown (l := tables)
  have hplain : scan.undisturbed.plainEnding = scan.plainEnding := rfl
  rw [hplain, hadvances] at hdone
  rw [hdone, hsplit, Nat.add_comm]
  simp

/-- Only one of the three tables makes its source break down. -/
theorem not_breaksDownOn_threeTables {limit : Option Nat} :
    ∀ table ∈ ["kept", "lost"], ¬ threeTables.BreaksDownOn limit table := by
  intro table htable breaks
  cases breaks with
  | columns h =>
    rcases List.mem_pair.mp htable with rfl | rfl
    · simp [threeTables] at h
    · simp [threeTables] at h
  | rowCount h => cases h
  | rows h => cases h
  | row h mem =>
    obtain rfl := Answer.value.inj h
    simp at mem

end Scan

end TableProfile
