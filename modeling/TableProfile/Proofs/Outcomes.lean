import TableProfile.Proofs.Ledger

/-!
# What a scan comes to

Two accounts are closed here. That of the reports says that a scan which has
ended reports what its tables were good for, in the order of the request,
each for its own position: nothing else in any case, and all of it if nobody
was told to stop (`tables_of_ends`). That of the failures says the same of
the failures, whose order is left to the turns (`failures_of_ends`).

Whether a scan was canceled is not a matter of accounts. It was if and only
if some question was answered with *no*, whoever asked it, or some table ended
as canceled by itself (`toldToStop_iff_of_reaches`). With a source that never
cancels, only the questions are left (`canceled_iff_of_reaches`).
-/

namespace TableProfile

namespace Ending

/-- The report that a table ended with, if there is one. -/
def report? : Ending → Option Report.Table
  | result (.ok report) => report
  | result (.error _) => none
  | breakdown => none

/-- The failure that a table ended with. To be told to stop is none. -/
def failure? (table : String) : Ending → Option Report.Failure
  | result (.ok _) => none
  | result (.error e) => if e.isCancellation then none else some ⟨table, e.message⟩
  | breakdown => some (Collected.breakdownFailure table)

end Ending

namespace Account

/-- **The account of the reports**, each with the position of its table. -/
def reports : Account (Nat × Report.Table) where
  value position _ ending := (ending.report?.map fun report => (position, report)).toList
  taken c := c.finished
  taken_receive c position table result := by
    cases result with
    | ok report? =>
      cases report? with
      | none => exact (List.append_nil _).symm
      | some report => rfl
    | error e =>
      show (if e.isCancellation then _ else _ : Collected).finished = _ ++ []
      split <;> exact (List.append_nil _).symm
  taken_canceled _ := rfl
  value_canceled _ _ := rfl

/-- **The account of the failures.** -/
def failures : Account Report.Failure where
  value _ table ending := (ending.failure? table).toList
  taken c := c.failures
  taken_receive c position table result := by
    cases result with
    | ok report? => cases report? <;> exact (List.append_nil _).symm
    | error e =>
      show (if e.isCancellation then _ else _ : Collected).failures
        = _ ++ (if e.isCancellation then _ else _ : Option _).toList
      split
      · exact (List.append_nil _).symm
      · rfl
  taken_canceled _ := rfl
  value_canceled _ _ := rfl

end Account

namespace Scan

variable (scan : Scan)

/-- **The reports that tables are good for**, each with its position. -/
def reports (tables : List String) : List (Nat × Report.Table) :=
  Account.reports.ofTables scan 0 tables

/-- **The failures that tables are good for**, in the order of the
request. -/
def failures (tables : List String) : List Report.Failure :=
  Account.failures.ofTables scan 0 tables

/-- Reports come with the positions of their tables, in ascending order. -/
theorem pairwise_ofTables_reports (position : Nat) (tables : List String) :
    (Account.reports.ofTables scan position tables).Pairwise (fun a b => a.1 < b.1)
      ∧ ∀ a ∈ Account.reports.ofTables scan position tables, position ≤ a.1 := by
  induction tables generalizing position with
  | nil => exact ⟨.nil, fun _ ha => absurd ha List.not_mem_nil⟩
  | cons table rest ih =>
    obtain ⟨hpairwise, hle⟩ := ih (position + 1)
    have hmem : ∀ a ∈ Account.reports.value position table (scan.ending position table),
        a.1 = position := by
      intro a ha
      obtain ⟨report, -, rfl⟩ := Option.map_eq_some_iff.mp (Option.mem_toList.mp ha)
      rfl
    have hone : (Account.reports.value position table (scan.ending position table)).Pairwise
        (fun a b => a.1 < b.1) := by
      show (Option.toList _).Pairwise _
      cases ((scan.ending position table).report?.map fun report => (position, report)) with
      | none => exact .nil
      | some _ => exact List.pairwise_singleton _ _
    rw [Account.ofTables_cons]
    refine ⟨List.pairwise_append.mpr ⟨hone, hpairwise, fun a ha b hb => ?_⟩, fun a ha => ?_⟩
    · exact (hmem a ha).trans_lt (hle b hb)
    · rcases List.mem_append.mp ha with ha | ha
      · exact (hmem a ha).ge
      · exact (Nat.le_succ _).trans (hle a ha)

/-- A report that tables are good for belongs to one of them. -/
theorem mem_reports {tables : List String} {position : Nat} {report : Report.Table} :
    (position, report) ∈ scan.reports tables ↔ ∃ table, tables[position]? = some table
      ∧ (scan.ending position table).report? = some report := by
  unfold reports
  rw [Account.mem_ofTables]
  constructor
  · rintro ⟨i, table, htable, hmem⟩
    obtain ⟨report', hreport, heq⟩ := Option.map_eq_some_iff.mp (Option.mem_toList.mp hmem)
    obtain ⟨rfl, rfl⟩ := Prod.mk.inj heq
    exact ⟨table, htable, hreport⟩
  · rintro ⟨table, htable, hreport⟩
    exact ⟨position, table, htable,
      Option.mem_toList.mpr (Option.map_eq_some_iff.mpr ⟨report, hreport, rfl⟩)⟩

/-- A failure that tables are good for belongs to one of them. -/
theorem mem_failures {tables : List String} {failure : Report.Failure} :
    failure ∈ scan.failures tables ↔ ∃ (i : Nat) (table : String), tables[i]? = some table
      ∧ (scan.ending i table).failure? table = some failure := by
  unfold failures
  rw [Account.mem_ofTables]
  refine exists_congr fun i => exists_congr fun table => and_congr_right' ?_
  exact Option.mem_toList

end Scan

/-- **Sorting by position** brings reports into the order of the request. -/
theorem mergeSort_eq_of_perm {l sorted : List (Nat × Report.Table)} (h : l.Perm sorted)
    (strict : sorted.Pairwise (fun a b => a.1 < b.1)) :
    l.mergeSort (fun a b => a.1 ≤ b.1) = sorted := by
  have hsorted : (l.mergeSort (fun a b => a.1 ≤ b.1)).Pairwise (fun a b => a.1 ≤ b.1) := by
    refine List.Pairwise.imp of_decide_eq_true
      (List.pairwise_mergeSort (fun a b c hab hbc => ?_) (fun a b => ?_) l)
    · exact decide_eq_true ((of_decide_eq_true hab).trans (of_decide_eq_true hbc))
    · simpa using le_total a.1 b.1
  have hperm := (List.mergeSort_perm l (fun a b => a.1 ≤ b.1)).trans h
  refine List.Perm.eq_of_pairwise (fun a b ha hb hab hba => ?_) hsorted
    (strict.imp le_of_lt) hperm
  -- two entries of one position are one entry
  by_contra hne
  have hdistinct : sorted.Pairwise (fun a b => a.1 ≠ b.1) := strict.imp ne_of_lt
  have : Std.Symm fun a b : Nat × Report.Table => a.1 ≠ b.1 := ⟨fun _ _ h => h.symm⟩
  exact hdistinct.forall (hperm.mem_iff.mp ha) hb hne (le_antisymm hab hba)

/-! ## Reports and failures -/

section Ends

variable {scan : Scan} {tables : List String} {outcome : Outcome}

/-- What a scan returns is how it ended. -/
theorem Scan.ends_of_returns (h : scan.Returns tables (.ok outcome)) : scan.Ends tables outcome := by
  unfold Scan.Returns at h
  split at h
  · cases h
  · obtain ⟨outcome', hends, heq⟩ := h
    obtain rfl := Except.ok.inj heq
    exact hends

/-- A worker that broke down has no report to give. -/
theorem ofWorker_reports_eq_nil {position : Nat} {w : Worker}
    (h : w.stage = .gone ∨ w.stage = .broken) : Account.reports.ofWorker position w = [] := by
  unfold Account.ofWorker
  rcases h with h | h
  · rw [h]
    rfl
  · rw [h]
    rfl

/-- The workers that broke down are worth one failure each. -/
theorem flatten_ofWorker_failures {workers : List Worker}
    (h : ∀ w ∈ workers, w.stage = .gone ∨ w.stage = .broken) (position : Nat) :
    (workers.mapIdx fun i => Account.failures.ofWorker (position + i)).flatten
      = ((workers.filter (·.stage.isBroken)).map (·.table)).map Collected.breakdownFailure := by
  induction workers generalizing position with
  | nil => rfl
  | cons w rest ih =>
    have hrest := ih (fun v hv => h v (List.mem_cons_of_mem _ hv)) (position + 1)
    have hshift : (fun i => Account.failures.ofWorker (position + (i + 1)))
        = fun i => Account.failures.ofWorker (position + 1 + i) := by
      funext i
      rw [Nat.add_right_comm, Nat.add_assoc]
    rw [List.mapIdx_cons, List.flatten_cons, hshift, hrest, List.filter_cons]
    unfold Account.ofWorker
    rcases h w List.mem_cons_self with hstage | hstage
    · rw [hstage]
      rfl
    · rw [hstage]
      rfl

/-- **The reports are accounted for** when a scan has ended: what was collected. -/
theorem ScanState.EndedWith.total_reports {s : ScanState} (ended : s.EndedWith outcome) :
    Account.reports.total scan s = (s.collected.finished : Multiset _) := by
  -- a scan that has ended has nothing left to report but what was collected
  have hnone : (s.workers.mapIdx Account.reports.ofWorker).flatten = [] := by
    refine List.flatten_eq_nil_iff.mpr (fun l hl => ?_)
    obtain ⟨i, hi, rfl⟩ := List.mem_mapIdx.mp hl
    exact ofWorker_reports_eq_nil (ended.workers _ (List.getElem_mem hi))
  rw [Account.total_of_ended Account.reports scan ended, hnone]
  exact add_zero _

/-- **What a scan reports that has ended**: what is accounted for, in order. -/
theorem ScanState.EndedWith.tables_eq {s : ScanState} (ended : s.EndedWith outcome)
    {l : List (Nat × Report.Table)} (total : Account.reports.total scan s = (l : Multiset _))
    (strict : l.Pairwise (fun a b => a.1 < b.1)) : outcome.report.tables = l.map (·.2) := by
  rw [ended.total_reports, Multiset.coe_eq_coe] at total
  rw [ended.outcome_eq]
  exact congrArg (List.map Prod.snd) (mergeSort_eq_of_perm total strict)

/-- **The failures are accounted for** when a scan has ended: what was collected, and
the tables that broke down. -/
theorem ScanState.EndedWith.total_failures {s : ScanState} (ended : s.EndedWith outcome) :
    Account.failures.total scan s = (outcome.report.failures : Multiset _) := by
  have hbroken := flatten_ofWorker_failures ended.workers 0
  simp only [Nat.zero_add] at hbroken
  rw [Account.total_of_ended Account.failures scan ended, ended.outcome_eq]
  exact (congrArg (_ + ·) (congrArg _ hbroken)).trans (Multiset.coe_add _ _)

/-- **What is reported was good for a report**, for its own position, and is
in the order of the request. -/
theorem tables_of_ends (h : scan.Ends tables outcome) :
    ∃ kept, kept.Sublist (scan.reports tables) ∧ outcome.report.tables = kept.map (·.2)
      ∧ ((∀ q, scan.interrupt q = true) → kept = scan.reports tables) := by
  obtain ⟨s, reaches, hended⟩ := h
  have ended := (ScanState.balanced_of_reaches reaches).settled.endedWith hended
  have hfinished : Account.reports.total scan s = _ := ended.total_reports
  have hle := Account.total_le_of_reaches (A := Account.reports) reaches rfl
  rw [hfinished, Multiset.coe_le] at hle
  obtain ⟨kept, hperm, hsub⟩ := hle
  have hstrict := (scan.pairwise_ofTables_reports 0 tables).1
  refine ⟨kept, hsub, ?_, fun goesOn => ?_⟩
  · exact ended.tables_eq (hfinished.trans (Multiset.coe_eq_coe.mpr hperm.symm))
      (hstrict.sublist hsub)
  · have heq := Account.total_eq_of_reaches (A := Account.reports) reaches goesOn rfl
    rw [hfinished, Multiset.coe_eq_coe] at heq
    exact hsub.eq_of_length (hperm.length_eq.trans heq.length_eq)

/-- **What failed was good for a failure.** -/
theorem failures_of_ends (h : scan.Ends tables outcome) :
    outcome.report.failures.Subperm (scan.failures tables)
      ∧ ((∀ q, scan.interrupt q = true) →
        outcome.report.failures.Perm (scan.failures tables)) := by
  obtain ⟨s, reaches, hended⟩ := h
  have ended := (ScanState.balanced_of_reaches reaches).settled.endedWith hended
  refine ⟨?_, fun goesOn => ?_⟩
  · have hle := Account.total_le_of_reaches (A := Account.failures) reaches rfl
    rwa [ended.total_failures, Multiset.coe_le] at hle
  · have heq := Account.total_eq_of_reaches (A := Account.failures) reaches goesOn rfl
    rwa [ended.total_failures, Multiset.coe_eq_coe] at heq

end Ends

/-! ## Cancellation -/

/-- Whether a worker was told to stop, and has not sent so yet. -/
def WorkerStage.isCanceled (stage : WorkerStage) : Bool :=
  stage.prospect.any Ending.isCancellation

namespace ScanState

/-- **Whether somebody was told to stop**: it is in the collection, on its
way, or still with a worker. -/
def toldToStop (s : ScanState) : Bool :=
  s.collected.canceled || s.channel.any (fun m => (Ending.result m.result).isCancellation)
    || s.workers.any (·.stage.isCanceled)

variable {scan : Scan} {tables : List String} {s next : ScanState} {actor : Actor}

theorem canceled_receive (c : Collected) (position : Nat) (table : String)
    (result : TableResult) :
    (c.receive position table result).canceled
      = (c.canceled || (Ending.result result).isCancellation) := by
  cases result with
  | ok report? => cases report? <;> exact (Bool.or_false _).symm
  | error e =>
    show (if e.isCancellation then _ else _ : Collected).canceled = (_ || e.isCancellation)
    cases e.isCancellation with
    | true => exact (Bool.or_true _).symm
    | false => exact (Bool.or_false _).symm

/-- **Who tells a scan to stop**: a question that is answered with *no*, or a
table that ends as canceled by itself, when its worker starts. -/
theorem toldToStop_of_moves (heeds : s.Heeds) (h : Moves scan s actor next) :
    next.toldToStop = true ↔ s.toldToStop = true
      ∨ next.asked = s.asked + 1 ∧ scan.interrupt s.asked = false
      ∨ ∃ w, next.workers = s.workers ++ [w]
        ∧ (scan.ending s.workers.length w.table).isCancellation = true := by
  unfold toldToStop
  cases h with
  | calls here =>
    simp [here, WorkerStage.isCanceled, WorkerStage.prospect, Activity.uninterrupted]
  | @asks before after table goOn here =>
    have hstops : goOn false = .ended (.error .canceled) := by
      cases heeds _ (here ▸ List.mem_append_right _ List.mem_cons_self) _ rfl with
      | asks stops goesOn => exact stops
    cases scan.interrupt s.asked with
    | true =>
      simp [here, WorkerStage.isCanceled, WorkerStage.prospect, Activity.uninterrupted]
    | false =>
      simp [here, hstops, WorkerStage.isCanceled, WorkerStage.prospect, Activity.uninterrupted,
        Ending.isCancellation, ProfileError.isCancellation]
  | ends here =>
    simp [here, WorkerStage.isCanceled, WorkerStage.prospect, Activity.uninterrupted]
  | breaks here =>
    simp [here, WorkerStage.isCanceled, WorkerStage.prospect, Activity.uninterrupted]
  | sends here room =>
    simp [here, WorkerStage.isCanceled, WorkerStage.prospect, or_assoc, or_left_comm]
  | leaves here => simp [here, WorkerStage.isCanceled, WorkerStage.prospect]
  | allStarted here => simp
  | takes here free => simp
  | @starts table waiting here yes =>
    have hnew : (WorkerStage.profiling (scan.activity s.workers.length table)).isCanceled
        = (scan.ending s.workers.length table).isCancellation := rfl
    simp [hnew, yes, or_assoc]
  | stops here no => simp [no]
  | receives here sent =>
    rw [canceled_receive, sent, List.any_cons, ← Bool.or_assoc]
    simp
  | concludes here empty idle => simp

/-- Whether a table that has a worker ends as canceled by itself. -/
def CancelsItself (scan : Scan) (s : ScanState) : Prop :=
  ∃ i table, (s.workers.map (·.table))[i]? = some table
    ∧ (scan.ending i table).isCancellation = true

theorem cancelsItself_of_moves (h : Moves scan s actor next) :
    next.CancelsItself scan ↔ s.CancelsItself scan ∨ ∃ w, next.workers = s.workers ++ [w]
      ∧ (scan.ending s.workers.length w.table).isCancellation = true := by
  unfold CancelsItself
  rcases workers_of_moves h with hsame | ⟨w, hnew⟩
  · have hnone : ¬ ∃ w, next.workers = s.workers ++ [w]
        ∧ (scan.ending s.workers.length w.table).isCancellation = true := by
      rintro ⟨w, hnew, -⟩
      have hlength := congrArg List.length hsame
      rw [hnew] at hlength
      simp at hlength
    rw [hsame]
    exact (or_iff_left hnone).symm
  · rw [hnew, List.map_append]
    constructor
    · rintro ⟨i, table, hget, hcancels⟩
      rcases Nat.lt_or_ge i s.workers.length with hlt | hge
      · rw [List.getElem?_append_left (by rwa [List.length_map])] at hget
        exact .inl ⟨i, table, hget, hcancels⟩
      · rw [List.getElem?_append_right (by rwa [List.length_map]), List.length_map,
          List.map_singleton, List.getElem?_singleton] at hget
        split at hget
        · rename_i hzero
          obtain rfl := Option.some.inj hget
          obtain rfl : i = s.workers.length := by omega
          exact .inr ⟨w, rfl, hcancels⟩
        · cases hget
    · rintro (⟨i, table, hget, hcancels⟩ | ⟨w', heq, hcancels⟩)
      · refine ⟨i, table, ?_, hcancels⟩
        rw [List.getElem?_append_left (List.getElem?_eq_some_iff.mp hget).1]
        exact hget
      · obtain rfl : w = w' := by simpa using heq
        refine ⟨s.workers.length, w.table, ?_, hcancels⟩
        rw [List.getElem?_append_right (List.length_map _).le, List.length_map, Nat.sub_self]
        rfl

/-- **Somebody was told to stop** exactly if some question was answered with
*no*, or some table ends as canceled by itself. -/
theorem toldToStop_iff_of_reaches (h : scan.Reaches tables s) :
    s.toldToStop = true
      ↔ (∃ q < s.asked, scan.interrupt q = false) ∨ s.CancelsItself scan := by
  induction h with
  | start =>
    refine iff_of_false Bool.false_ne_true ?_
    rintro (⟨q, hq, -⟩ | ⟨i, table, hget, -⟩)
    · exact Nat.not_lt_zero q hq
    · cases hget
  | @turn s next actor before moved ih =>
    have hmoves := moves_of_turn? moved
    have hasked : (∃ q < next.asked, scan.interrupt q = false)
        ↔ (∃ q < s.asked, scan.interrupt q = false)
          ∨ next.asked = s.asked + 1 ∧ scan.interrupt s.asked = false := by
      rcases asked_of_moves hmoves with hasked | hasked
      · rw [hasked]
        exact (or_iff_left fun h => Nat.succ_ne_self _ h.1.symm).symm
      · rw [hasked]
        constructor
        · rintro ⟨q, hq, hno⟩
          rcases Nat.lt_succ_iff_lt_or_eq.mp hq with hq | rfl
          · exact .inl ⟨q, hq, hno⟩
          · exact .inr ⟨rfl, hno⟩
        · rintro (⟨q, hq, hno⟩ | ⟨-, hno⟩)
          · exact ⟨q, hq.trans (Nat.lt_succ_self _), hno⟩
          · exact ⟨_, Nat.lt_succ_self _, hno⟩
    rw [toldToStop_of_moves (balanced_of_reaches before).heeds hmoves, hasked,
      cancelsItself_of_moves hmoves, ih]
    exact or_or_or_comm

/-- A scan that has ended was told to stop exactly if it was canceled. -/
theorem toldToStop_of_ended {outcome : Outcome} (ended : s.EndedWith outcome) :
    s.toldToStop = outcome.canceled := by
  have hnone : s.workers.any (·.stage.isCanceled) = false := by
    refine List.any_eq_false.mpr (fun w hw => ?_)
    rcases ended.workers w hw with hstage | hstage
    · rw [hstage]
      exact Bool.false_ne_true
    · rw [hstage]
      exact Bool.false_ne_true
  rw [toldToStop, ended.channel, hnone, ended.outcome_eq, List.any_nil, Bool.or_false,
    Bool.or_false]
  rfl

/-- **A scan was canceled** exactly if some question was answered with
*no*. -/
theorem canceled_iff_of_reaches (never : scan.source.NeverCancels) (h : scan.Reaches tables s)
    {outcome : Outcome} (ended : s.outcome? = some outcome) :
    outcome.canceled = true ↔ ∃ q < s.asked, scan.interrupt q = false := by
  have hnone : ¬ s.CancelsItself scan := by
    rintro ⟨i, table, -, hcancels⟩
    have hfalse : (scan.ending i table).isCancellation = false :=
      Activity.isCancellation_ofTable _ _ never
    rw [hfalse] at hcancels
    cases hcancels
  rw [← toldToStop_of_ended ((balanced_of_reaches h).settled.endedWith ended),
    toldToStop_iff_of_reaches h, or_iff_left hnone]

end ScanState

end TableProfile
