import TableProfile.Proofs.Completion
import TableProfile.Proofs.OneAtATime

/-!
# What a canceled scan leaves

To stop a scan takes nothing away from what is finished, and leaves nothing
half done. With one table at a time, what is left is the report of a scan
that was never asked to stop, of the first so many tables. How many these are
is a matter of the questions: a table is done if all questions up to its end
are asked before the answer changes (`doneBefore`). With several workers the
tables that are done need not be the first ones, but each of them is
reported as it would have been.

A request for no table is refused before any question, so it is neither
completed nor canceled (`not_returns_ok_of_nil`).
-/

namespace TableProfile

/-- A report is empty if it is without its estimates. -/
theorem Report.eq_empty_of_withoutEstimates {r : Report} (h : r.withoutEstimates = {}) :
    r = {} := by
  obtain ⟨tables, failures⟩ := r
  obtain ⟨htables, rfl⟩ := Report.mk.inj h
  obtain rfl : tables = [] := List.map_eq_nil_iff.mp htables
  rfl

namespace Scan

/-- How many questions are asked by the end of a table, if the answer does
not change. -/
def askedBy (scan : Scan) (position asked : Nat) (table : String) : Nat :=
  asked + 1 + (scan.activity position table).questions

/-- **How many tables are done** before the answer changes with the `n`-th
question. The first of the tables is looked at after so many questions. -/
def doneBefore (scan : Scan) (n position asked : Nat) : List String → Nat
  | [] => 0
  | table :: rest =>
    if scan.askedBy position asked table ≤ n then
      scan.doneBefore n (position + 1) (scan.askedBy position asked table) rest + 1
    else 0

variable {scan scan' : Scan} {tables : List String} {n : Nat}

theorem doneBefore_le_length (position asked : Nat) :
    scan.doneBefore n position asked tables ≤ tables.length := by
  induction tables generalizing position asked with
  | nil => exact le_rfl
  | cons table rest ih =>
    unfold doneBefore
    split
    · exact Nat.succ_le_succ (ih _ _)
    · exact Nat.zero_le _

/-- **To be asked to stop later** does not undo a table. -/
theorem doneBefore_mono (position asked : Nat) :
    Monotone fun n => scan.doneBefore n position asked tables := by
  intro n m hnm
  show scan.doneBefore n position asked tables ≤ scan.doneBefore m position asked tables
  induction tables generalizing position asked with
  | nil => exact le_rfl
  | cons table rest ih =>
    unfold doneBefore
    by_cases hn : scan.askedBy position asked table ≤ n
    · rw [if_pos hn, if_pos (hn.trans hnm)]
      exact Nat.succ_le_succ (ih _ _)
    · rw [if_neg hn]
      exact Nat.zero_le _

/-- The questions about a table do not depend on the draws. -/
theorem SameAs.askedBy_eq (same : scan'.SameAs scan) (position asked : Nat) (table : String) :
    scan'.askedBy position asked table = scan.askedBy position asked table := by
  unfold askedBy activity
  rw [same.source, same.settings, ← Activity.questions_withoutEstimates,
    ← Activity.questions_withoutEstimates (Activity.ofTable scan.source _ _ _)]
  exact congrArg (fun a => asked + 1 + a.questions)
    (Activity.withoutEstimates_ofTable table scan.settings scan.source _ _)

theorem SameAs.doneBefore_eq (same : scan'.SameAs scan) (position asked : Nat) :
    scan'.doneBefore n position asked tables = scan.doneBefore n position asked tables := by
  induction tables generalizing position asked with
  | nil => rfl
  | cons table rest ih =>
    unfold doneBefore
    rw [same.askedBy_eq, ih]

end Scan

/-! ## Courses that differ in their draws -/

namespace Account

variable (position : Nat) (table : String) (e : Ending)

/-- What a table counts as a report, without estimates, shows in its ending
without estimates. -/
theorem map_value_reports :
    (reports.value position table e).map (Prod.map id Report.Table.withoutEstimates)
      = (e.withoutEstimates.report?.map fun report => (position, report)).toList := by
  rw [Ending.report?_withoutEstimates]
  show List.map _ (Option.toList (e.report?.map _)) = _
  cases e.report? with
  | none => rfl
  | some report => rfl

/-- So does what it counts as a failure. -/
theorem value_failures :
    failures.value position table e = (e.withoutEstimates.failure? table).toList := by
  rw [Ending.failure?_withoutEstimates]
  rfl

end Account

/-- **Two courses that have come to the same**, up to estimates, to the
questions, and to whether they were told to stop. -/
structure Course.Agrees (course course' : Course) : Prop where
  /-- The reports agree without estimates. -/
  finished : course.collected.finished.map (Prod.map id Report.Table.withoutEstimates)
    = course'.collected.finished.map (Prod.map id Report.Table.withoutEstimates)
  /-- The failures agree. -/
  failures : course.collected.failures = course'.collected.failures
  /-- The tables that broke down agree. -/
  broken : course.broken = course'.broken

namespace Course

variable {course course' : Course}

/-- The order of the request does not look at the reports, so that estimates
can be taken out before they are brought into it. -/
theorem map_mergeSort_withoutEstimates (l : List (Nat × Report.Table)) :
    ((l.mergeSort (fun a b => a.1 ≤ b.1)).map (·.2)).map Report.Table.withoutEstimates
      = ((l.map (Prod.map id Report.Table.withoutEstimates)).mergeSort
          (fun a b => a.1 ≤ b.1)).map (·.2) := by
  rw [← List.map_mergeSort (r := fun a b : Nat × Report.Table => a.1 ≤ b.1)
    (fun _ _ _ _ => rfl), List.map_map, List.map_map]
  rfl

/-- What courses that agree conclude with. -/
theorem Agrees.conclude (h : course.Agrees course') :
    (course.collected.conclude course.broken).report.withoutEstimates
      = (course'.collected.conclude course'.broken).report.withoutEstimates := by
  unfold Collected.conclude Report.withoutEstimates
  rw [h.failures, h.broken]
  refine congrArg (Report.mk · _) ?_
  exact (map_mergeSort_withoutEstimates _).trans
    ((congrArg (fun l => (List.mergeSort l _).map _) h.finished).trans
      (map_mergeSort_withoutEstimates _).symm)

/-- **Courses agree on**, when a table closes that ends alike in both. -/
theorem Agrees.close (h : course.Agrees course') (position : Nat) (table : String)
    {ending ending' : Ending} (alike : ending.withoutEstimates = ending'.withoutEstimates)
    (asked asked' : Nat) :
    (course.close position table (ending, asked)).Agrees
      (course'.close position table (ending', asked')) := by
  cases ending with
  | breakdown =>
    cases ending' with
    | breakdown => exact ⟨h.finished, h.failures, congrArg (· ++ [table]) h.broken⟩
    | result result' => cases alike
  | result result =>
    cases ending' with
    | breakdown => cases alike
    | result result' =>
      refine ⟨?_, ?_, h.broken⟩
      · show List.map _ (Account.reports.taken (course.collected.receive position table result))
          = List.map _ (Account.reports.taken (course'.collected.receive position table result'))
        rw [Account.taken_receive, Account.taken_receive, List.map_append, List.map_append,
          Account.map_value_reports, Account.map_value_reports, alike]
        exact congrArg (· ++ _) h.finished
      · show Account.failures.taken (course.collected.receive position table result)
          = Account.failures.taken (course'.collected.receive position table result')
        rw [Account.taken_receive, Account.taken_receive, Account.value_failures,
          Account.value_failures, alike]
        exact congrArg (· ++ _) h.failures

@[simp] theorem asked_close (course : Course) (position : Nat) (table : String)
    (ran : Ending × Nat) : (course.close position table ran).asked = ran.2 := by
  obtain ⟨ending, asked⟩ := ran
  cases ending <;> rfl

/-- A table that was not told to stop does not cancel the scan. -/
theorem canceled_close (course : Course) (position : Nat) (table : String) {ending : Ending}
    (h : ending.isCancellation = false) (asked : Nat) :
    (course.close position table (ending, asked)).collected.canceled
      = course.collected.canceled := by
  cases ending with
  | result result =>
    refine (ScanState.canceled_receive course.collected position table result).trans ?_
    rw [h, Bool.or_false]
  | breakdown => rfl

end Course

/-! ## One table at a time -/

namespace Scan

variable {scan scan' : Scan} {tables : List String} {n : Nat} {course course' : Course}

theorem interrupt_eq_true (stops : scan.interrupt = .after n) {q : Nat} :
    scan.interrupt q = true ↔ q < n := by
  rw [stops]
  exact decide_eq_true_iff

theorem interrupt_eq_false (stops : scan.interrupt = .after n) {q : Nat} :
    scan.interrupt q = false ↔ n ≤ q := by
  rw [← Bool.not_eq_true, interrupt_eq_true stops, Nat.not_lt]

/-- Once it is told to stop, a scan adds nothing to its report. -/
theorem finish_of_stopped (course : Course) (no : scan.interrupt course.asked = false)
    (position : Nat) (tables : List String) :
    (scan.finish position course tables).report
        = (course.collected.conclude course.broken).report
      ∧ (course.collected.canceled = true →
        (scan.finish position course tables).canceled = true) := by
  cases tables with
  | nil => exact ⟨rfl, id⟩
  | cons table rest =>
    rw [finish_cons, if_neg (Bool.eq_false_iff.mp no)]
    exact ⟨rfl, fun _ => rfl⟩

/-- **A table in whose course the answer changes** leaves no trace but the
cancellation. -/
theorem finish_of_stopped_within (stops : scan.interrupt = .after n) (position : Nat)
    (table : String) (rest : List String) (h : ¬ scan.askedBy position course.asked table ≤ n) :
    (scan.finish position course (table :: rest)).report
        = (course.collected.conclude course.broken).report
      ∧ (scan.finish position course (table :: rest)).canceled = true := by
  rw [finish_cons]
  by_cases hnow : scan.interrupt course.asked = true
  · -- the scheduler is told to go on, and the table is told to stop
    have hask : course.asked < n := (interrupt_eq_true stops).mp hnow
    obtain ⟨q, hq, hno, hrun⟩ := Activity.run_of_stopped
      (Activity.heeds_ofTable scan.source scan.settings (scan.seeds position) table)
      ⟨n, hask, Nat.not_le.mp h, (interrupt_eq_false stops).mpr le_rfl⟩
    have hlater : scan.interrupt (q + 1) = false :=
      (interrupt_eq_false stops).mpr (((interrupt_eq_false stops).mp hno).trans (Nat.le_succ q))
    have hclosed : course.close position table
          ((scan.activity position table).run scan.interrupt (course.asked + 1))
        = { course with
            collected := { course.collected with canceled := true }
            asked := q + 1 } :=
      congrArg (course.close position table) hrun
    rw [if_pos hnow, hclosed]
    obtain ⟨hreport, hcanceled⟩ := finish_of_stopped
      { course with collected := { course.collected with canceled := true }, asked := q + 1 }
      hlater (position + 1) rest
    exact ⟨hreport, hcanceled rfl⟩
  · rw [if_neg hnow]
    exact ⟨rfl, rfl⟩

/-- **A table that is done before the answer changes** comes to the ending it
is heading for. -/
theorem finish_of_done (position : Nat) (table : String) (rest : List String)
    (h : ∀ q, course.asked ≤ q → q < scan.askedBy position course.asked table →
      scan.interrupt q = true) :
    scan.finish position course (table :: rest)
      = scan.finish (position + 1)
          (course.close position table
            (scan.ending position table, scan.askedBy position course.asked table)) rest := by
  have hnow : scan.interrupt course.asked = true :=
    h _ le_rfl (Nat.lt_of_lt_of_le (Nat.lt_succ_self _) (Nat.le_add_right _ _))
  have hrun : (scan.activity position table).run scan.interrupt (course.asked + 1)
      = (scan.ending position table, scan.askedBy position course.asked table) :=
    Activity.run_of_goesOn (fun q hq hlt => h q (Nat.le_of_succ_le hq) hlt)
  rw [finish_cons, if_pos hnow, hrun]

/-- **What is left of a scan that is told to stop** is what a scan comes to
that is not, of the tables that were done. -/
theorem report_finish (same : scan'.SameAs scan) (stops : scan.interrupt = .after n)
    (goesOn : ∀ q, scan'.interrupt q = true) (agrees : course.Agrees course') (position : Nat)
    (tables : List String) :
    (scan.finish position course tables).report.withoutEstimates
      = (scan'.finish position course'
          (tables.take (scan.doneBefore n position course.asked tables))).report.withoutEstimates
    := by
  induction tables generalizing position course course' with
  | nil => exact agrees.conclude
  | cons table rest ih =>
    unfold doneBefore
    by_cases hn : scan.askedBy position course.asked table ≤ n
    · have halike : (scan.ending position table).withoutEstimates
          = (scan'.ending position table).withoutEstimates :=
        (SameAs.withoutEstimates_ending ⟨rfl, rfl⟩ position table).trans
          (same.withoutEstimates_ending position table).symm
      rw [if_pos hn, List.take_succ_cons,
        finish_of_done position table rest
          (fun q _ hlt => (interrupt_eq_true stops).mpr (hlt.trans_le hn)),
        finish_of_done position table _ (fun q _ _ => goesOn q)]
      have hrest := ih (agrees.close position table halike
        (scan.askedBy position course.asked table) (scan'.askedBy position course'.asked table))
        (position + 1)
      rwa [Course.asked_close] at hrest
    · -- the scan is told to stop here, and the prefix ends before this table
      rw [if_neg hn, (finish_of_stopped_within stops position table rest hn).1]
      exact agrees.conclude

/-- **A scan that is told to stop is canceled** exactly if some table is not
done. -/
theorem canceled_finish (never : scan.source.NeverCancels) (stops : scan.interrupt = .after n)
    (position : Nat) (tables : List String) :
    (scan.finish position course tables).canceled
      = (course.collected.canceled
        || decide (scan.doneBefore n position course.asked tables < tables.length)) := by
  induction tables generalizing position course with
  | nil => exact (Bool.or_false _).symm
  | cons table rest ih =>
    unfold doneBefore
    by_cases hn : scan.askedBy position course.asked table ≤ n
    · have hending : (scan.ending position table).isCancellation = false :=
        Activity.isCancellation_ofTable _ _ never
      rw [if_pos hn, finish_of_done position table rest
        (fun q _ hlt => (interrupt_eq_true stops).mpr (hlt.trans_le hn)), ih,
        Course.asked_close, Course.canceled_close _ _ _ hending, List.length_cons]
      simp
    · rw [if_neg hn, (finish_of_stopped_within stops position table rest hn).2]
      simp

/-! ## What is left -/

/-- A scan like another that is told to stop after so many questions. -/
structure StopsAfter (scan' scan : Scan) (n : Nat) : Prop extends scan'.SameAs scan where
  /-- The answer changes with the `n`-th question. -/
  interrupt : scan'.interrupt = .after n

/-- A scan like another that is never told to stop. -/
structure GoesOn (scan' scan : Scan) : Prop extends scan'.SameAs scan where
  /-- The answer does not change. -/
  interrupt : scan'.interrupt = .never

theorem GoesOn.interrupt_eq_true (goesOn : scan'.GoesOn scan) (q : Nat) :
    scan'.interrupt q = true := by
  rw [goesOn.interrupt]
  rfl

/-- **An outcome that was never interrupted**, of the same source and with the
same settings. -/
def Completes (scan : Scan) (tables : List String) (outcome : Outcome) : Prop :=
  ∃ whole : Scan, whole.GoesOn scan ∧ whole.Returns tables (.ok outcome)

/-- **A report is that of a single table**: every scan of the table alone
that is never told to stop comes to it, up to estimates. -/
def IsReportOf (scan : Scan) (table : String) (report : Report.Table) : Prop :=
  ∀ full, scan.Completes [table] full →
    full.report.tables.map Report.Table.withoutEstimates = [report.withoutEstimates]

/-- **Only whole tables are left.** -/
structure LeavesWhole (scan : Scan) (tables : List String) (outcome : Outcome) : Prop where
  /-- Each report is that of an entry of the request, in the order of the
  request, and no entry is reported twice. -/
  requests : ∃ positions : List Nat, positions.Pairwise (· < ·)
    ∧ List.Forall₂ (fun position report => ∃ table, tables[position]? = some table
        ∧ scan.IsReportOf table report) positions outcome.report.tables
  /-- A scan that is never told to stop reports them all. -/
  reported : ∀ full, scan.Completes tables full →
    (outcome.report.tables.map Report.Table.withoutEstimates).Sublist
      (full.report.tables.map Report.Table.withoutEstimates)
  /-- And it fails for everything that failed. -/
  failed : ∀ full, scan.Completes tables full →
    outcome.report.failures.Subperm full.report.failures

/-- **The first so many tables are left**, and nothing else. -/
structure LeavesPrefix (scan : Scan) (tables : List String) (done : Nat)
    (outcome : Outcome) : Prop where
  /-- There are so many tables. -/
  le_length : done ≤ tables.length
  /-- The scan was canceled exactly if some table was not done. -/
  canceled : outcome.canceled = true ↔ done < tables.length
  /-- If none was done, nothing is reported. -/
  nothing : done = 0 → outcome.report = {}
  /-- What is reported is what a scan of the first tables reports that is
  never told to stop. -/
  report : ∀ full, scan.Completes (tables.take done) full →
    outcome.report.withoutEstimates = full.report.withoutEstimates

variable {outcome : Outcome}

/-- What comes of a scan that goes on, of some table at least. -/
theorem Completes.report_eq (accepted : scan.settings.validate = .ok ()) (nonempty : tables ≠ [])
    (never : scan.source.NeverCancels) (h : scan.Completes tables outcome) :
    outcome.report.tables.map Report.Table.withoutEstimates = scan.plainReports tables
      ∧ outcome.report.failures.Perm (scan.plainFailures tables) := by
  obtain ⟨whole, goesOn, hreturns⟩ := h
  obtain ⟨outcome', heq, -, htables, hfailures⟩ := goesOn.toSameAs.outcome_of_returns accepted
    nonempty never goesOn.interrupt_eq_true hreturns
  obtain rfl := Except.ok.inj heq
  exact ⟨htables, hfailures⟩

/-- **Some outcome is never interrupted.** -/
theorem exists_completes (accepted : scan.settings.validate = .ok ()) (nonempty : tables ≠ []) :
    ∃ outcome, scan.Completes tables outcome := by
  have haccepted : { scan with interrupt := .never }.settings.validate = .ok () := accepted
  obtain ⟨outcome, hends⟩ := exists_ends haccepted
  exact ⟨outcome, { scan with interrupt := .never }, ⟨⟨rfl, rfl⟩, rfl⟩,
    (returns_iff haccepted nonempty).mpr ⟨outcome, hends, rfl⟩⟩

/-- **However many tables are looked at at a time**, only whole tables are
left. -/
theorem leavesWhole_of_ends (accepted : scan.settings.validate = .ok ()) (nonempty : tables ≠ [])
    (never : scan.source.NeverCancels) (same : scan'.SameAs scan) (h : scan'.Ends tables outcome) :
    scan.LeavesWhole tables outcome := by
  obtain ⟨kept, hsub, htables, -⟩ := tables_of_ends h
  refine ⟨⟨kept.map (·.1), ?_, ?_⟩, fun full hfull => ?_, fun full hfull => ?_⟩
  · exact List.pairwise_map.mpr ((scan'.pairwise_ofTables_reports 0 tables).1.sublist hsub)
  · rw [htables, List.forall₂_map_left_iff, List.forall₂_map_right_iff, List.forall₂_same]
    rintro ⟨position, report⟩ hmem
    obtain ⟨table, htable, hreport⟩ := scan'.mem_reports.mp (hsub.subset hmem)
    refine ⟨table, htable, fun full hfull => ?_⟩
    have hplain : (scan.plainEnding table).report? = some report.withoutEstimates := by
      rw [← same.withoutEstimates_ending position, Ending.report?_withoutEstimates, hreport]
      rfl
    rw [(hfull.report_eq accepted (List.cons_ne_nil _ _) never).1, plainReports,
      List.flatMap_singleton, hplain]
    rfl
  · rw [(hfull.report_eq accepted nonempty never).1, htables, List.map_map,
      ← same.map_ofTables_reports 0 tables]
    exact hsub.map _
  · have hfailures := (failures_of_ends h).1
    rw [failures, same.ofTables_failures] at hfailures
    exact hfailures.trans (hfull.report_eq accepted nonempty never).2.symm.subperm

/-- With one table at a time, a scan that is told to stop leaves the tables
that were done. -/
theorem leavesPrefix_of_ends (accepted : scan.settings.validate = .ok ())
    (single : scan.settings.concurrency = 1) (never : scan.source.NeverCancels)
    (stopped : scan'.StopsAfter scan n) (h : scan'.Ends tables outcome) :
    scan.LeavesPrefix tables (scan.doneBefore n 0 0 tables) outcome := by
  have hdone : scan'.doneBefore n 0 0 tables = scan.doneBefore n 0 0 tables :=
    stopped.toSameAs.doneBefore_eq 0 0
  have houtcome : outcome = scan'.finish 0 ⟨{ progress := .start tables.length }, [], 0⟩ tables :=
    eq_inOrder_of_ends (stopped.settings ▸ single) h
  -- what is left, in terms of the plain loop of a scan that goes on
  have hreport : ∀ whole : Scan, whole.GoesOn scan → ∀ length,
      outcome.report.withoutEstimates
        = (whole.finish 0 ⟨{ progress := .start length }, [], 0⟩
            (tables.take (scan.doneBefore n 0 0 tables))).report.withoutEstimates := by
    intro whole goesOn length
    have same : whole.SameAs scan' :=
      ⟨goesOn.source.trans stopped.source.symm, goesOn.settings.trans stopped.settings.symm⟩
    have agrees : Course.Agrees ⟨{ progress := .start tables.length }, [], 0⟩
        ⟨{ progress := .start length }, [], 0⟩ := ⟨rfl, rfl, rfl⟩
    rw [houtcome, ← hdone]
    exact report_finish same stopped.interrupt goesOn.interrupt_eq_true agrees 0 tables
  refine ⟨doneBefore_le_length 0 0, ?_, fun hzero => ?_, fun full hfull => ?_⟩
  · rw [houtcome, canceled_finish (stopped.source ▸ never) stopped.interrupt, hdone]
    simp
  · have hnothing := hreport { scan with interrupt := .never } ⟨⟨rfl, rfl⟩, rfl⟩ 0
    rw [hzero, List.take_zero, finish_nil, Collected.conclude, List.mergeSort_nil] at hnothing
    exact Report.eq_empty_of_withoutEstimates hnothing
  · obtain ⟨whole, goesOn, hreturns⟩ := hfull
    by_cases hnil : tables.take (scan.doneBefore n 0 0 tables) = []
    · rw [hnil] at hreturns
      cases (returns_nil_iff (goesOn.settings ▸ accepted)).mp hreturns
    · obtain ⟨full', hends, heq⟩ := (returns_iff (goesOn.settings ▸ accepted) hnil).mp hreturns
      obtain rfl := Except.ok.inj heq
      rw [eq_inOrder_of_ends (goesOn.settings ▸ single) hends]
      exact hreport whole goesOn _

/-- **Cancellation yields no partial table.** With settings that are accepted
and a source that never cancels by itself, a scan of at least one table that
is told to stop after so many questions always ends, and whatever the order
of the turns it leaves whole tables only. It ends completed exactly if every
question that it asked was answered with *go on*. With one table at a time
it leaves the first tables of the request, and the more of them the later it
is told to stop. A request for no table is refused. -/
theorem returns_of_stopped (scan : Scan) (tables : List String)
    (accepted : scan.settings.validate = .ok ()) (nonempty : tables ≠ [])
    (never : scan.source.NeverCancels) :
    (∀ request, request ≠ [] → ∃ full, scan.Completes request full)
      ∧ (∀ n (stopped : Scan), stopped.StopsAfter scan n → stopped.AlwaysEnds tables
        ∧ (∃ outcome, stopped.Returns tables (.ok outcome))
        ∧ (∀ result, stopped.Returns tables result →
            ∃ outcome, result = .ok outcome ∧ scan.LeavesWhole tables outcome)
        ∧ ∀ s outcome, stopped.Reaches tables s → s.outcome? = some outcome →
            (outcome.canceled = false ↔ ∀ q < s.asked, stopped.interrupt q = true))
      ∧ (scan.settings.concurrency = 1 → ∃ done : Nat → Nat, Monotone done
        ∧ ∀ n (stopped : Scan), stopped.StopsAfter scan n → ∀ outcome,
            stopped.Returns tables (.ok outcome) → scan.LeavesPrefix tables (done n) outcome)
      ∧ ∀ n (stopped : Scan), stopped.StopsAfter scan n → ∀ result,
          stopped.Returns [] result → result = .error (.configuration "no tables to scan") := by
  refine ⟨fun _ h => exists_completes accepted h, fun n stopped stops => ?_, fun single =>
    ⟨fun n => scan.doneBefore n 0 0 tables, doneBefore_mono 0 0,
      fun n stopped stops outcome h => ?_⟩, fun n stopped stops result h => ?_⟩
  · have haccepted : stopped.settings.validate = .ok () := stops.settings ▸ accepted
    have hnever : stopped.source.NeverCancels := stops.source ▸ never
    obtain ⟨outcome, hends⟩ : ∃ outcome, stopped.Ends tables outcome := exists_ends haccepted
    refine ⟨alwaysEnds haccepted,
      ⟨outcome, (returns_iff haccepted nonempty).mpr ⟨outcome, hends, rfl⟩⟩,
      fun result h => ?_, fun s outcome reaches ended => ?_⟩
    · obtain ⟨outcome, hends, rfl⟩ := (returns_iff haccepted nonempty).mp h
      exact ⟨outcome, rfl,
        leavesWhole_of_ends accepted nonempty never stops.toSameAs hends⟩
    · rw [← Bool.not_eq_true, ScanState.canceled_iff_of_reaches hnever reaches ended]
      simp
  · obtain ⟨outcome', hends, heq⟩ := (returns_iff (stops.settings ▸ accepted) nonempty).mp h
    obtain rfl := Except.ok.inj heq
    exact leavesPrefix_of_ends accepted single never stops hends
  · exact (returns_nil_iff (stops.settings ▸ accepted)).mp h

/-- A table, one that cannot be read, one that breaks down, and the first
again are looked at one after the other, until the scan is told to stop. -/
theorem returns_of_stopped_four_tables :
    let scan : Scan := { source := threeTables, settings := { concurrency := 1 } }
    let tables := ["kept", "lost", "broken", "kept"]
    scan.settings.validate = .ok () ∧ tables ≠ [] ∧ scan.source.NeverCancels
      ∧ ∃ done : Nat → Nat, Monotone done
        ∧ ∀ n, ∃ outcome, { scan with interrupt := .after n }.Returns tables (.ok outcome)
          ∧ scan.LeavesWhole tables outcome ∧ scan.LeavesPrefix tables (done n) outcome := by
  intro scan tables
  have accepted : scan.settings.validate = .ok () := rfl
  have nonempty : tables ≠ [] := List.cons_ne_nil _ _
  obtain ⟨-, hstopped, hsingle, -⟩ :=
    returns_of_stopped scan tables accepted nonempty neverCancels_threeTables
  obtain ⟨done, hmono, hprefix⟩ := hsingle rfl
  refine ⟨accepted, nonempty, neverCancels_threeTables, done, hmono, fun n => ?_⟩
  have stops : StopsAfter { scan with interrupt := .after n } scan n := ⟨⟨rfl, rfl⟩, rfl⟩
  obtain ⟨-, ⟨outcome, h⟩, hwhole, -⟩ := hstopped n _ stops
  obtain ⟨outcome', heq, hleaves⟩ := hwhole _ h
  obtain rfl := Except.ok.inj heq
  exact ⟨outcome, h, hleaves, hprefix n _ stops _ h⟩

/-- **A request for no table is refused**, so it is neither completed nor
canceled, although no question was answered with *no*. -/
theorem not_returns_ok_of_nil :
    let scan : Scan :=
      { source := threeTables, settings := { concurrency := 1 }, interrupt := .after 5 }
    scan.settings.validate = .ok () ∧ scan.source.NeverCancels
      ∧ scan.Returns [] (.error (.configuration "no tables to scan"))
      ∧ ¬ ∃ outcome, scan.Returns [] (.ok outcome) := by
  intro scan
  have accepted : scan.settings.validate = .ok () := rfl
  refine ⟨accepted, neverCancels_threeTables, (returns_nil_iff accepted).mpr rfl, ?_⟩
  rintro ⟨outcome, h⟩
  cases (returns_nil_iff accepted).mp h

end Scan

end TableProfile
