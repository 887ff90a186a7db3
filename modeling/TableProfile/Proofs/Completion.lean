import TableProfile.Proofs.Outcomes
import TableProfile.Proofs.Termination

/-!
# A scan is the sum of its tables

Looking at many tables at once comes to the same as looking at each of them
by itself. Whatever the order of the turns, a scan that is never told to
stop reports, in the order of the request, what the scans of the single
tables report, and it lists their failures, in some order
(`comesTo_of_goesOn`). No table is lost or reported twice, and none of them
is touched by what becomes of another.

It takes a scan that has its permits. The settings are accepted with any
number of workers but zero, and with more of them than there can be permits
a scan breaks down before it has looked at anything
(`not_comesTo_value_of_too_many`).

Both sides draw for themselves, so the estimates are left out of the
comparison.
-/

namespace TableProfile

namespace Ending

/-- Endings that agree without estimates have one report without
estimates. -/
theorem report?_withoutEstimates (e : Ending) :
    e.withoutEstimates.report? = e.report?.map Report.Table.withoutEstimates := by
  cases e with
  | result r =>
    cases r with
    | ok report? => rfl
    | error e => rfl
  | breakdown => rfl

/-- A failure has nothing to do with estimates. -/
theorem failure?_withoutEstimates (e : Ending) (table : String) :
    e.withoutEstimates.failure? table = e.failure? table := by
  cases e with
  | result r =>
    cases r with
    | ok report? => rfl
    | error e => rfl
  | breakdown => rfl

end Ending

namespace Scan

/-- **The ending of a table without estimates.** It depends on the source and
the settings only. -/
def plainEnding (scan : Scan) (table : String) : Ending :=
  (scan.ending 0 table).withoutEstimates

/-- The reports that tables are good for, without estimates. -/
def plainReports (scan : Scan) (tables : List String) : List Report.Table :=
  tables.flatMap fun table => (scan.plainEnding table).report?.toList

/-- The failures that tables are good for. -/
def plainFailures (scan : Scan) (tables : List String) : List Report.Failure :=
  tables.flatMap fun table => ((scan.plainEnding table).failure? table).toList

/-- **Two scans of one source with the same settings.** They may draw
differently, and be told different things. -/
structure SameAs (scan' scan : Scan) : Prop where
  /-- The sources are the same. -/
  source : scan'.source = scan.source
  /-- The settings are the same. -/
  settings : scan'.settings = scan.settings

variable {scan scan' : Scan} {tables : List String} {outcome : Outcome}

/-- **Neither the seeds nor the position have a say in how a table ends**, up
to estimates. -/
theorem SameAs.withoutEstimates_ending (same : scan'.SameAs scan) (position : Nat)
    (table : String) :
    (scan'.ending position table).withoutEstimates = scan.plainEnding table := by
  unfold plainEnding ending activity
  rw [same.source, same.settings, ← Activity.uninterrupted_withoutEstimates,
    ← Activity.uninterrupted_withoutEstimates]
  exact congrArg Activity.uninterrupted
    (Activity.withoutEstimates_ofTable table scan.settings scan.source _ _)

theorem SameAs.map_ofTables_reports (same : scan'.SameAs scan) (position : Nat)
    (tables : List String) :
    (Account.reports.ofTables scan' position tables).map (·.2.withoutEstimates)
      = scan.plainReports tables := by
  induction tables generalizing position with
  | nil => rfl
  | cons table rest ih =>
    rw [Account.ofTables_cons, List.map_append, ih, plainReports, plainReports,
      List.flatMap_cons, ← same.withoutEstimates_ending position, Ending.report?_withoutEstimates]
    refine congrArg (· ++ _) ?_
    show List.map _ (Option.toList (Option.map _ (scan'.ending position table).report?)) = _
    cases (scan'.ending position table).report? with
    | none => rfl
    | some report => rfl

theorem SameAs.ofTables_failures (same : scan'.SameAs scan) (position : Nat)
    (tables : List String) :
    Account.failures.ofTables scan' position tables = scan.plainFailures tables := by
  induction tables generalizing position with
  | nil => rfl
  | cons table rest ih =>
    rw [Account.ofTables_cons, ih, plainFailures, plainFailures, List.flatMap_cons,
      ← same.withoutEstimates_ending position, Ending.failure?_withoutEstimates]
    rfl

/-- **What a scan returns that is never told to stop**, in terms of any scan
of the same source with the same settings. -/
theorem SameAs.outcome_of_returns (same : scan'.SameAs scan)
    (accepted : scan.settings.validate = .ok ()) (some : tables ≠ [])
    (never : scan.source.NeverCancels) (goesOn : ∀ q, scan'.interrupt q = true)
    {result : Except ProfileError Outcome} (h : scan'.Returns tables result) :
    ∃ outcome, result = .ok outcome ∧ outcome.canceled = false
      ∧ outcome.report.tables.map Report.Table.withoutEstimates = scan.plainReports tables
      ∧ outcome.report.failures.Perm (scan.plainFailures tables) := by
  obtain ⟨outcome, hends, rfl⟩ := (returns_iff (same.settings ▸ accepted) some).mp h
  obtain ⟨kept, -, htables, hkept⟩ := tables_of_ends hends
  have hfailures := (failures_of_ends hends).2 goesOn
  refine ⟨outcome, rfl, ?_, ?_, ?_⟩
  · -- to be canceled takes a question that was answered with *no*
    obtain ⟨s, reaches, hended⟩ := hends
    have hiff := ScanState.canceled_iff_of_reaches (same.source ▸ never) reaches hended
    refine Bool.eq_false_iff.mpr (fun hcanceled => ?_)
    obtain ⟨q, -, hno⟩ := hiff.mp hcanceled
    rw [goesOn q] at hno
    cases hno
  · rw [htables, hkept goesOn, List.map_map, reports]
    exact same.map_ofTables_reports 0 tables
  · rwa [failures, same.ofTables_failures] at hfailures

/-- **A scan that is never told to stop can complete**, and reports and fails
as its tables are good for. -/
theorem exists_completed (scan : Scan) (tables : List String)
    (accepted : scan.settings.validate = .ok ()) (some : tables ≠ [])
    (never : scan.source.NeverCancels) (goesOn : ∀ q, scan.interrupt q = true) :
    ∃ outcome, scan.Returns tables (.ok outcome) ∧ outcome.canceled = false
      ∧ outcome.report.tables.map Report.Table.withoutEstimates = scan.plainReports tables
      ∧ outcome.report.failures.Perm (scan.plainFailures tables) := by
  obtain ⟨outcome, hends⟩ : ∃ outcome, scan.Ends tables outcome := exists_ends accepted
  have h : scan.Returns tables (.ok outcome) :=
    (returns_iff accepted some).mpr ⟨outcome, hends, rfl⟩
  obtain ⟨_, heq, hcompleted⟩ := SameAs.outcome_of_returns ⟨rfl, rfl⟩ accepted some never goesOn h
  obtain rfl := Except.ok.inj heq
  exact ⟨outcome, h, hcompleted⟩

/-- **What a scan comes to that is never told to stop** and has its permits, in terms of
any scan of the same source with the same settings. -/
theorem SameAs.outcome_of_comesTo (same : scan'.SameAs scan)
    (accepted : scan.settings.validate = .ok ())
    (permitted : scan.settings.concurrency ≤ maxPermits) (some : tables ≠ [])
    (never : scan.source.NeverCancels) (goesOn : ∀ q, scan'.interrupt q = true)
    {answer : Answer Outcome} (h : scan'.ComesTo tables answer) :
    ∃ outcome, answer = .value outcome ∧ outcome.canceled = false
      ∧ outcome.report.tables.map Report.Table.withoutEstimates = scan.plainReports tables
      ∧ outcome.report.failures.Perm (scan.plainFailures tables) := by
  obtain ⟨result, hreturns, rfl⟩ := (comesTo_iff_returns (same.settings ▸ permitted)).mp h
  obtain ⟨outcome, rfl, hcompleted⟩ := same.outcome_of_returns accepted some never goesOn hreturns
  exact ⟨outcome, rfl, hcompleted⟩

/-- The single scans of some tables add up to what the tables are good
for. -/
theorem plainReports_eq_of_singles {singles : List Outcome}
    (accepted : scan.settings.validate = .ok ())
    (permitted : scan.settings.concurrency ≤ maxPermits) (never : scan.source.NeverCancels)
    (goesOn : ∀ q, scan.interrupt q = true)
    (h : List.Forall₂ (fun table single => ∃ seeds,
      { scan with seeds }.ComesTo [table] (.value single)) tables singles) :
    scan.plainReports tables
        = (singles.flatMap (·.report.tables)).map Report.Table.withoutEstimates
      ∧ (scan.plainFailures tables).Perm (singles.flatMap (·.report.failures)) := by
  induction h with
  | nil => exact ⟨rfl, .nil⟩
  | @cons table single rest singles hsingle _ ih =>
    obtain ⟨seeds, hsingle⟩ := hsingle
    have same : SameAs { scan with seeds } scan := ⟨rfl, rfl⟩
    obtain ⟨outcome, heq, -, hone, hfail⟩ :=
      same.outcome_of_comesTo accepted permitted (List.cons_ne_nil _ _) never goesOn hsingle
    obtain rfl := Answer.value.inj heq
    unfold plainReports plainFailures at *
    rw [List.flatMap_singleton] at hone hfail
    rw [List.flatMap_cons, List.flatMap_cons, List.flatMap_cons, List.flatMap_cons,
      List.map_append, ← hone, ih.1]
    exact ⟨rfl, hfail.symm.append ih.2⟩

/-- **A scan is the sum of its tables.** With settings that are accepted, no more
workers than there can be permits, a source that never cancels and nobody who
interrupts, a scan of at least one table always ends, and whatever the order of the
turns it ends completed. It then reports, in the order of the request, what the scans of
the single tables report, and fails for what they fail for. -/
theorem comesTo_of_goesOn (scan : Scan) (tables : List String)
    (accepted : scan.settings.validate = .ok ())
    (permitted : scan.settings.concurrency ≤ maxPermits) (some : tables ≠ [])
    (never : scan.source.NeverCancels) (goesOn : ∀ q, scan.interrupt q = true) :
    scan.AlwaysEnds tables
      ∧ (∃ outcome, scan.ComesTo tables (.value outcome))
      ∧ ∀ answer, scan.ComesTo tables answer → ∃ outcome, answer = .value outcome
        ∧ outcome.canceled = false
        ∧ ∀ singles : List Outcome,
          List.Forall₂ (fun table single => ∃ seeds,
            { scan with seeds }.ComesTo [table] (.value single)) tables singles →
          outcome.report.tables.map Report.Table.withoutEstimates
              = (singles.flatMap (·.report.tables)).map Report.Table.withoutEstimates
            ∧ outcome.report.failures.Perm (singles.flatMap (·.report.failures)) := by
  obtain ⟨outcome, hends⟩ : ∃ outcome, scan.Ends tables outcome := exists_ends accepted
  refine ⟨alwaysEnds accepted,
    ⟨outcome, .ends (requestFault?_eq_none accepted some) permitted hends⟩, fun answer h => ?_⟩
  obtain ⟨outcome, rfl, hcanceled, htables, hfailures⟩ :=
    SameAs.outcome_of_comesTo ⟨rfl, rfl⟩ accepted permitted some never goesOn h
  refine ⟨outcome, rfl, hcanceled, fun singles hsingles => ?_⟩
  have hsum := plainReports_eq_of_singles accepted permitted never goesOn hsingles
  exact ⟨htables.trans hsum.1, hfailures.trans hsum.2⟩

/-- A source of a table that can be read, of one that cannot, and of one that
breaks down. -/
def threeTables : Source where
  tables := .ok ["kept", "lost", "broken"]
  columns table :=
    if table = "kept" then .value [{ name := "n" }]
    else if table = "lost" then .failure (.io "gone") else .breakdown
  rowCount _ := .value none
  rows _ _ := .value [.value ["1"], .value ["2", "3"]]

theorem neverCancels_threeTables : threeTables.NeverCancels := by
  refine ⟨fun table e h => ?_, fun _ _ h => ?_, fun _ _ _ h => ?_, fun _ _ rows e h hmem => ?_⟩
  · by_cases hkept : table = "kept"
    · simp [threeTables, hkept] at h
    · by_cases hlost : table = "lost"
      · simp [threeTables, hlost] at h
        exact h ▸ rfl
      · simp [threeTables, hkept, hlost] at h
  · cases h
  · cases h
  · obtain rfl := Answer.value.inj h
    simp at hmem

/-- Two workers look at a table, at one that cannot be read, at one that
breaks down, and at the first again. -/
theorem comesTo_of_goesOn_two_workers :
    let scan : Scan := { source := threeTables, settings := { concurrency := 2 } }
    let tables := ["kept", "lost", "broken", "kept"]
    scan.settings.validate = .ok () ∧ scan.settings.concurrency ≤ maxPermits ∧ tables ≠ []
      ∧ scan.source.NeverCancels ∧ (∀ q, scan.interrupt q = true) ∧ scan.AlwaysEnds tables
      ∧ ∃ outcome, scan.ComesTo tables (.value outcome) ∧ outcome.canceled = false := by
  intro scan tables
  have accepted : scan.settings.validate = .ok () := rfl
  have permitted : scan.settings.concurrency ≤ maxPermits := by decide
  have some : tables ≠ [] := List.cons_ne_nil _ _
  have goesOn : ∀ q, scan.interrupt q = true := fun _ => rfl
  obtain ⟨hends, ⟨outcome, h⟩, hall⟩ :=
    comesTo_of_goesOn scan tables accepted permitted some neverCancels_threeTables goesOn
  obtain ⟨outcome', heq, hcanceled, -⟩ := hall _ h
  obtain rfl := Answer.value.inj heq
  exact ⟨accepted, permitted, some, neverCancels_threeTables, goesOn, hends, outcome, h,
    hcanceled⟩

/-- **One worker more than there can be permits** is accepted, and no scan completes. -/
theorem not_comesTo_value_of_too_many :
    let scan : Scan := { source := threeTables, settings := { concurrency := maxPermits + 1 } }
    scan.settings.validate = .ok () ∧ scan.source.NeverCancels
      ∧ (∀ q, scan.interrupt q = true) ∧ scan.ComesTo ["kept"] .breakdown
      ∧ ¬ ∃ outcome, scan.ComesTo ["kept"] (.value outcome) := by
  intro scan
  have accepted : scan.settings.validate = .ok () := rfl
  have met : scan.requestFault? ["kept"] = none :=
    requestFault?_eq_none accepted (List.cons_ne_nil _ _)
  refine ⟨accepted, neverCancels_threeTables, fun _ => rfl,
    .breaksDown met (Nat.lt_succ_self _), ?_⟩
  rintro ⟨outcome, h⟩
  cases h with
  | ends _ permitted _ => exact Nat.not_succ_le_self _ permitted

end Scan

end TableProfile
