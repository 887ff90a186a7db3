import Mathlib.Algebra.GroupWithZero.Nat
import TableProfile.Proofs.Reachable

/-!
# A scan always ends

Every turn leaves fewer turns to take. What is left is counted worker by
worker: the steps of its activity, and then to send its result, to have it
received, and to give its permit back. A table that has no worker yet counts
as the worker it is going to have, and a little more for the scheduler.

As nobody is stuck before the end, whoever's turn it is brings the end
nearer. No assumption about the order of the turns is needed, not even that
everybody gets one.
-/

namespace TableProfile

/-- **The turns that a worker can still take**, counting the one in which
its result is received. -/
def WorkerStage.turnsLeft : WorkerStage → Nat
  | profiling activity => activity.steps + 4
  | sending _ => 3
  | leaving => 1
  | gone => 0
  | broken => 0

/-- The turns that the scheduler can still take for itself. -/
def SchedulerStage.turnsLeft : SchedulerStage → Nat
  | starting _ => 2
  | holding .. => 1
  | collecting => 1
  | finished _ => 0

namespace ScanState

/-- The turns that the tables without a worker are good for. -/
def turnsWaiting (scan : Scan) (s : ScanState) : Nat :=
  (s.waiting.mapIdx fun i table =>
    (scan.activity (s.workers.length + i) table).steps + 6).sum

/-- **The turns that can still be taken**, at most. -/
def turnsLeft (scan : Scan) (s : ScanState) : Nat :=
  s.scheduler.turnsLeft + (s.workers.map (·.stage.turnsLeft)).sum + s.channel.length
    + s.turnsWaiting scan

variable {scan : Scan} {tables : List String} {s next : ScanState} {actor : Actor}

/-- **Every turn leaves fewer turns to take.** -/
theorem turnsLeft_lt_of_moves (h : Moves scan s actor next) :
    next.turnsLeft scan < s.turnsLeft scan := by
  unfold turnsLeft
  cases h with
  | calls here =>
    simp [here, turnsWaiting, waiting, WorkerStage.turnsLeft, Activity.steps]
  | @asks before after table goOn here =>
    -- the longer of the two ways to go on was counted
    have hsteps : (goOn (scan.interrupt s.asked)).steps
        ≤ max (goOn true).steps (goOn false).steps := by
      cases scan.interrupt s.asked with
      | true => exact le_max_left _ _
      | false => exact le_max_right _ _
    simp [here, turnsWaiting, waiting, WorkerStage.turnsLeft, Activity.steps]
    omega
  | ends here =>
    simp [here, turnsWaiting, waiting, WorkerStage.turnsLeft, Activity.steps]
  | breaks here =>
    simp [here, turnsWaiting, waiting, WorkerStage.turnsLeft, Activity.steps]
  | sends here room =>
    simp [here, turnsWaiting, waiting, WorkerStage.turnsLeft]
    omega
  | leaves here =>
    simp [here, turnsWaiting, waiting, WorkerStage.turnsLeft]
  | allStarted here => simp [here, turnsWaiting, waiting, SchedulerStage.turnsLeft]
  | takes here free => simp [here, turnsWaiting, waiting, SchedulerStage.turnsLeft]
  | starts here yes =>
    have hrest : ∀ waiting : List String,
        (waiting.mapIdx fun i table =>
          (scan.activity (s.workers.length + (i + 1)) table).steps + 6)
        = waiting.mapIdx fun i table =>
          (scan.activity (s.workers.length + 1 + i) table).steps + 6 := by
      intro waiting
      refine congrArg (List.mapIdx · waiting) ?_
      funext i table
      rw [Nat.add_right_comm, add_assoc]
    simp [here, turnsWaiting, waiting, SchedulerStage.turnsLeft, WorkerStage.turnsLeft, hrest]
    omega
  | stops here no =>
    simp [here, turnsWaiting, waiting, SchedulerStage.turnsLeft]
  | receives here sent =>
    simp [here, sent, turnsWaiting, waiting, SchedulerStage.turnsLeft]
  | concludes here empty idle =>
    simp [here, turnsWaiting, waiting, SchedulerStage.turnsLeft]

/-- The turns taken and the turns left are never more than there were. -/
theorem length_add_turnsLeft_le {turns : List Actor} (h : s.after? scan turns = some next) :
    turns.length + next.turnsLeft scan ≤ s.turnsLeft scan := by
  induction turns generalizing s with
  | nil =>
    obtain rfl := Option.some.inj h
    exact (Nat.zero_add _).le
  | cons actor rest ih =>
    rw [after?, List.foldlM_cons] at h
    obtain ⟨between, hturn, hrest⟩ := Option.bind_eq_some_iff.mp h
    have hless := turnsLeft_lt_of_moves (moves_of_turn? hturn)
    have hafter := ih hrest
    rw [List.length_cons]
    omega

end ScanState

/-- **Settings that are accepted.** -/
structure Settings.Accepted (settings : Settings) : Prop where
  /-- The number of rows is a number, or -1. -/
  sampleSize : -1 ≤ settings.sampleSize
  /-- There is room for a sample, if there is to be one. -/
  samplerSize : settings.numericStats = true → 0 < settings.samplerSize
  /-- Some values are reported. -/
  maxToReport : 0 < settings.maxToReport
  /-- What is reported can be held. -/
  maxInMemory : settings.maxToReport ≤ settings.maxInMemory
  /-- Some table is looked at. -/
  concurrency : 0 < settings.concurrency
  /-- The scan asks from time to time. -/
  pollInterval : 0 < settings.pollInterval

theorem Settings.validate_eq_ok_iff {settings : Settings} :
    settings.validate = .ok () ↔ settings.Accepted := by
  have hfault : settings.validate = .ok () ↔ settings.fault? = none := by
    unfold validate
    cases settings.fault? with
    | none => simp
    | some fault => simp
  -- one fault after the other is ruled out
  have hrule : ∀ (c : Prop) [Decidable c] (fault : SettingsFault) (rest : Option SettingsFault),
      (if c then some fault else rest) = none ↔ ¬ c ∧ rest = none := by
    intro c _ fault rest
    by_cases hc : c <;> simp [hc]
  rw [hfault, fault?, hrule, hrule, hrule, hrule, hrule, hrule, Bool.and_eq_true, beq_iff_eq]
  constructor
  · rintro ⟨h1, h2, h3, h4, h5, h6, -⟩
    exact ⟨not_lt.mp h1, fun hstats => Nat.pos_of_ne_zero (fun hzero => h2 ⟨hstats, hzero⟩),
      Nat.pos_of_ne_zero h3, not_lt.mp h4, Nat.pos_of_ne_zero h5, Nat.pos_of_ne_zero h6⟩
  · rintro ⟨h1, h2, h3, h4, h5, h6⟩
    exact ⟨not_lt.mpr h1, fun ⟨hstats, hzero⟩ => (h2 hstats).ne' hzero, h3.ne', not_lt.mpr h4,
      h5.ne', h6.ne', rfl⟩

namespace Scan

/-- **A scan always ends**: there is a bound on the length of its runs, and
as long as it has not ended somebody can move. -/
def AlwaysEnds (scan : Scan) (tables : List String) : Prop :=
  (∃ bound, ∀ turns s, (scan.start tables).after? scan turns = some s → turns.length ≤ bound)
    ∧ ∀ s, scan.Reaches tables s → s.outcome? = none →
        ∃ actor next, s.turn? scan actor = some next

variable {scan : Scan} {tables : List String}

/-- **With settings that are accepted, a scan always ends**, whatever it is
told. -/
theorem alwaysEnds (accepted : scan.settings.validate = .ok ()) : scan.AlwaysEnds tables := by
  refine ⟨⟨(scan.start tables).turnsLeft scan, fun turns s h => ?_⟩, fun s reaches running => ?_⟩
  · exact (Nat.le_add_right _ _).trans (ScanState.length_add_turnsLeft_le h)
  · exact ScanState.exists_turn_of_outcome?_eq_none reaches
      (Settings.validate_eq_ok_iff.mp accepted).concurrency running

/-- **Some end is reached.** -/
theorem exists_ends (accepted : scan.settings.validate = .ok ()) :
    ∃ outcome, scan.Ends tables outcome := by
  have hpermits := (Settings.validate_eq_ok_iff.mp accepted).concurrency
  -- on the turns that are left
  have hfrom : ∀ n s, scan.Reaches tables s → s.turnsLeft scan = n →
      ∃ outcome, scan.Ends tables outcome := by
    intro n
    induction n using Nat.strong_induction_on with
    | _ n ih =>
      intro s reaches hn
      cases hended : s.outcome? with
      | some outcome => exact ⟨outcome, s, reaches, hended⟩
      | none =>
        obtain ⟨actor, next, hturn⟩ :=
          ScanState.exists_turn_of_outcome?_eq_none reaches hpermits hended
        have hless := ScanState.turnsLeft_lt_of_moves (ScanState.moves_of_turn? hturn)
        exact ih _ (hn ▸ hless) next (.turn actor reaches hturn) rfl
  exact hfrom _ _ .start rfl

/-- A request that can be met: the settings are accepted, and some table is
asked for. -/
theorem requestFault?_eq_none (accepted : scan.settings.validate = .ok ())
    (some : tables ≠ []) : scan.requestFault? tables = none := by
  unfold requestFault?
  rw [accepted]
  exact if_neg (by rwa [List.isEmpty_iff])

/-- What a scan can return that can be met. -/
theorem returns_iff (accepted : scan.settings.validate = .ok ()) (some : tables ≠ [])
    {result : Except ProfileError Outcome} :
    scan.Returns tables result ↔ ∃ outcome, scan.Ends tables outcome ∧ result = .ok outcome := by
  unfold Returns
  rw [requestFault?_eq_none accepted some]

/-- **With its permits a scan comes to what it returns.** -/
theorem comesTo_iff_returns (permitted : scan.settings.concurrency ≤ maxPermits)
    {answer : Answer Outcome} :
    scan.ComesTo tables answer
      ↔ ∃ result, scan.Returns tables result ∧ answer = .ofExcept result := by
  unfold Returns
  cases hfault : scan.requestFault? tables with
  | some e =>
    constructor
    · intro h
      cases h with
      | refused fault =>
        obtain rfl := Option.some.inj (hfault.symm.trans fault)
        exact ⟨_, rfl, rfl⟩
      | breaksDown met => cases hfault.symm.trans met
      | ends met => cases hfault.symm.trans met
    · rintro ⟨result, rfl, rfl⟩
      exact .refused hfault
  | none =>
    constructor
    · intro h
      cases h with
      | refused fault => cases hfault.symm.trans fault
      | breaksDown met tooMany => exact absurd permitted (Nat.not_le.mpr tooMany)
      | ends met permitted h => exact ⟨_, ⟨_, h, rfl⟩, rfl⟩
    · rintro ⟨result, ⟨outcome, h, rfl⟩, rfl⟩
      exact .ends hfault permitted h

/-- To look at no table is refused. -/
theorem returns_nil_iff (accepted : scan.settings.validate = .ok ())
    {result : Except ProfileError Outcome} :
    scan.Returns [] result ↔ result = .error (.configuration "no tables to scan") := by
  unfold Returns requestFault?
  rw [accepted]
  rfl

end Scan

end TableProfile
