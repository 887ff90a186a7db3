import TableProfile.Proofs.Histories
import TableProfile.Proofs.ReportedColumns
import TableProfile.Proofs.Termination

/-!
# How soon a scan stops

A scan that is to stop is not interrupted: it hears of it when it asks. A worker asks
before it does anything else, and then whenever the number of the rows it has pulled is
a multiple of the interval. So wherever it has got to, it pulls at most as many rows as
the interval says before it asks again (`Activity.asksWithin_ofTable`), also when the
rows end or fail before that, and where there are fewer rows than it would take.

From the moment on at which every answer is *no*, that is all that a worker still pulls
(`Scan.History.count_pulls_le`), since it ends at its next question. A worker that was
not told to go on before that moment does not call the source at all, and neither does
one that was not started (`Scan.History.not_calls`).
-/

namespace TableProfile

namespace Activity

/-- **How many rows an activity pulls** before it asks next, or comes to its end. -/
def pulls : Activity → Nat
  | ended _ => 0
  | brokenDown => 0
  | asks _ => 0
  | calls call next => (if call = .nextRow then 1 else 0) + (next ()).pulls

/-- **An activity that asks often**: wherever it gets to, it pulls so many rows at most
before it asks next. -/
inductive AsksWithin (n : Nat) : Activity → Prop
  /-- It has ended. -/
  | ended (result : TableResult) : AsksWithin n (ended result)
  /-- It has broken down. -/
  | brokenDown : AsksWithin n brokenDown
  /-- It asks, and asks often whatever it is told. -/
  | asks {next : Bool → Activity} (goesOn : ∀ goOn, AsksWithin n (next goOn)) :
      AsksWithin n (asks next)
  /-- It calls the source, and does not pull too many rows from here on. -/
  | calls {call : SourceCall} {next : Unit → Activity} (few : (calls call next).pulls ≤ n)
      (goesOn : AsksWithin n (next ())) : AsksWithin n (calls call next)

namespace AsksWithin

variable {n : Nat} {a : Activity}

theorem pulls_le (h : a.AsksWithin n) : a.pulls ≤ n := by
  cases h with
  | calls few goesOn => exact few
  | _ => exact Nat.zero_le n

/-- A call that pulls no row is no reason to ask earlier. -/
theorem calls_of_ne {call : SourceCall} {next : Unit → Activity} (other : call ≠ .nextRow)
    (goesOn : (next ()).AsksWithin n) : (Activity.calls call next).AsksWithin n := by
  refine .calls ?_ goesOn
  rw [pulls, if_neg other, Nat.zero_add]
  exact goesOn.pulls_le

end AsksWithin

/-! ## The profile of a table -/

variable (source : Source) {settings : Settings} (seed : Nat → UInt64) (table : String)
  (positive : 0 < settings.pollInterval)

include positive

/-- **As many rows are pulled as are left to the next multiple of the interval**, or
fewer. -/
theorem pulls_throughRows_le (rowCount : Option Int) (t : TableState) (rows : Rows) :
    (throughRows table settings rowCount t rows).pulls
      ≤ settings.pollInterval - t.read % settings.pollInterval := by
  have hpositive : 1 ≤ settings.pollInterval - t.read % settings.pollInterval :=
    Nat.sub_pos_of_lt (Nat.mod_lt _ positive)
  induction rows generalizing t with
  | nil =>
    unfold throughRows
    split
    · exact Nat.zero_le _
    · exact hpositive
  | cons answer rest ih =>
    unfold throughRows
    split
    · exact Nat.zero_le _
    · cases answer with
      | breakdown => exact hpositive
      | failure e => exact hpositive
      | value row =>
        show 1 + (if t.count.read % settings.pollInterval = 0 then _ else _ : Activity).pulls ≤ _
        split
        · exact hpositive
        · rename_i hbetween
          -- the number of rows pulled is one nearer to the next multiple, and not there yet
          have hnext : t.read % settings.pollInterval + 1 < settings.pollInterval := by
            refine Nat.lt_of_le_of_ne (Nat.mod_lt _ positive) fun hthere => hbetween ?_
            show (t.read + 1) % settings.pollInterval = 0
            rw [← Nat.mod_add_mod, hthere, Nat.mod_self]
          have hmod : (t.read + 1) % settings.pollInterval
              = t.read % settings.pollInterval + 1 := by
            rw [← Nat.mod_add_mod, Nat.mod_eq_of_lt hnext]
          have hrest := ih (t.count.look row) (Nat.sub_pos_of_lt (Nat.mod_lt _ positive))
          rw [TableState.read_count_look, hmod] at hrest
          omega

/-- The rows of a table are gone through with a question at each multiple. -/
theorem asksWithin_throughRows (rowCount : Option Int) (t : TableState) (rows : Rows) :
    (throughRows table settings rowCount t rows).AsksWithin settings.pollInterval := by
  induction rows generalizing t with
  | nil =>
    unfold throughRows
    split
    · exact .ended _
    · exact .calls positive (.ended _)
  | cons answer rest ih =>
    have hpulls := (pulls_throughRows_le table positive rowCount t (answer :: rest)).trans
      (Nat.sub_le _ _)
    unfold throughRows at hpulls ⊢
    split
    · exact .ended _
    · rename_i hgoesOn
      rw [if_neg hgoesOn] at hpulls
      refine .calls hpulls ?_
      cases answer with
      | breakdown => exact .brokenDown
      | failure e => exact .ended _
      | value row =>
        show AsksWithin _ (if t.count.read % settings.pollInterval = 0 then _ else _)
        split
        · refine .asks fun goOn => ?_
          cases goOn with
          | true => exact ih _
          | false => exact .ended _
        · exact ih _

theorem asksWithin_openRows (columns : List ColumnHeader) (rowCount : Option Int) :
    (openRows source settings seed table columns rowCount).AsksWithin settings.pollInterval := by
  unfold openRows
  split
  · exact .ended _
  · refine .calls_of_ne (by rintro ⟨⟩) ?_
    split
    · exact .brokenDown
    · exact .ended _
    · exact asksWithin_throughRows table positive rowCount _ _

/-- **The profile of a table asks as often as the interval says.** -/
theorem asksWithin_ofTable :
    (ofTable source settings seed table).AsksWithin settings.pollInterval := by
  refine .asks fun goOn => ?_
  cases goOn with
  | false => exact .ended _
  | true =>
    refine .calls_of_ne (by rintro ⟨⟩) ?_
    split
    · exact .brokenDown
    · exact .ended _
    · split
      · exact .ended _
      · refine .calls_of_ne (by rintro ⟨⟩) ?_
        split
        · exact .brokenDown
        · split
          · exact .ended _
          · exact asksWithin_openRows source seed table positive _ none
        · exact asksWithin_openRows source seed table positive _ _

end Activity

/-! ## A worker that is told to stop -/

namespace WorkerStage

/-- Whether a worker heeds what it is told. -/
def Heeds (stage : WorkerStage) : Prop :=
  ∀ activity, stage = profiling activity → activity.Heeds

/-- Whether a worker pulls so many rows at most before it asks next. -/
def AsksWithin (n : Nat) (stage : WorkerStage) : Prop :=
  ∀ activity, stage = profiling activity → activity.AsksWithin n

/-- Whether a worker does something else before it calls the source. -/
def CallsLater (stage : WorkerStage) : Prop :=
  ∀ call next, stage ≠ profiling (.calls call next)

/-- How many rows a worker pulls before it asks next. -/
def pulls : WorkerStage → Nat
  | profiling activity => activity.pulls
  | _ => 0

theorem AsksWithin.pulls_le {n : Nat} {stage : WorkerStage} (h : stage.AsksWithin n) :
    stage.pulls ≤ n := by
  cases stage with
  | profiling activity => exact (h activity rfl).pulls_le
  | _ => exact Nat.zero_le n

namespace Step

variable {n : Nat} {stage next : WorkerStage} {deed : Option Deed}

theorem heeds (h : stage.Step deed next) (heeds : stage.Heeds) : next.Heeds := by
  intro activity hactivity
  cases h with
  | calls =>
    cases hactivity
    cases heeds _ rfl with
    | calls goesOn => exact goesOn
  | asks goOn =>
    cases hactivity
    cases heeds _ rfl with
    | asks stops goesOn =>
      cases goOn with
      | true => exact goesOn
      | false =>
        rw [stops]
        exact .ended _
  | _ => cases hactivity

theorem asksWithin (h : stage.Step deed next) (often : stage.AsksWithin n) :
    next.AsksWithin n := by
  intro activity hactivity
  cases h with
  | calls =>
    cases hactivity
    cases often _ rfl with
    | calls few goesOn => exact goesOn
  | asks goOn =>
    cases hactivity
    cases often _ rfl with
    | asks goesOn => exact goesOn goOn
  | _ => cases hactivity

/-- **A worker that is not told to go on** pulls what it would pull before it asks next,
and no more. -/
theorem count_pulls (h : stage.Step deed next) (heeds : stage.Heeds)
    (no : deed ≠ some (.asks true)) :
    deed.toList.count (.calls .nextRow) + next.pulls ≤ stage.pulls := by
  cases h with
  | @calls call next => cases call <;> exact le_rfl
  | asks goOn =>
    cases goOn with
    | true => exact absurd rfl no
    | false =>
      cases heeds _ rfl with
      | asks stops goesOn =>
        rw [stops]
        exact le_rfl
  | _ => exact le_rfl

/-- **A worker that was not told to go on** does not get to call the source. -/
theorem callsLater (h : stage.Step deed next) (heeds : stage.Heeds) (later : stage.CallsLater)
    (no : deed ≠ some (.asks true)) :
    next.CallsLater ∧ ∀ call, deed ≠ some (.calls call) := by
  cases h with
  | calls => exact absurd rfl (later _ _)
  | asks goOn =>
    cases goOn with
    | true => exact absurd rfl no
    | false =>
      cases heeds _ rfl with
      | asks stops goesOn =>
        rw [stops]
        exact ⟨by rintro _ _ ⟨⟩, by rintro _ ⟨⟩⟩
  | _ => exact ⟨by rintro _ _ ⟨⟩, by rintro _ ⟨⟩⟩

end Step

namespace Lives

variable {n : Nat} {first stage : WorkerStage} {deeds : List Deed}

theorem heeds (h : first.Lives deeds stage) (heeds : first.Heeds) : stage.Heeds := by
  induction h with
  | begins => exact heeds
  | step _ step ih => exact step.heeds ih

theorem asksWithin (h : first.Lives deeds stage) (often : first.AsksWithin n) :
    stage.AsksWithin n := by
  induction h with
  | begins => exact often
  | step _ step ih => exact step.asksWithin ih

/-- **A life without an answer to go on** pulls no more rows than the first stage does
before it asks next. -/
theorem count_pulls (h : first.Lives deeds stage) (heeds : first.Heeds)
    (no : .asks true ∉ deeds) :
    deeds.count (.calls .nextRow) + stage.pulls ≤ first.pulls := by
  induction h with
  | begins => exact (Nat.zero_add _).le
  | step before step ih =>
    rw [List.mem_append, not_or, Option.mem_toList] at no
    have hstep := step.count_pulls (before.heeds heeds) no.2
    have hbefore := ih no.1
    rw [List.count_append]
    omega

/-- **A life without an answer to go on**, of a worker that asks first, calls nothing. -/
theorem callsLater (h : first.Lives deeds stage) (heeds : first.Heeds)
    (later : first.CallsLater) (no : .asks true ∉ deeds) :
    stage.CallsLater ∧ ∀ call, .calls call ∉ deeds := by
  induction h with
  | begins => exact ⟨later, fun _ => List.not_mem_nil⟩
  | step before step ih =>
    rw [List.mem_append, not_or, Option.mem_toList] at no
    obtain ⟨hlater, hbefore⟩ := ih no.1
    obtain ⟨hnext, hstep⟩ := step.callsLater (before.heeds heeds) hlater no.2
    refine ⟨hnext, fun call hmem => ?_⟩
    rcases List.mem_append.mp hmem with hmem | hmem
    · exact hbefore call hmem
    · exact hstep call (Option.mem_toList.mp hmem)

end Lives

end WorkerStage

/-! ## Whole scans -/

namespace Scan

variable {scan : Scan} {tables : List String} {s next : ScanState}
  {earlier later history : List (Actor × Deed)}

/-- What a worker begins with. -/
theorem heeds_activity (position : Nat) (table : String) :
    (WorkerStage.profiling (scan.activity position table)).Heeds := by
  rintro _ ⟨⟩
  exact Activity.heeds_ofTable _ _ _ _

theorem asksWithin_activity (accepted : scan.settings.validate = .ok ()) (position : Nat)
    (table : String) :
    (WorkerStage.profiling (scan.activity position table)).AsksWithin
      scan.settings.pollInterval := by
  rintro _ ⟨⟩
  exact Activity.asksWithin_ofTable _ _ _
    (Settings.validate_eq_ok_iff.mp accepted).pollInterval

namespace History

/-- **The life of a worker that was started** from its beginning. -/
theorem lives_of_start (h : scan.History (scan.start tables) history s) {position : Nat}
    {w : Worker} (hw : s.workers[position]? = some w) :
    (WorkerStage.profiling (scan.activity position w.table)).Lives (deedsOf position history)
      w.stage := by
  rcases h.lives position with ⟨hnone, -, -⟩ | ⟨table, first, stage, hsome, hfirst, hlives⟩
  · cases hnone.symm.trans hw
  · obtain rfl := Option.some.inj (hsome.symm.trans hw)
    rcases hfirst with ⟨⟨⟩⟩ | ⟨-, rfl⟩
    exact hlives

/-- **A worker that was not told to go on** has not called the source. -/
theorem not_calls (h : scan.History (scan.start tables) history s) {position : Nat}
    (no : (.worker position, .asks true) ∉ history) (call : SourceCall) :
    (.worker position, .calls call) ∉ history := by
  rw [← mem_deedsOf] at no ⊢
  rcases h.lives position with ⟨-, -, hnone⟩ | ⟨table, first, stage, -, hfirst, hlives⟩
  · rw [hnone]
    exact List.not_mem_nil
  · rcases hfirst with ⟨⟨⟩⟩ | ⟨-, rfl⟩
    exact (hlives.callsLater (heeds_activity position table) (by rintro _ _ ⟨⟩) no).2 call

/-- **When every answer is *no***, nobody is told to go on. -/
theorem not_asks_true (h : scan.History s later next)
    (stops : ∀ q, s.asked ≤ q → scan.interrupt q = false) (actor : Actor) :
    (actor, .asks true) ∉ later := by
  intro hmem
  obtain ⟨q, hq, -, hyes⟩ := (h.exists_asks_iff true).mp ⟨actor, hmem⟩
  rw [stops q hq] at hyes
  cases hyes

/-- **From then on a worker pulls as many rows as the interval says**, or fewer. -/
theorem count_pulls_le (accepted : scan.settings.validate = .ok ())
    (h : scan.History (scan.start tables) earlier s) (h' : scan.History s later next)
    (stops : ∀ q, s.asked ≤ q → scan.interrupt q = false) (position : Nat) :
    later.count (.worker position, .calls .nextRow) ≤ scan.settings.pollInterval := by
  have hno := h'.not_asks_true stops (.worker position)
  rw [← mem_deedsOf] at hno
  rw [← count_deedsOf]
  rcases h'.lives position with ⟨-, -, hnone⟩ | ⟨table, first, stage, -, hfirst, hlives⟩
  · rw [hnone]
    exact Nat.zero_le _
  · -- whether it was started before or not, it heeds what it is told, and asks often
    have hfirst : first.Heeds ∧ first.AsksWithin scan.settings.pollInterval := by
      rcases hfirst with hstarted | ⟨-, rfl⟩
      · have hbefore := h.lives_of_start hstarted
        exact ⟨hbefore.heeds (heeds_activity position table),
          hbefore.asksWithin (asksWithin_activity accepted position table)⟩
      · exact ⟨heeds_activity position table, asksWithin_activity accepted position table⟩
    exact (Nat.le_add_right _ _).trans
      ((hlives.count_pulls hfirst.1 hno).trans hfirst.2.pulls_le)

end History

end Scan

end TableProfile
