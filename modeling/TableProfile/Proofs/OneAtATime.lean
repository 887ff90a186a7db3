import TableProfile.Proofs.Reachable

/-!
# One table at a time

With a single permit there is no race. Whoever's turn it is, at most one
worker is at work, and what the scan comes to can be told from its state: let
that worker come to its end, receive what is on its way, and go on through
the tables that wait, one after the other. This forecast is the same in every
state (`forecast_of_moves`), so every interleaving ends with the outcome of
the plain loop (`eq_inOrder_of_ends`).

Unlike the accounts of what tables are worth, the forecast also says when
each question is asked, and so it holds whatever the scan is told.
-/

namespace TableProfile

/-- **What becomes of a scan** as its workers come to their ends. -/
structure Course where
  /-- What has been collected. -/
  collected : Collected
  /-- The tables that broke down. -/
  broken : List String
  /-- How many questions were asked. -/
  asked : Nat

namespace Course

/-- A table has come to its end, by when so many questions were asked. -/
def close (course : Course) (position : Nat) (table : String) : Ending × Nat → Course
  | (.result result, asked) =>
    { course with collected := course.collected.receive position table result, asked }
  | (.breakdown, asked) => { course with broken := course.broken ++ [table], asked }

/-- A worker at a position comes to its end. -/
def follow (interrupt : Interrupt) (course : Course) (position : Nat) (w : Worker) : Course :=
  match w.stage with
  | .profiling activity => course.close position w.table (activity.run interrupt course.asked)
  | .sending result => course.close position w.table (.result result, course.asked)
  | .leaving | .gone => course
  | .broken => course.close position w.table (.breakdown, course.asked)

/-- Workers come to their ends one after the other, the first of them at a
position. -/
def followAll (interrupt : Interrupt) (course : Course) (position : Nat) : List Worker → Course
  | [] => course
  | w :: rest => (course.follow interrupt position w).followAll interrupt (position + 1) rest

variable {interrupt : Interrupt} (course : Course) (position : Nat)

theorem followAll_append (before after : List Worker) :
    course.followAll interrupt position (before ++ after)
      = (course.followAll interrupt position before).followAll interrupt
          (position + before.length) after := by
  induction before generalizing course position with
  | nil => rfl
  | cons w rest ih =>
    rw [List.cons_append, followAll, followAll, ih, List.length_cons, Nat.add_right_comm,
      Nat.add_assoc]

/-- **Workers that are not at work** leave nothing to be done but to list
those that broke down. -/
theorem followAll_of_idle {workers : List Worker}
    (idle : ∀ w ∈ workers, ¬ w.stage.holdsPermit = true) :
    course.followAll interrupt position workers
      = { course with
          broken := course.broken ++ (workers.filter (·.stage.isBroken)).map (·.table) } := by
  induction workers generalizing course position with
  | nil => simp [followAll]
  | cons w rest ih =>
    have hrest : ∀ v ∈ rest, ¬ v.stage.holdsPermit = true :=
      fun v hv => idle v (List.mem_cons_of_mem _ hv)
    have hw := idle w List.mem_cons_self
    rw [followAll, ih _ _ hrest, List.filter_cons]
    unfold follow
    cases hstage : w.stage with
    | profiling activity => exact absurd (by rw [hstage]; rfl) hw
    | sending result => exact absurd (by rw [hstage]; rfl) hw
    | leaving => exact absurd (by rw [hstage]; rfl) hw
    | gone => rfl
    | broken => simp [close, WorkerStage.isBroken]

end Course

namespace Scan

variable (scan : Scan)

/-- The tables that wait are looked at one after the other. -/
def finish (position : Nat) (course : Course) (tables : List String) : Outcome :=
  scan.inOrder position course.asked course.collected course.broken tables

@[simp] theorem finish_nil (position : Nat) (course : Course) :
    scan.finish position course [] = course.collected.conclude course.broken := rfl

theorem finish_cons (position : Nat) (course : Course) (table : String)
    (rest : List String) :
    scan.finish position course (table :: rest)
      = if scan.interrupt course.asked then
          scan.finish (position + 1)
            (course.close position table
              ((scan.activity position table).run scan.interrupt (course.asked + 1))) rest
        else { course.collected with canceled := true }.conclude course.broken := by
  unfold finish inOrder
  split
  · generalize (scan.activity position table).run scan.interrupt (course.asked + 1) = ran
    obtain ⟨ending, asked⟩ := ran
    cases ending with
    | result result => cases rest <;> rfl
    | breakdown => cases rest <;> rfl
  · rfl

end Scan

namespace ScanState

/-- What will have been collected once everything that is on its way has
arrived. -/
def arrived (s : ScanState) : Collected :=
  s.channel.foldl (fun c m => c.receive m.position m.table m.result) s.collected

/-- **What the scan comes to** if its workers come to their ends in order and
the tables that wait are looked at afterwards. -/
def forecast (scan : Scan) (s : ScanState) : Outcome :=
  let course := Course.followAll scan.interrupt ⟨s.arrived, [], s.asked⟩ 0 s.workers
  match s.scheduler with
  | .starting waiting => scan.finish s.workers.length course waiting
  | .holding table waiting => scan.finish s.workers.length course (table :: waiting)
  | .collecting => scan.finish s.workers.length course []
  | .finished outcome => outcome

variable {scan : Scan} {tables : List String} {s next : ScanState} {actor : Actor}

/-- **At most one worker is at work** with a single permit. -/
theorem idle_of_single {before after : List Worker} {w : Worker}
    (single : s.permitsHeld ≤ 1) (here : s.workers = before ++ w :: after)
    (holds : w.stage.holdsPermit = true) :
    (∀ v ∈ before, ¬ v.stage.holdsPermit = true) ∧ ∀ v ∈ after, ¬ v.stage.holdsPermit = true := by
  have hcount : before.countP (·.stage.holdsPermit) + (after.countP (·.stage.holdsPermit) + 1)
      ≤ 1 := by
    have hle := (Nat.le_add_right _ _).trans single
    rwa [here, List.countP_append, List.countP_cons, if_pos holds] at hle
  exact ⟨List.countP_eq_zero.mp (by omega), List.countP_eq_zero.mp (by omega)⟩

/-- With a single permit, nobody is at work while the scheduler has it. -/
theorem idle_of_holding {table : String} {waiting : List String} (single : s.permitsHeld ≤ 1)
    (here : s.scheduler = .holding table waiting) :
    ∀ v ∈ s.workers, ¬ v.stage.holdsPermit = true := by
  unfold permitsHeld at single
  rw [here] at single
  exact List.countP_eq_zero.mp (Nat.le_zero.mp (Nat.le_of_add_le_add_right single))

/-- To be told to stop does not depend on what arrives. -/
theorem foldl_receive_canceled (channel : List Message) (c : Collected) :
    channel.foldl (fun c m => c.receive m.position m.table m.result) { c with canceled := true }
      = { channel.foldl (fun c m => c.receive m.position m.table m.result) c with
          canceled := true } := by
  induction channel generalizing c with
  | nil => rfl
  | cons m rest ih =>
    have hone : ({ c with canceled := true }).receive m.position m.table m.result
        = { c.receive m.position m.table m.result with canceled := true } := by
      cases m.result with
      | ok report? => cases report? <;> rfl
      | error e =>
        show (if e.isCancellation then _ else _ : Collected)
          = { (if e.isCancellation then _ else _ : Collected) with canceled := true }
        split <;> rfl
    rw [List.foldl_cons, List.foldl_cons, hone, ih]

/-- A worker that moves changes the forecast as little as it changes its own
course. -/
theorem forecast_congr {before after : List Worker} {w w' : Worker}
    (here : s.workers = before ++ w :: after) (now : next.workers = before ++ w' :: after)
    (scheduler : next.scheduler = s.scheduler)
    (same : Course.follow scan.interrupt
        (Course.followAll scan.interrupt ⟨next.arrived, [], next.asked⟩ 0 before) before.length w'
      = Course.follow scan.interrupt
        (Course.followAll scan.interrupt ⟨s.arrived, [], s.asked⟩ 0 before) before.length w) :
    next.forecast scan = s.forecast scan := by
  have hcourse : Course.followAll scan.interrupt ⟨next.arrived, [], next.asked⟩ 0 next.workers
      = Course.followAll scan.interrupt ⟨s.arrived, [], s.asked⟩ 0 s.workers := by
    rw [here, now, Course.followAll_append, Course.followAll_append, Course.followAll,
      Course.followAll, Nat.zero_add, same]
  have hlength : next.workers.length = s.workers.length := by
    rw [here, now, List.length_append, List.length_append]
    rfl
  unfold forecast
  rw [scheduler, hcourse, hlength]

/-- **No turn changes the forecast**, with a single permit. -/
theorem forecast_of_moves (single : s.permitsHeld ≤ 1) (h : Moves scan s actor next) :
    next.forecast scan = s.forecast scan := by
  cases h with
  | calls here => exact forecast_congr here rfl rfl rfl
  | @asks before after table goOn here =>
    -- nobody else is at work, so this is the question that the forecast asks next
    refine forecast_congr here rfl rfl ?_
    obtain ⟨hbefore, -⟩ := idle_of_single single here rfl
    rw [Course.followAll_of_idle _ _ hbefore, Course.followAll_of_idle _ _ hbefore]
    rfl
  | ends here => exact forecast_congr here rfl rfl rfl
  | breaks here => exact forecast_congr here rfl rfl rfl
  | @sends before after table result here room =>
    refine forecast_congr here rfl rfl ?_
    obtain ⟨hbefore, -⟩ := idle_of_single single here rfl
    rw [Course.followAll_of_idle _ _ hbefore, Course.followAll_of_idle _ _ hbefore]
    unfold arrived
    rw [List.foldl_append]
    rfl
  | leaves here => exact forecast_congr here rfl rfl rfl
  | allStarted here =>
    unfold forecast
    rw [here]
    rfl
  | takes here free =>
    unfold forecast
    rw [here]
    rfl
  | @starts table waiting here yes =>
    -- the new worker is the last one, and all before it are idle
    have hidle := idle_of_holding single here
    unfold forecast
    rw [here]
    show scan.finish (s.workers ++ [_]).length
        (Course.followAll scan.interrupt _ 0 (s.workers ++ [_])) waiting
      = scan.finish s.workers.length (Course.followAll scan.interrupt _ 0 s.workers)
        (table :: waiting)
    rw [Course.followAll_append, Course.followAll_of_idle _ _ hidle,
      Course.followAll_of_idle _ _ hidle, Scan.finish_cons, if_pos yes, List.length_append,
      Nat.zero_add]
    rfl
  | @stops table waiting here no =>
    have hidle := idle_of_holding single here
    unfold forecast
    rw [here]
    show scan.finish s.workers.length (Course.followAll scan.interrupt _ 0 s.workers) []
      = scan.finish s.workers.length (Course.followAll scan.interrupt _ 0 s.workers)
        (table :: waiting)
    rw [Course.followAll_of_idle _ _ hidle, Course.followAll_of_idle _ _ hidle,
      Scan.finish_cons, if_neg (Bool.eq_false_iff.mp no)]
    exact congrArg (Collected.conclude · _) (foldl_receive_canceled s.channel s.collected)
  | @receives message rest here sent =>
    unfold forecast arrived
    rw [here, sent]
    rfl
  | concludes here empty idle =>
    have hidle : ∀ w ∈ s.workers, ¬ w.stage.holdsPermit = true := fun w hw =>
      List.any_eq_false.mp idle w hw
    unfold forecast arrived
    rw [here, empty, Course.followAll_of_idle _ _ hidle]
    rfl

end ScanState

/-- **One table at a time, the turns make no difference**: every interleaving
has the outcome of the plain loop. -/
theorem Scan.eq_inOrder_of_ends {scan : Scan} {tables : List String} {outcome : Outcome}
    (single : scan.settings.concurrency = 1) (h : scan.Ends tables outcome) :
    outcome = scan.inOrder 0 0 { progress := .start tables.length } [] tables := by
  have hforecast : ∀ s, scan.Reaches tables s →
      s.forecast scan = (scan.start tables).forecast scan := by
    intro s reaches
    induction reaches with
    | start => rfl
    | turn actor before moved ih =>
      have hpermits := (ScanState.balanced_of_reaches before).permits
      have hsingle := (Nat.le_add_left _ _).trans (hpermits.trans single).le
      exact (ScanState.forecast_of_moves hsingle (ScanState.moves_of_turn? moved)).trans ih
  obtain ⟨s, reaches, ended⟩ := h
  have hfinished : s.forecast scan = outcome := by
    unfold ScanState.outcome? at ended
    unfold ScanState.forecast
    split at ended
    · rename_i hscheduler
      rw [hscheduler]
      exact Option.some.inj ended
    · cases ended
  exact hfinished.symm.trans (hforecast s reaches)

end TableProfile
