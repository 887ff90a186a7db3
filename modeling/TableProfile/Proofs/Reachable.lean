import TableProfile.Proofs.Endings
import TableProfile.Proofs.Turns

/-!
# What every state of a scan has in common

Whoever's turn it was, a scan keeps its books: no permit is lost or made,
the workers and the tables that wait are the tables that were asked for, and
no more results are on their way than were sent. These are the reasons why a
scan never gets stuck (`exists_turn_of_outcome?_eq_none`). A worker waits for
room in the channel only if more results were sent than there are workers,
and the scheduler waits for a permit only as long as a worker that can move
has it.
-/

namespace TableProfile

/-- Whether a worker has sent its result. -/
def WorkerStage.hasSent : WorkerStage → Bool
  | leaving | gone => true
  | profiling _ | sending _ | broken => false

namespace ScanState

/-- The tables that have no worker yet. -/
def waiting (s : ScanState) : List String :=
  match s.scheduler with
  | .starting waiting => waiting
  | .holding table waiting => table :: waiting
  | .collecting | .finished _ => []

variable {scan : Scan} {tables : List String} {s next : ScanState} {actor : Actor}

/-! ## The books -/

/-- No table starts or stops to wait in the turn of a worker. -/
theorem waiting_of_workerMoves {position : Nat} (h : Moves scan s (.worker position) next) :
    next.waiting = s.waiting := by
  cases h <;> rfl

/-- **Permits are neither lost nor made.** -/
theorem permits_of_moves (h : Moves scan s actor next) :
    next.freePermits + next.permitsHeld = s.freePermits + s.permitsHeld := by
  unfold permitsHeld
  cases h with
  | calls here => simp [here, WorkerStage.holdsPermit]
  | asks here => simp [here, WorkerStage.holdsPermit]
  | ends here => simp [here, WorkerStage.holdsPermit]
  | breaks here =>
    simp [here, WorkerStage.holdsPermit]
    omega
  | sends here room => simp [here, WorkerStage.holdsPermit]
  | leaves here =>
    simp [here, WorkerStage.holdsPermit]
    omega
  | allStarted here => simp [here]
  | takes here free =>
    simp [here]
    omega
  | starts here yes => simp [here, WorkerStage.holdsPermit]
  | stops here no =>
    simp [here]
    omega
  | receives here sent => simp [here]
  | concludes here empty idle => simp [here]

/-- **No more results are on their way than were sent.** -/
theorem sent_of_moves (h : Moves scan s actor next)
    (sent : s.channel.length ≤ s.workers.countP (·.stage.hasSent)) :
    next.channel.length ≤ next.workers.countP (·.stage.hasSent) := by
  cases h with
  | calls here => simpa [here, WorkerStage.hasSent] using sent
  | asks here => simpa [here, WorkerStage.hasSent] using sent
  | ends here => simpa [here, WorkerStage.hasSent] using sent
  | breaks here => simpa [here, WorkerStage.hasSent] using sent
  | sends here room =>
    simp [here, WorkerStage.hasSent] at sent ⊢
    omega
  | leaves here => simpa [here, WorkerStage.hasSent] using sent
  | allStarted here => exact sent
  | takes here free => exact sent
  | starts here yes => simpa [WorkerStage.hasSent] using sent
  | stops here no => exact sent
  | receives here hchannel =>
    rw [hchannel] at sent
    exact (Nat.le_succ _).trans sent
  | concludes here empty idle => exact sent

/-- **The tables that have a worker and those that wait** stay the same, and
only a scan that is told to stop forgets those that wait. -/
theorem requested_of_moves (h : Moves scan s actor next) :
    next.workers.map (·.table) ++ next.waiting = s.workers.map (·.table) ++ s.waiting
      ∨ (next.asked = s.asked + 1 ∧ scan.interrupt s.asked = false)
        ∧ next.workers.map (·.table) ++ next.waiting
          <+: s.workers.map (·.table) ++ s.waiting := by
  cases h with
  | calls here => exact .inl (by simp [waiting, here])
  | asks here => exact .inl (by simp [waiting, here])
  | ends here => exact .inl (by simp [waiting, here])
  | breaks here => exact .inl (by simp [waiting, here])
  | sends here room => exact .inl (by simp [waiting, here])
  | leaves here => exact .inl (by simp [waiting, here])
  | allStarted here => exact .inl (by simp [waiting, here])
  | takes here free => exact .inl (by simp [waiting, here])
  | starts here yes => exact .inl (by simp [waiting, here])
  | stops here no =>
    refine .inr ⟨⟨rfl, no⟩, ?_⟩
    rw [waiting, List.append_nil]
    exact List.prefix_append _ _
  | receives here hchannel => exact .inl (by simp [waiting, here])
  | concludes here empty idle => exact .inl (by simp [waiting, here])

/-- A turn asks one question at most. -/
theorem asked_of_moves (h : Moves scan s actor next) :
    next.asked = s.asked ∨ next.asked = s.asked + 1 := by
  cases h with
  | asks here => exact .inr rfl
  | starts here yes => exact .inr rfl
  | stops here no => exact .inr rfl
  | _ => exact .inl rfl

/-- A worker stays at its table, and at most one worker is started. -/
theorem workers_of_moves (h : Moves scan s actor next) :
    next.workers.map (·.table) = s.workers.map (·.table)
      ∨ ∃ w, next.workers = s.workers ++ [w] := by
  cases h with
  | calls here => exact .inl (by simp [here])
  | asks here => exact .inl (by simp [here])
  | ends here => exact .inl (by simp [here])
  | breaks here => exact .inl (by simp [here])
  | sends here room => exact .inl (by simp [here])
  | leaves here => exact .inl (by simp [here])
  | starts here yes => exact .inr ⟨_, rfl⟩
  | _ => exact .inl rfl

/-- Every worker heeds what it is told. -/
def Heeds (s : ScanState) : Prop :=
  ∀ w ∈ s.workers, ∀ activity, w.stage = .profiling activity → activity.Heeds

theorem heeds_of_moves (h : Moves scan s actor next) (heeds : s.Heeds) : next.Heeds := by
  -- only the worker whose turn it is has another stage
  have hother : ∀ {before after : List Worker} {w w' : Worker},
      s.workers = before ++ w :: after →
      (∀ activity, w'.stage = .profiling activity → activity.Heeds) →
      ∀ v ∈ before ++ w' :: after, ∀ activity, v.stage = .profiling activity →
        activity.Heeds := by
    intro before after w w' here hw' v hv activity hstage
    rcases List.mem_append.mp hv with hbefore | hrest
    · exact heeds v (here ▸ List.mem_append_left _ hbefore) activity hstage
    · rcases List.mem_cons.mp hrest with rfl | hafter
      · exact hw' activity hstage
      · exact heeds v (here ▸ List.mem_append_right _ (List.mem_cons_of_mem _ hafter))
          activity hstage
  have hmine : ∀ {before after : List Worker} {table : String} {activity : Activity},
      s.workers = before ++ ⟨table, .profiling activity⟩ :: after → activity.Heeds :=
    fun here => heeds _ (here ▸ List.mem_append_right _ List.mem_cons_self) _ rfl
  cases h with
  | calls here =>
    refine hother here (fun activity hstage => ?_)
    cases hstage
    cases hmine here with
    | calls goesOn => exact goesOn
  | @asks before after table goOn here =>
    refine hother here (fun activity hstage => ?_)
    cases hmine here with
    | asks stops goesOn =>
      cases hanswer : scan.interrupt s.asked with
      | true =>
        rw [hanswer] at hstage
        cases hstage
        exact goesOn
      | false =>
        rw [hanswer, stops] at hstage
        cases hstage
        exact .ended _
  | ends here => exact hother here (fun activity hstage => by cases hstage)
  | breaks here => exact hother here (fun activity hstage => by cases hstage)
  | sends here room => exact hother here (fun activity hstage => by cases hstage)
  | leaves here => exact hother here (fun activity hstage => by cases hstage)
  | allStarted here => exact heeds
  | takes here free => exact heeds
  | starts here yes =>
    intro v hv activity hstage
    rcases List.mem_append.mp hv with hold | hnew
    · exact heeds v hold activity hstage
    · obtain rfl := List.mem_singleton.mp hnew
      cases hstage
      exact Activity.heeds_ofTable _ _ _ _
  | stops here no => exact heeds
  | receives here hchannel => exact heeds
  | concludes here empty idle => exact heeds

/-- **A scan that has ended has settled**: its outcome is what was collected,
nothing is on its way, and no worker is at work. -/
def Settled (s : ScanState) : Prop :=
  ∀ outcome, s.scheduler = .finished outcome →
    outcome = s.collected.conclude s.brokenTables ∧ s.channel = []
      ∧ s.workers.any (·.stage.holdsPermit) = false

theorem settled_of_moves (h : Moves scan s actor next) (settled : s.Settled) : next.Settled := by
  -- a worker that can move has a permit
  have hidle : ∀ {before after : List Worker} {w : Worker} {P : Prop} {outcome : Outcome},
      s.workers = before ++ w :: after → w.stage.holdsPermit = true →
      s.scheduler = .finished outcome → P := by
    intro before after w P outcome here holds hfinished
    have hnone := (settled outcome hfinished).2.2
    rw [here, List.any_append, List.any_cons, holds, Bool.true_or, Bool.or_true] at hnone
    cases hnone
  intro outcome hfinished
  cases h with
  | calls here => exact hidle here rfl hfinished
  | asks here => exact hidle here rfl hfinished
  | ends here => exact hidle here rfl hfinished
  | breaks here => exact hidle here rfl hfinished
  | sends here room => exact hidle here rfl hfinished
  | leaves here => exact hidle here rfl hfinished
  | allStarted here => cases hfinished
  | takes here free => cases hfinished
  | starts here yes => cases hfinished
  | stops here no => cases hfinished
  | receives here hchannel => rw [here] at hfinished; cases hfinished
  | concludes here empty idle =>
    cases hfinished
    exact ⟨rfl, empty, idle⟩

/-- **A state in which a scan has ended.** -/
structure EndedWith (s : ScanState) (outcome : Outcome) : Prop where
  /-- The outcome is what was collected. -/
  outcome_eq : outcome = s.collected.conclude s.brokenTables
  /-- Nothing is on its way. -/
  channel : s.channel = []
  /-- No table waits. -/
  waiting : s.waiting = []
  /-- Every worker is done, or broke down. -/
  workers : ∀ w ∈ s.workers, w.stage = .gone ∨ w.stage = .broken

theorem Settled.endedWith (settled : s.Settled) {outcome : Outcome}
    (ended : s.outcome? = some outcome) : s.EndedWith outcome := by
  have hscheduler : s.scheduler = .finished outcome := by
    unfold outcome? at ended
    split at ended
    · rename_i hfinished
      rw [hfinished, Option.some.inj ended]
    · cases ended
  obtain ⟨houtcome, hchannel, hidle⟩ := settled outcome hscheduler
  refine ⟨houtcome, hchannel, ?_, fun w hw => ?_⟩
  · unfold ScanState.waiting
    rw [hscheduler]
  · have hnone := List.any_eq_false.mp hidle w hw
    cases hstage : w.stage with
    | gone => exact .inl rfl
    | broken => exact .inr rfl
    | profiling activity => exact absurd (by rw [hstage]; rfl) hnone
    | sending result => exact absurd (by rw [hstage]; rfl) hnone
    | leaving => exact absurd (by rw [hstage]; rfl) hnone

theorem capacity_of_moves (h : Moves scan s actor next) : next.capacity = s.capacity := by
  cases h <;> rfl

/-- **The books of a scan**, as they are in every state it can reach. -/
structure Balanced (scan : Scan) (tables : List String) (s : ScanState) : Prop where
  /-- Every permit is free, or somebody has it. -/
  permits : s.freePermits + s.permitsHeld = scan.settings.concurrency
  /-- No more results are on their way than were sent. -/
  sent : s.channel.length ≤ s.workers.countP (·.stage.hasSent)
  /-- Nothing but what was asked for is looked at, in the order of the
  request. -/
  requested : s.workers.map (·.table) ++ s.waiting <+: tables
  /-- There is room for all results. -/
  capacity : s.capacity = tables.length
  /-- Every worker heeds what it is told. -/
  heeds : s.Heeds
  /-- A scan that has ended has settled. -/
  settled : s.Settled

theorem balanced_of_reaches (h : scan.Reaches tables s) : Balanced scan tables s := by
  induction h with
  | start =>
    exact ⟨rfl, le_rfl, List.prefix_rfl, rfl, fun _ hw => absurd hw List.not_mem_nil,
      fun _ hfinished => SchedulerStage.noConfusion hfinished⟩
  | @turn s next actor before moved ih =>
    have hmoves := moves_of_turn? moved
    have hrequested : next.workers.map (·.table) ++ next.waiting <+: tables := by
      rcases requested_of_moves hmoves with hsame | ⟨-, hprefix⟩
      · rw [hsame]
        exact ih.requested
      · exact hprefix.trans ih.requested
    exact ⟨(permits_of_moves hmoves).trans ih.permits, sent_of_moves hmoves ih.sent,
      hrequested, (capacity_of_moves hmoves).trans ih.capacity,
      heeds_of_moves hmoves ih.heeds, settled_of_moves hmoves ih.settled⟩

/-! ## Nobody is stuck -/

/-- **A worker that has a permit can move.** -/
theorem exists_turn_of_holdsPermit (balanced : Balanced scan tables s) {position : Nat}
    {w : Worker} (hw : s.workers[position]? = some w) (holds : w.stage.holdsPermit = true) :
    ∃ next, s.turn? scan (.worker position) = some next := by
  obtain ⟨table, stage⟩ := w
  obtain ⟨before, after, here, rfl⟩ := exists_eq_append_of_getElem? hw
  cases stage with
  | profiling activity =>
    cases activity with
    | calls call next => exact ⟨_, turn?_of_moves (.calls here)⟩
    | asks next => exact ⟨_, turn?_of_moves (.asks here)⟩
    | ended result => exact ⟨_, turn?_of_moves (.ends here)⟩
    | brokenDown => exact ⟨_, turn?_of_moves (.breaks here)⟩
  | sending result =>
    -- this worker has not sent its result, so there is room for it
    have hsent := balanced.sent
    have hrequested := balanced.requested.length_le
    rw [List.length_append, List.length_map] at hrequested
    have hroom : s.channel.length < s.capacity := by
      rw [balanced.capacity]
      have hless : s.workers.countP (·.stage.hasSent) < s.workers.length := by
        rw [List.countP_lt_length_iff]
        exact ⟨_, List.mem_of_getElem? hw, by simp [WorkerStage.hasSent]⟩
      omega
    exact ⟨_, turn?_of_moves (.sends here hroom)⟩
  | leaving => exact ⟨_, turn?_of_moves (.leaves here)⟩
  | gone => cases holds
  | broken => cases holds

/-- **Nobody is stuck.** As long as a scan has not ended, somebody can
move. -/
theorem exists_turn_of_outcome?_eq_none (reaches : scan.Reaches tables s)
    (permits : 0 < scan.settings.concurrency) (running : s.outcome? = none) :
    ∃ actor next, s.turn? scan actor = some next := by
  have balanced := balanced_of_reaches reaches
  by_cases hbusy : ∃ w ∈ s.workers, w.stage.holdsPermit = true
  · obtain ⟨w, hw, holds⟩ := hbusy
    obtain ⟨position, hposition⟩ := List.getElem?_of_mem hw
    exact ⟨_, exists_turn_of_holdsPermit balanced hposition holds⟩
  · have hidle : ∀ w ∈ s.workers, ¬ w.stage.holdsPermit = true :=
      fun w hw holds => hbusy ⟨w, hw, holds⟩
    refine ⟨.scheduler, ?_⟩
    cases hs : s.scheduler with
    | starting waiting =>
      cases waiting with
      | nil => exact ⟨_, turn?_of_moves (.allStarted hs)⟩
      | cons table waiting =>
        have hfree : 0 < s.freePermits := by
          have hpermits := balanced.permits
          rw [permitsHeld, hs, List.countP_eq_zero.mpr hidle] at hpermits
          exact permits.trans_eq hpermits.symm
        exact ⟨_, turn?_of_moves (.takes hs hfree)⟩
    | holding table waiting =>
      cases hanswer : scan.interrupt s.asked with
      | true => exact ⟨_, turn?_of_moves (.starts hs hanswer)⟩
      | false => exact ⟨_, turn?_of_moves (.stops hs hanswer)⟩
    | collecting =>
      cases hchannel : s.channel with
      | cons message rest => exact ⟨_, turn?_of_moves (.receives hs hchannel)⟩
      | nil => exact ⟨_, turn?_of_moves (.concludes hs hchannel (List.any_eq_false.mpr hidle))⟩
    | finished outcome =>
      rw [outcome?, hs] at running
      cases running

end ScanState

end TableProfile
