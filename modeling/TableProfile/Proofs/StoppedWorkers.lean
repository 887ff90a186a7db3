import TableProfile.Proofs.Advances
import TableProfile.Proofs.PromptStop

/-!
# What a stopped worker leaves behind

A worker that is told to stop leaves nothing: no report, no failure, no advance of the
progress. And it takes nothing from the others: what the scan comes to is, worker by
worker, what the tables of all the others are good for (`Scan.History.begun_eq`). The
account of a state as a whole (`Account.total`) cannot tell this, as it only says that
something may be dropped where somebody is told to stop. What is dropped is one
worker's share, and a history knows whose.

The shares of the tables that nobody got to are not in this account. So it is exact also
for a scan that was stopped, and together with the bounds on what a worker still does it
says what cancellation comes to (`Scan.stops_promptly`).
-/

namespace TableProfile

/-! ## The lives of those who were told to stop -/

namespace WorkerStage

/-- **A worker that was told to stop**: it has nothing to send but that. -/
inductive IsStopped : WorkerStage → Prop
  /-- It has just been told. -/
  | told : IsStopped (profiling (.ended (.error .canceled)))
  /-- It has it to send. -/
  | sending : IsStopped (sending (.error .canceled))
  /-- It has sent it. -/
  | leaving : IsStopped leaving
  /-- It is gone. -/
  | gone : IsStopped gone

namespace Step

variable {stage next : WorkerStage} {deed : Option Deed}

/-- To be told to stop is to be stopped. -/
theorem isStopped_of_asks_false (h : stage.Step (some (.asks false)) next)
    (heeds : stage.Heeds) : next.IsStopped := by
  cases h with
  | asks =>
    cases heeds _ rfl with
    | asks stops goesOn =>
      rw [stops]
      exact .told

/-- **Who is stopped remains so**, and asks no more. -/
theorem isStopped (h : stage.Step deed next) (stopped : stage.IsStopped) :
    next.IsStopped ∧ ∀ goOn, deed ≠ some (.asks goOn) := by
  cases stopped with
  | told =>
    cases h
    exact ⟨.sending, by rintro _ ⟨⟩⟩
  | sending =>
    cases h
    exact ⟨.leaving, by rintro _ ⟨⟩⟩
  | leaving =>
    cases h
    exact ⟨.gone, by rintro _ ⟨⟩⟩
  | gone => cases h

/-- **Who is not told to stop** keeps to what it is heading for, until it is sent. -/
theorem prospect (h : stage.Step deed next) (no : deed ≠ some (.asks false)) :
    ∀ ending ∈ next.prospect, ending ∈ stage.prospect := by
  intro ending hending
  cases h with
  | calls => exact hending
  | asks goOn =>
    cases goOn with
    | true => exact hending
    | false => exact absurd rfl no
  | ends => exact hending
  | breaks => exact hending
  | sends => cases hending
  | leaves => cases hending

end Step

namespace Lives

variable {first stage : WorkerStage} {deeds : List Deed}

/-- **A life with an answer to stop** is that of a worker that is stopped. -/
theorem isStopped (h : first.Lives deeds stage) (heeds : first.Heeds)
    (told : .asks false ∈ deeds) : stage.IsStopped := by
  induction h with
  | begins => exact absurd told List.not_mem_nil
  | step before step ih =>
    rcases List.mem_append.mp told with hbefore | hnow
    · exact (step.isStopped (ih hbefore)).1
    · rw [Option.mem_toList] at hnow
      obtain rfl := hnow
      exact step.isStopped_of_asks_false (before.heeds heeds)

/-- **A life without an answer to stop** keeps to what the worker was heading for. -/
theorem prospect (h : first.Lives deeds stage) (untold : .asks false ∉ deeds) :
    ∀ ending ∈ stage.prospect, ending ∈ first.prospect := by
  induction h with
  | begins => exact fun _ h => h
  | step _ step ih =>
    rw [List.mem_append, not_or, Option.mem_toList] at untold
    exact fun ending hending => ih untold.1 ending (step.prospect untold.2 ending hending)

end Lives

end WorkerStage

/-! ## The shares of the others -/

/-- **The tables whose workers were not told to stop**, each with its position. -/
def untold (history : List (Actor × Deed)) (tables : List String) : List (String × Nat) :=
  tables.zipIdx.filter fun entry => (Actor.worker entry.2, Deed.asks false) ∉ history

section Untold

variable {history deeds : List (Actor × Deed)} {tables : List String} {position : Nat}
  {table : String}

/-- What is done apart from that changes nothing. -/
theorem untold_append_of_not_mem (h : ∀ position, (.worker position, .asks false) ∉ deeds) :
    untold (history ++ deeds) tables = untold history tables := by
  refine List.filter_congr fun entry _ => ?_
  refine decide_eq_decide.mpr (not_congr ?_)
  rw [List.mem_append, or_iff_left (h entry.2)]

/-- A turn in which no worker is told to stop. -/
theorem asks_false_not_mem_map {actor : Actor} {deed : Option Deed}
    (h : actor = .scheduler ∨ deed ≠ some (.asks false)) (position : Nat) :
    (.worker position, .asks false) ∉ deed.toList.map (actor, ·) := by
  intro hmem
  obtain ⟨_, hdeed, heq⟩ := List.mem_map.mp hmem
  obtain ⟨rfl, rfl⟩ := Prod.mk.inj heq
  rcases h with ⟨⟨⟩⟩ | hno
  exact hno (Option.mem_toList.mp hdeed)

/-- **One more worker is told to stop.** -/
theorem untold_concat_told (here : tables[position]? = some table) :
    untold (history ++ [(.worker position, .asks false)]) tables
      = (untold history tables).erase (table, position) := by
  have hnodup : tables.zipIdx.Nodup := by
    refine List.Nodup.of_map Prod.snd ?_
    rw [List.zipIdx_map_snd]
    exact List.nodup_range'
  unfold untold
  rw [(hnodup.filter _).erase_eq_filter, List.filter_filter]
  refine List.filter_congr fun entry hentry => ?_
  -- there is only one entry at this position
  have hone : entry = (table, position) ↔ entry.2 = position := by
    refine ⟨fun h => h ▸ rfl, fun h => Prod.ext ?_ h⟩
    have hget := List.mem_zipIdx_iff_getElem?.mp hentry
    rw [h, here] at hget
    exact (Option.some.inj hget).symm
  rw [Bool.eq_iff_iff, Bool.and_eq_true, bne_iff_ne, decide_eq_true_iff, decide_eq_true_iff,
    List.mem_append, List.mem_singleton, not_or, Ne, hone]
  simp [and_comm]

theorem perm_untold (before : (.worker position, .asks false) ∉ history)
    (here : tables[position]? = some table) :
    (untold history tables).Perm
      ((table, position) :: untold (history ++ [(.worker position, .asks false)]) tables) := by
  rw [untold_concat_told here]
  exact List.perm_cons_erase (List.mem_filter.mpr
    ⟨List.mk_mem_zipIdx_iff_getElem?.mpr here, decide_eq_true before⟩)

/-- A worker that has done nothing yet is not told to stop. -/
theorem untold_concat (idle : (.worker tables.length, .asks false) ∉ history) :
    untold history (tables ++ [table]) = untold history tables ++ [(table, tables.length)] := by
  have hnew : [(table, tables.length)].filter
      (fun entry => (Actor.worker entry.2, Deed.asks false) ∉ history)
      = [(table, tables.length)] := List.filter_cons_of_pos (decide_eq_true idle)
  unfold untold
  rw [List.zipIdx_append, List.filter_append, Nat.zero_add]
  exact congrArg (_ ++ ·) hnew

end Untold

/-- **The share of a table**: what it is good for at its position. -/
def Account.share {γ : Type} (A : Account γ) (scan : Scan) (entry : String × Nat) : List γ :=
  A.value entry.2 entry.1 (scan.ending entry.2 entry.1)

namespace Scan.History

variable {γ : Type} {A : Account γ} {scan : Scan} {tables : List String} {s : ScanState}
  {history : List (Actor × Deed)} {position : Nat} {w : Worker}

/-- Who was not started has done nothing. -/
theorem not_mem_of_getElem?_eq_none (h : scan.History (scan.start tables) history s)
    (hnone : s.workers[position]? = none) (deed : Deed) : (.worker position, deed) ∉ history := by
  rw [← mem_deedsOf]
  rcases h.lives position with ⟨-, -, hidle⟩ | ⟨table, first, stage, hsome, -, -⟩
  · rw [hidle]
    exact List.not_mem_nil
  · cases hnone.symm.trans hsome

/-- **Nobody is told to stop twice**: who was told asks no more. -/
theorem not_mem_of_step (h : scan.History (scan.start tables) history s)
    (hw : s.workers[position]? = some w) {goOn : Bool} {stage : WorkerStage}
    (step : w.stage.Step (some (.asks goOn)) stage) : (.worker position, .asks false) ∉ history := by
  intro told
  rw [← mem_deedsOf] at told
  have hstopped := (h.lives_of_start hw).isStopped (heeds_activity position w.table) told
  exact (step.isStopped hstopped).2 goOn rfl

/-- A worker that asks, and was not told to stop before, has what its table is good
for. -/
theorem ofWorker_eq (A : Account γ) (h : scan.History (scan.start tables) history s)
    (hw : s.workers[position]? = some w) {goOn : Bool} {stage : WorkerStage}
    (step : w.stage.Step (some (.asks goOn)) stage) :
    A.ofWorker position w = A.value position w.table (scan.ending position w.table) := by
  have huntold := h.not_mem_of_step hw step
  rw [← mem_deedsOf] at huntold
  have hprospect := (h.lives_of_start hw).prospect huntold
  obtain ⟨table, stage⟩ := w
  cases step with
  | @asks next =>
    have hending : (Activity.asks next).uninterrupted = scan.ending position table :=
      (Option.some.inj (hprospect _ rfl)).symm
    exact congrArg (A.value position table) hending

section Turn

variable {mid next : ScanState} (before : scan.History (scan.start tables) history mid)
  (ih : A.begun mid
    = ((untold history (mid.workers.map (·.table))).flatMap (A.share scan) : Multiset γ))
include before ih

/-- The scheduler may start one more worker, and nobody is told to stop by that. -/
theorem begun_eq_of_schedulerMoves (h : Moves scan mid .scheduler next) :
    A.begun next = ((untold (history ++ (mid.deed? scan .scheduler).toList.map
      (Actor.scheduler, ·)) (next.workers.map (·.table))).flatMap (A.share scan)
        : Multiset γ) := by
  rw [untold_append_of_not_mem (asks_false_not_mem_map (.inl rfl))]
  rcases Account.begun_of_schedulerMoves (A := A) h with
    ⟨hworkers, hbegun, -⟩ | ⟨table, -, hworkers, hbegun⟩
  · rw [hworkers, hbegun, ih]
  · -- the new worker has done nothing yet
    have hlength : (mid.workers.map (·.table)).length = mid.workers.length :=
      List.length_map _
    have hidle : (.worker (mid.workers.map (·.table)).length, .asks false) ∉ history := by
      rw [hlength]
      exact before.not_mem_of_getElem?_eq_none (List.getElem?_eq_none le_rfl) _
    have htables : next.workers.map (·.table) = mid.workers.map (·.table) ++ [table] := by
      rw [hworkers, List.map_append]
      rfl
    rw [htables, hbegun, ih, untold_concat hidle, List.flatMap_append, ← Multiset.coe_add,
      List.flatMap_singleton, hlength]
    rfl

/-- A worker that is told to stop takes its share with it, and no other worker does. -/
theorem begun_eq_of_workerMoves (h : Moves scan mid (.worker position) next) :
    A.begun next = ((untold (history ++ (mid.deed? scan (.worker position)).toList.map
      (Actor.worker position, ·)) (next.workers.map (·.table))).flatMap (A.share scan)
        : Multiset γ) := by
  obtain ⟨front, w, stage, back, here, rfl, now, step⟩ := ScanState.step_of_moves h
  have htables : next.workers.map (·.table) = mid.workers.map (·.table) := by
    rw [here, now, List.map_append, List.map_append]
    rfl
  have hw : mid.workers[front.length]? = some w := by rw [here, getElem?_here]
  have heeds := (ScanState.balanced_of_reaches before.reaches).heeds
  rw [htables]
  rcases Account.begun_of_workerMoves (A := A) h heeds with
    ⟨hdeed, hbegun⟩ | ⟨hdeed, w', hw', hbegun⟩
  · rw [hbegun, ih, untold_append_of_not_mem (asks_false_not_mem_map (.inr hdeed))]
  · obtain rfl := Option.some.inj (hw.symm.trans hw')
    rw [hdeed] at step
    have hget : (mid.workers.map (·.table))[front.length]? = some w.table := by
      rw [List.getElem?_map, hw]
      rfl
    have hshares := Multiset.coe_eq_coe.mpr
      ((perm_untold (before.not_mem_of_step hw step) hget).flatMap_right (A.share scan))
    rw [ih, hshares, List.flatMap_cons, before.ofWorker_eq A hw step, ← Multiset.coe_add,
      add_comm] at hbegun
    rw [hdeed]
    exact (add_right_cancel hbegun).symm

end Turn

/-- **What a scan will come to if it hands out no more tables** is what the tables are
good for whose workers were not told to stop. -/
theorem begun_eq (A : Account γ) (h : scan.History (scan.start tables) history s)
    (nothing : A.taken (scan.start tables).collected = []) :
    A.begun s
      = ((untold history (s.workers.map (·.table))).flatMap (A.share scan) : Multiset γ) := by
  induction h with
  | begins =>
    unfold Account.begun
    rw [nothing]
    rfl
  | @turn history mid next actor before moved ih =>
    have hmoves := ScanState.moves_of_turn? moved
    cases actor with
    | scheduler => exact before.begun_eq_of_schedulerMoves ih hmoves
    | worker position => exact before.begun_eq_of_workerMoves ih hmoves

end Scan.History

/-! ## What is left in the end -/

namespace Account

variable {γ : Type} {scan : Scan} {s : ScanState} {outcome : Outcome}

/-- A scan that has ended hands out no more tables. -/
theorem total_eq_begun_of_ended (A : Account γ) (scan : Scan) (ended : s.EndedWith outcome) :
    A.total scan s = A.begun s := by
  rw [total_eq_begun_add, ended.waiting]
  exact add_zero _

/-- What the others are good for is a part of what all tables are good for, in the same
order. -/
theorem sublist_ofTables (A : Account γ) (scan : Scan) (history : List (Actor × Deed))
    (tables : List String) :
    ((untold history tables).flatMap (A.share scan)).Sublist (A.ofTables scan 0 tables) := by
  unfold ofTables
  simp only [Nat.zero_add]
  rw [List.mapIdx_eq_zipIdx_map]
  rw [← List.flatMap_def]
  exact List.filter_sublist.flatMap _

/-- How often the progress advances if these tables get to their ends. -/
theorem length_flatMap_advances (scan : Scan) (entries : List (String × Nat)) :
    (entries.flatMap (advances.share scan)).length
      = entries.countP fun entry => (scan.ending entry.2 entry.1).advances := by
  induction entries with
  | nil => rfl
  | cons entry rest ih =>
    rw [List.flatMap_cons, List.length_append, ih, share, length_value_advances,
      List.countP_cons, Nat.add_comm]

end Account

/-- **What is left of a scan**, by what was done in it and by the tables that were started:
what these are good for, without those whose workers were told to stop. -/
structure Outcome.IsLeftOf (scan : Scan) (history : List (Actor × Deed))
    (started : List String) (outcome : Outcome) : Prop where
  /-- It is canceled if and only if somebody was told to stop. -/
  canceled : outcome.canceled = true ↔ ∃ actor, (actor, .asks false) ∈ history
  /-- The reports of the others, in the order of the request. -/
  tables : outcome.report.tables
    = (untold history started).filterMap fun entry => (scan.ending entry.2 entry.1).report?
  /-- The failures of the others, in some order. -/
  failures : outcome.report.failures.Perm
    ((untold history started).filterMap fun entry =>
      (scan.ending entry.2 entry.1).failure? entry.1)
  /-- The advances of the others. -/
  done : outcome.progress.done
    = (untold history started).countP fun entry => (scan.ending entry.2 entry.1).advances

namespace Scan.History

variable {scan : Scan} {tables : List String} {s : ScanState} {outcome : Outcome}
  {history : List (Actor × Deed)}

/-- **What is left of a scan that has ended.** -/
theorem isLeftOf (never : scan.source.NeverCancels)
    (h : scan.History (scan.start tables) history s) (hended : s.outcome? = some outcome) :
    outcome.IsLeftOf scan history (s.workers.map (·.table)) := by
  have ended := (ScanState.balanced_of_reaches h.reaches).settled.endedWith hended
  refine ⟨?_, ?_, ?_, ?_⟩
  · rw [ScanState.canceled_iff_of_reaches never h.reaches hended, h.exists_asks_iff]
    refine exists_congr fun q => ?_
    exact (and_iff_right (Nat.zero_le q)).symm
  · have htotal := (Account.reports.total_eq_begun_of_ended scan ended).trans (h.begun_eq _ rfl)
    rw [ended.tables_eq htotal ((scan.pairwise_ofTables_reports 0 _).1.sublist
      (Account.reports.sublist_ofTables scan history _)), List.map_flatMap,
      List.filterMap_eq_flatMap_toList]
    refine List.flatMap_congr fun entry _ => ?_
    show (Option.toList (Option.map _ _)).map _ = _
    cases (scan.ending entry.2 entry.1).report? <;> rfl
  · have htotal := (Account.failures.total_eq_begun_of_ended scan ended).trans (h.begun_eq _ rfl)
    rw [ended.total_failures, Multiset.coe_eq_coe] at htotal
    rw [List.filterMap_eq_flatMap_toList]
    exact htotal
  · have htotal := (Account.advances.total_eq_begun_of_ended scan ended).trans (h.begun_eq _ rfl)
    rw [ended.done_eq htotal]
    exact Account.length_flatMap_advances scan _

end Scan.History

namespace Scan

/-- **What a worker does from a moment on** at which every answer is *no*: next to
nothing. -/
structure WindsDown (scan : Scan) (earlier later : List (Actor × Deed)) (position : Nat) :
    Prop where
  /-- If it was not told to go on before, it does not call the source at all. -/
  idle : (.worker position, .asks true) ∉ earlier →
    ∀ call, (.worker position, .calls call) ∉ earlier ++ later
  /-- In any case it pulls as many rows as the interval says, or fewer. -/
  few : later.count (.worker position, .calls .nextRow) ≤ scan.settings.pollInterval

variable {scan : Scan} (tables : List String)

/-- **A scan stops soon, and says so.** Let the settings be accepted, and the source never
cancel by itself. From the moment on at which every answer is *no*, wherever the workers
have got to and whoever's turn it is, a worker that was not told to go on before does not
call the source at all, and each of the others pulls as many rows as the interval says,
or fewer.

Whatever the answers are, the scan ends, and what is left of it is what the tables are
good for that were started, without those whose workers were told to stop: they leave no
report, no failure and no advance of the progress. The scan is canceled if and only if
some question was answered with *no*. -/
theorem stops_promptly (accepted : scan.settings.validate = .ok ())
    (never : scan.source.NeverCancels) :
    (∀ earlier s later next, scan.History (scan.start tables) earlier s →
        scan.History s later next → (∀ q, s.asked ≤ q → scan.interrupt q = false) →
        ∀ position, scan.WindsDown earlier later position)
      ∧ scan.AlwaysEnds tables
      ∧ (∀ outcome, scan.Returns tables (.ok outcome) ↔ tables ≠ [] ∧ ∃ history s,
        scan.History (scan.start tables) history s ∧ s.outcome? = some outcome)
      ∧ ∀ history s outcome, scan.History (scan.start tables) history s →
        s.outcome? = some outcome → s.workers.map (·.table) <+: tables
          ∧ outcome.IsLeftOf scan history (s.workers.map (·.table)) := by
  refine ⟨fun earlier s later next h h' stops position => ⟨fun no => ?_, ?_⟩,
    alwaysEnds accepted, fun outcome => ?_, fun history s outcome h hended => ⟨?_, ?_⟩⟩
  · refine (h.trans h').not_calls fun hmem => ?_
    rcases List.mem_append.mp hmem with hmem | hmem
    · exact no hmem
    · exact h'.not_asks_true stops _ hmem
  · exact h.count_pulls_le accepted h' stops position
  · by_cases hnil : tables = []
    · subst hnil
      rw [returns_nil_iff accepted]
      exact iff_of_false (by rintro ⟨⟩) fun h => h.1 rfl
    · rw [returns_iff accepted hnil, and_iff_right hnil]
      constructor
      · rintro ⟨_, ⟨s, reaches, hended⟩, ⟨⟩⟩
        obtain ⟨history, h⟩ := History.exists_of_reaches reaches
        exact ⟨history, s, h, hended⟩
      · rintro ⟨history, s, h, hended⟩
        exact ⟨outcome, ⟨s, h.reaches, hended⟩, rfl⟩
  · have ended := (ScanState.balanced_of_reaches h.reaches).settled.endedWith hended
    have hrequested := (ScanState.balanced_of_reaches h.reaches).requested
    rwa [ended.waiting, List.append_nil] at hrequested
  · exact h.isLeftOf never hended

/-- Two workers look at a table each. The first one is told to go on, and after that every
answer is *no*: so the second one calls nothing. The first one pulls the two rows of its
table and finds its end, which are three pulls, before it would ask again. The scan is
canceled, with one table done. -/
theorem stops_promptly_two_workers :
    let scan : Scan := {
      source := threeTables
      settings := { concurrency := 2, pollInterval := 3 }
      interrupt := .after 3 }
    let tables := ["kept", "kept"]
    scan.settings.validate = .ok () ∧ scan.source.NeverCancels
      ∧ ∃ earlier s later next outcome, scan.History (scan.start tables) earlier s
        ∧ scan.History s later next ∧ (∀ q, s.asked ≤ q → scan.interrupt q = false)
        ∧ (∀ call, (.worker 1, .calls call) ∉ earlier ++ later)
        ∧ later.count (.worker 0, .calls .nextRow) ≤ 3
        ∧ scan.Returns tables (.ok outcome)
        ∧ outcome.IsLeftOf scan (earlier ++ later) tables
        ∧ outcome.canceled = true ∧ outcome.progress.done = 1 := by
  intro scan tables
  have accepted : scan.settings.validate = .ok () := rfl
  -- the first worker is told to go on; after that the second one is told to stop, and the
  -- first one gets to the end of its table
  obtain ⟨earlier, s, next, outcome, h, hasked, hsecond, hafter, hended, hcanceled, hdone,
      hstarted⟩ :
      ∃ earlier s next outcome, scan.History (scan.start tables) earlier s ∧ s.asked = 3
        ∧ (.worker 1, .asks true) ∉ earlier
        ∧ s.after? scan (List.replicate 4 (.worker 1) ++ List.replicate 9 (.worker 0)
          ++ List.replicate 3 .scheduler) = some next
        ∧ next.outcome? = some outcome ∧ outcome.canceled = true ∧ outcome.progress.done = 1
        ∧ next.workers.map (·.table) = tables :=
    ⟨_, _, _, _, .turn (.worker 0) (.turn .scheduler (.turn .scheduler (.turn .scheduler
      (.turn .scheduler (.turn .scheduler .begins rfl) rfl) rfl) rfl) rfl) rfl, rfl, by decide,
      rfl, rfl, rfl, rfl, rfl⟩
  obtain ⟨later, h'⟩ := History.exists_of_after? hafter
  have stops : ∀ q, s.asked ≤ q → scan.interrupt q = false := by
    intro q hq
    rw [hasked] at hq
    exact decide_eq_false (Nat.not_lt.mpr hq)
  obtain ⟨hwinds, -, hreturns, hleft⟩ :=
    stops_promptly tables accepted neverCancels_threeTables
  refine ⟨accepted, neverCancels_threeTables, earlier, s, later, next, outcome, h, h', stops,
    (hwinds _ _ _ _ h h' stops 1).idle hsecond, (hwinds _ _ _ _ h h' stops 0).few,
    (hreturns outcome).mpr ⟨List.cons_ne_nil _ _, _, _, h.trans h', hended⟩, ?_, hcanceled,
    hdone⟩
  rw [← hstarted]
  exact (hleft _ _ _ (h.trans h') hended).2

end Scan

end TableProfile
