import TableProfile.Proofs.Reachable

/-!
# What is done in the course of a scan

A state tells where everybody stands, and not how they got there. Some promises are
about the way: how often a worker sends, which questions were answered with *no*, how
many rows are still asked for after that. So the turns are written down with what is
done in each of them that others can see: a call of the source, a question with its
answer, a result that is sent (`Scan.History`).

A history of a scan is a life of each of its workers. Whoever has turns in between, the
deeds of one worker lead it step by step from its first stage to where it is now
(`Scan.History.lives`). What is true of all lives needs no other worker to be proved,
and then holds of every history.
-/

namespace TableProfile

/-- **What is done in a turn**, as far as others can see it. -/
inductive Deed where
  /-- To call the source. -/
  | calls (call : SourceCall)
  /-- To ask whether to go on, and to get this answer. -/
  | asks (goOn : Bool)
  /-- To send a result. -/
  | sends
  deriving DecidableEq, Repr

/-- To replace an element changes no other one. -/
theorem getElem?_elsewhere {α : Type} {before after : List α} {a b : α} {i : Nat}
    (h : i ≠ before.length) : (before ++ a :: after)[i]? = (before ++ b :: after)[i]? := by
  rcases Nat.lt_or_gt_of_ne h with hlt | hgt
  · rw [List.getElem?_append_left hlt, List.getElem?_append_left hlt]
  · obtain ⟨k, hk⟩ := Nat.exists_eq_add_of_lt hgt
    rw [List.getElem?_append_right hgt.le, List.getElem?_append_right hgt.le, hk,
      Nat.add_assoc, Nat.add_sub_cancel_left]
    rfl

/-! ## The life of a worker -/

namespace WorkerStage

/-- What a worker does next at this stage, if the next question gets this answer. -/
def deed? (goOn : Bool) : WorkerStage → Option Deed
  | profiling (.calls call _) => some (.calls call)
  | profiling (.asks _) => some (.asks goOn)
  | sending _ => some .sends
  | _ => none

/-- **The steps of a worker**, with what it does in them. -/
inductive Step : WorkerStage → Option Deed → WorkerStage → Prop
  /-- It calls the source. -/
  | calls {call : SourceCall} {next : Unit → Activity} :
      Step (profiling (.calls call next)) (some (.calls call)) (profiling (next ()))
  /-- It asks whether to go on. -/
  | asks {next : Bool → Activity} (goOn : Bool) :
      Step (profiling (.asks next)) (some (.asks goOn)) (profiling (next goOn))
  /-- It comes to the end of its table. -/
  | ends {result : TableResult} : Step (profiling (.ended result)) none (sending result)
  /-- It breaks down. -/
  | breaks : Step (profiling .brokenDown) none broken
  /-- It sends its result. -/
  | sends {result : TableResult} : Step (sending result) (some .sends) leaving
  /-- It gives its permit back. -/
  | leaves : Step leaving none gone

/-- **The lives of a worker**, from its first stage, with all that it does. -/
inductive Lives (first : WorkerStage) : List Deed → WorkerStage → Prop
  /-- Nothing has happened yet. -/
  | begins : Lives first [] first
  /-- One more step. -/
  | step {deeds : List Deed} {stage next : WorkerStage} {deed : Option Deed}
      (before : Lives first deeds stage) (step : stage.Step deed next) :
      Lives first (deeds ++ deed.toList) next

end WorkerStage

/-! ## The history of a scan -/

/-- What an actor does in its turn. -/
def ScanState.deed? (scan : Scan) (s : ScanState) : Actor → Option Deed
  | .scheduler =>
    match s.scheduler with
    | .holding .. => some (.asks (scan.interrupt s.asked))
    | _ => none
  | .worker position => s.workers[position]?.bind (·.stage.deed? (scan.interrupt s.asked))

/-- **The histories of a scan** from one state to another: who did what, the first
first. -/
inductive Scan.History (scan : Scan) (s : ScanState) : List (Actor × Deed) → ScanState → Prop
  /-- Nobody had a turn yet. -/
  | begins : History scan s [] s
  /-- One more turn. -/
  | turn {history : List (Actor × Deed)} {mid next : ScanState} (actor : Actor)
      (before : History scan s history mid) (moved : mid.turn? scan actor = some next) :
      History scan s (history ++ (mid.deed? scan actor).toList.map (actor, ·)) next

/-- What the worker at a position did. -/
def deedsOf (position : Nat) (history : List (Actor × Deed)) : List Deed :=
  history.filterMap fun entry => if entry.1 = .worker position then some entry.2 else none

section DeedsOf

variable {position : Nat} {deed : Deed} {history : List (Actor × Deed)}

theorem mem_deedsOf : deed ∈ deedsOf position history ↔ (.worker position, deed) ∈ history := by
  unfold deedsOf
  rw [List.mem_filterMap]
  constructor
  · rintro ⟨⟨actor, done⟩, hmem, hdeed⟩
    split at hdeed
    · rename_i hactor
      obtain rfl : actor = .worker position := hactor
      obtain rfl := Option.some.inj hdeed
      exact hmem
    · cases hdeed
  · intro hmem
    exact ⟨_, hmem, if_pos rfl⟩

theorem count_deedsOf :
    (deedsOf position history).count deed = history.count (.worker position, deed) := by
  induction history with
  | nil => rfl
  | cons entry rest ih =>
    obtain ⟨actor, done⟩ := entry
    unfold deedsOf at ih ⊢
    rw [List.filterMap_cons]
    by_cases hactor : actor = .worker position
    · subst hactor
      rw [if_pos rfl, List.count_cons, List.count_cons, ih]
      simp
    · rw [if_neg hactor, List.count_cons, ih]
      simp [hactor]

theorem deedsOf_append (before after : List (Actor × Deed)) :
    deedsOf position (before ++ after) = deedsOf position before ++ deedsOf position after :=
  List.filterMap_append

/-- A deed is that of the actor whose turn it is. -/
theorem deedsOf_map (actor : Actor) (deed : Option Deed) :
    deedsOf position (deed.toList.map (actor, ·))
      = if actor = .worker position then deed.toList else [] := by
  unfold deedsOf
  by_cases hactor : actor = .worker position
  · rw [if_pos hactor]
    cases deed with
    | none => rfl
    | some deed => exact List.filterMap_cons_some (if_pos hactor)
  · rw [if_neg hactor]
    cases deed with
    | none => rfl
    | some deed => exact List.filterMap_cons_none (if_neg hactor)

end DeedsOf

namespace ScanState

variable {scan : Scan} {s next : ScanState}

theorem deed?_worker {before after : List Worker} {w : Worker}
    (here : s.workers = before ++ w :: after) :
    s.deed? scan (.worker before.length) = w.stage.deed? (scan.interrupt s.asked) := by
  show s.workers[before.length]?.bind _ = _
  rw [here, getElem?_here]
  rfl

/-- **The turn of a worker is a step of that worker**, and nobody else is
concerned. -/
theorem step_of_moves {position : Nat} (h : Moves scan s (.worker position) next) :
    ∃ before w stage after, s.workers = before ++ w :: after ∧ position = before.length
      ∧ next.workers = before ++ { w with stage } :: after
      ∧ w.stage.Step (s.deed? scan (.worker position)) stage := by
  cases h with
  | calls here => exact ⟨_, _, _, _, here, rfl, rfl, deed?_worker here ▸ .calls⟩
  | asks here => exact ⟨_, _, _, _, here, rfl, rfl, deed?_worker here ▸ .asks _⟩
  | ends here => exact ⟨_, _, _, _, here, rfl, rfl, deed?_worker here ▸ .ends⟩
  | breaks here => exact ⟨_, _, _, _, here, rfl, rfl, deed?_worker here ▸ .breaks⟩
  | sends here room => exact ⟨_, _, _, _, here, rfl, rfl, deed?_worker here ▸ .sends⟩
  | leaves here => exact ⟨_, _, _, _, here, rfl, rfl, deed?_worker here ▸ .leaves⟩

/-- The scheduler starts one worker at most, and leaves the others alone. -/
theorem workers_of_schedulerMoves (h : Moves scan s .scheduler next) :
    next.workers = s.workers ∨ ∃ table, next.workers
      = s.workers ++ [⟨table, .profiling (scan.activity s.workers.length table)⟩] := by
  cases h with
  | starts here yes => exact .inr ⟨_, rfl⟩
  | _ => exact .inl rfl

/-- **Each question is answered as its number says**, and nothing else is counted as a
question. -/
theorem deed?_of_moves {actor : Actor} (h : Moves scan s actor next) :
    s.deed? scan actor = some (.asks (scan.interrupt s.asked)) ∧ next.asked = s.asked + 1
      ∨ (∀ goOn, s.deed? scan actor ≠ some (.asks goOn)) ∧ next.asked = s.asked := by
  have hscheduler : s.deed? scan .scheduler
      = match s.scheduler with
        | .holding .. => some (.asks (scan.interrupt s.asked))
        | _ => none := rfl
  cases h with
  | calls here => exact .inr ⟨by rw [deed?_worker here]; rintro _ ⟨⟩, rfl⟩
  | asks here => exact .inl ⟨deed?_worker here, rfl⟩
  | ends here => exact .inr ⟨by rw [deed?_worker here]; rintro _ ⟨⟩, rfl⟩
  | breaks here => exact .inr ⟨by rw [deed?_worker here]; rintro _ ⟨⟩, rfl⟩
  | sends here room => exact .inr ⟨by rw [deed?_worker here]; rintro _ ⟨⟩, rfl⟩
  | leaves here => exact .inr ⟨by rw [deed?_worker here]; rintro _ ⟨⟩, rfl⟩
  | allStarted here => exact .inr ⟨by rw [hscheduler, here]; rintro _ ⟨⟩, rfl⟩
  | takes here free => exact .inr ⟨by rw [hscheduler, here]; rintro _ ⟨⟩, rfl⟩
  | starts here yes => exact .inl ⟨by rw [hscheduler, here], rfl⟩
  | stops here no => exact .inl ⟨by rw [hscheduler, here], rfl⟩
  | receives here sent => exact .inr ⟨by rw [hscheduler, here]; rintro _ ⟨⟩, rfl⟩
  | concludes here empty idle => exact .inr ⟨by rw [hscheduler, here]; rintro _ ⟨⟩, rfl⟩

end ScanState

namespace Scan

variable {scan : Scan} {tables : List String} {s mid next : ScanState}
  {history earlier later : List (Actor × Deed)}

namespace History

/-- What was done before and after is done from the first state to the last. -/
theorem trans (h : scan.History s earlier mid) (h' : scan.History mid later next) :
    scan.History s (earlier ++ later) next := by
  induction h' with
  | begins => rwa [List.append_nil]
  | turn actor _ moved ih =>
    rw [← List.append_assoc]
    exact .turn actor ih moved

/-- A history leads to a state that can be reached. -/
theorem reaches (h : scan.History (scan.start tables) history s) : scan.Reaches tables s := by
  induction h with
  | begins => exact .start
  | turn actor _ moved ih => exact .turn actor ih moved

/-- **Every state that can be reached has a history.** -/
theorem exists_of_reaches (h : scan.Reaches tables s) :
    ∃ history, scan.History (scan.start tables) history s := by
  induction h with
  | start => exact ⟨_, .begins⟩
  | turn actor _ moved ih =>
    obtain ⟨history, h⟩ := ih
    exact ⟨_, .turn actor h moved⟩

/-- **Turns that nobody refuses** are a history. -/
theorem exists_of_after? {turns : List Actor} (h : s.after? scan turns = some next) :
    ∃ history, scan.History s history next := by
  induction turns generalizing s with
  | nil =>
    obtain rfl := Option.some.inj h
    exact ⟨_, .begins⟩
  | cons actor rest ih =>
    rw [ScanState.after?, List.foldlM_cons] at h
    obtain ⟨mid, moved, hrest⟩ := Option.bind_eq_some_iff.mp h
    obtain ⟨history, hhistory⟩ := ih hrest
    exact ⟨_, (History.turn actor .begins moved).trans hhistory⟩

/-- No question is forgotten. -/
theorem asked_le (h : scan.History s history next) : s.asked ≤ next.asked := by
  induction h with
  | begins => exact le_rfl
  | turn actor _ moved ih =>
    rcases ScanState.asked_of_moves (ScanState.moves_of_turn? moved) with hasked | hasked
    · exact ih.trans hasked.ge
    · exact ih.trans ((Nat.le_succ _).trans hasked.ge)

/-- **The answers in a history** are those to the questions that were asked in its
course. -/
theorem exists_asks_iff (h : scan.History s history next) (goOn : Bool) :
    (∃ actor, (actor, .asks goOn) ∈ history)
      ↔ ∃ q, s.asked ≤ q ∧ q < next.asked ∧ scan.interrupt q = goOn := by
  induction h with
  | begins =>
    refine iff_of_false (fun ⟨_, hmem⟩ => absurd hmem List.not_mem_nil) ?_
    rintro ⟨q, hle, hlt, -⟩
    exact absurd hlt (Nat.not_lt.mpr hle)
  | @turn history mid next actor before moved ih =>
    simp only [List.mem_append, exists_or]
    rw [ih]
    rcases ScanState.deed?_of_moves (ScanState.moves_of_turn? moved) with ⟨hasks, hone⟩ | ⟨hno, hsame⟩
    · rw [hasks, hone]
      constructor
      · rintro (⟨q, hle, hlt, hanswer⟩ | ⟨other, hmem⟩)
        · exact ⟨q, hle, hlt.trans (Nat.lt_succ_self _), hanswer⟩
        · obtain ⟨-, hanswer⟩ := Prod.mk.inj (List.mem_singleton.mp hmem)
          exact ⟨mid.asked, before.asked_le, Nat.lt_succ_self _, (Deed.asks.inj hanswer).symm⟩
      · rintro ⟨q, hle, hlt, hanswer⟩
        rcases Nat.lt_succ_iff_lt_or_eq.mp hlt with hlt | rfl
        · exact .inl ⟨q, hle, hlt, hanswer⟩
        · exact .inr ⟨actor, List.mem_singleton.mpr (by rw [hanswer])⟩
    · rw [hsame]
      refine or_iff_left ?_
      rintro ⟨other, hmem⟩
      obtain ⟨deed, hdeed, heq⟩ := List.mem_map.mp hmem
      obtain ⟨-, rfl⟩ := Prod.mk.inj heq
      exact hno goOn (Option.mem_toList.mp hdeed)

/-- **A history is a life of each worker**: it leads the worker from where it was, or
from the beginning of its table if it was not started yet. -/
theorem lives (h : scan.History s history next) (position : Nat) :
    (next.workers[position]? = none ∧ s.workers[position]? = none
        ∧ deedsOf position history = [])
      ∨ ∃ table first stage, next.workers[position]? = some ⟨table, stage⟩
        ∧ (s.workers[position]? = some ⟨table, first⟩
          ∨ s.workers[position]? = none ∧ first = .profiling (scan.activity position table))
        ∧ first.Lives (deedsOf position history) stage := by
  induction h with
  | begins =>
    cases hw : s.workers[position]? with
    | none => exact .inl ⟨rfl, rfl, rfl⟩
    | some w => exact .inr ⟨w.table, w.stage, w.stage, rfl, .inl rfl, .begins⟩
  | @turn history mid next actor before moved ih =>
    have hmoves := ScanState.moves_of_turn? moved
    rw [deedsOf_append, deedsOf_map]
    cases actor with
    | scheduler =>
      rw [if_neg (by rintro ⟨⟩), List.append_nil]
      rcases ScanState.workers_of_schedulerMoves hmoves with hsame | ⟨table, hnew⟩
      · rwa [hsame]
      · rw [hnew]
        rcases ih with ⟨hmid, hs, hnone⟩ | ⟨table', first, stage, hmid, hrest⟩
        · rcases Nat.lt_or_eq_of_le (List.getElem?_eq_none_iff.mp hmid) with hlt | rfl
          · left
            refine ⟨List.getElem?_eq_none ?_, hs, hnone⟩
            rw [List.length_append]
            exact hlt
          · right
            refine ⟨table, _, _, List.getElem?_concat_length, .inr ⟨hs, rfl⟩, ?_⟩
            rw [hnone]
            exact .begins
        · right
          refine ⟨table', first, stage, ?_, hrest⟩
          rw [List.getElem?_append_left (List.getElem?_eq_some_iff.mp hmid).1]
          exact hmid
    | worker other =>
      obtain ⟨front, w, stage', back, here, rfl, now, hstep⟩ := ScanState.step_of_moves hmoves
      by_cases hmine : front.length = position
      · subst hmine
        rw [if_pos rfl, now, getElem?_here]
        rw [here, getElem?_here] at ih
        rcases ih with ⟨⟨⟩, -⟩ | ⟨table, first, stage, hmid, hfirst, hlives⟩
        obtain rfl := Option.some.inj hmid
        exact .inr ⟨table, first, stage', rfl, hfirst, .step hlives hstep⟩
      · rw [if_neg (fun h => hmine (Actor.worker.inj h)), List.append_nil, now]
        rwa [here, getElem?_elsewhere (Ne.symm hmine) (b := { w with stage := stage' })] at ih

end History

end Scan

end TableProfile
