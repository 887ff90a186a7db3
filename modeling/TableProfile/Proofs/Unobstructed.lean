import TableProfile.Proofs.Completion
import TableProfile.Proofs.Histories

/-!
# Nobody stands in the way

The scheduler waits for permits before it receives anything, and a worker keeps its
permit until it has sent. If a worker could wait for room in the channel, the two would
wait for each other. It never does: a worker sends once in its life
(`WorkerStage.Lives.count_sends`), so the channel has room for all that is ever sent,
and a worker that has not sent yet finds a place.

Permits get lost nowhere else. Whoever has one gives it back, when it is done, when it
breaks down, when the scheduler is told to stop; and as long as a worker has one, that
worker can move. So some turn is possible in every state until the scan has ended, and
then all permits are free again (`Scan.unobstructed_of_reaches`). One permit is enough
for that. What the source does, and what the scan is told, is left open.
-/

namespace TableProfile

namespace WorkerStage

/-- Whether a worker is still at work. -/
def isAlive : WorkerStage → Bool
  | gone | broken => false
  | _ => true

/-- **Whoever is at work has a permit**, and nobody else has. -/
theorem isAlive_eq_holdsPermit (stage : WorkerStage) : stage.isAlive = stage.holdsPermit := by
  cases stage <;> rfl

/-- A step in which a worker sends is the one after which it has sent. -/
theorem Step.count_sends {stage next : WorkerStage} {deed : Option Deed}
    (h : stage.Step deed next) :
    stage.hasSent.toNat + deed.toList.count .sends = next.hasSent.toNat := by
  cases h <;> rfl

/-- **A worker sends once in its life**, and if it has sent it did. -/
theorem Lives.count_sends {first stage : WorkerStage} {deeds : List Deed}
    (h : first.Lives deeds stage) (unsent : first.hasSent = false) :
    deeds.count .sends = stage.hasSent.toNat := by
  induction h with
  | begins => rw [unsent]; rfl
  | step _ step ih => rw [List.count_append, ih, step.count_sends]

end WorkerStage

/-- **A scan is unobstructed** in a state that a history leads to. -/
structure Scan.Unobstructed (scan : Scan) (tables : List String)
    (history : List (Actor × Deed)) (s : ScanState) : Prop where
  /-- No more workers are at work at a time than are allowed. -/
  alive : s.workers.countP (·.stage.isAlive) ≤ scan.settings.concurrency
  /-- Every permit is free, or somebody has it. -/
  permits : s.freePermits + s.permitsHeld = scan.settings.concurrency
  /-- Nobody sent more than once. -/
  sends : ∀ position, history.count (.worker position, .sends) ≤ 1
  /-- There are never more results on their way than tables. -/
  channel : s.channel.length ≤ tables.length
  /-- Whoever is at work can move: a worker with a result has room to send it. -/
  moves : ∀ position w, s.workers[position]? = some w → w.stage.isAlive = true →
    ∃ next, s.turn? scan (.worker position) = some next
  /-- Until the scan has ended, somebody can move. -/
  goesOn : s.outcome? = none → ∃ actor next, s.turn? scan actor = some next
  /-- Once it has, all permits are free. -/
  released : ∀ outcome, s.outcome? = some outcome → s.freePermits = scan.settings.concurrency

/-- When a scan has ended, nobody has a permit. -/
theorem ScanState.EndedWith.permitsHeld_eq {s : ScanState} {outcome : Outcome}
    (ended : s.EndedWith outcome) : s.permitsHeld = 0 := by
  have hidle : s.workers.countP (·.stage.holdsPermit) = 0 := by
    refine List.countP_eq_zero.mpr fun w hw => ?_
    rcases ended.workers w hw with hstage | hstage
    · rw [hstage]
      exact Bool.false_ne_true
    · rw [hstage]
      exact Bool.false_ne_true
  have hwaiting := ended.waiting
  unfold ScanState.waiting at hwaiting
  unfold ScanState.permitsHeld
  rw [hidle]
  -- a scheduler that holds a permit has a table for it
  cases hscheduler : s.scheduler with
  | holding table waiting =>
    rw [hscheduler] at hwaiting
    cases hwaiting
  | _ => rfl

namespace Scan

variable {scan : Scan} {tables : List String} {s : ScanState} {history : List (Actor × Deed)}

/-- **Nobody sends twice.** -/
theorem History.count_sends_le (h : scan.History (scan.start tables) history s)
    (position : Nat) : history.count (.worker position, .sends) ≤ 1 := by
  rw [← count_deedsOf]
  rcases h.lives position with ⟨-, -, hnone⟩ | ⟨table, first, stage, -, hfirst, hlives⟩
  · rw [hnone]
    exact Nat.zero_le 1
  · rcases hfirst with ⟨⟨⟩⟩ | ⟨-, rfl⟩
    rw [hlives.count_sends rfl]
    exact Bool.toNat_le _

/-- **A scan is never stuck.** With at least one permit, whatever the number of tables,
whoever's turn it was, and whatever fails, breaks down or is told to stop: every state
that a scan can reach has a history, and whatever its history, no more workers are at
work in it than there are permits, and each permit is free or held. No worker has sent
more than once, so there are never more results on their way than tables, and a worker
at work can always move, also when it has a result to send. Until the scan has ended
somebody can move, and then all permits are free. -/
theorem unobstructed_of_reaches (permits : 0 < scan.settings.concurrency)
    (reaches : scan.Reaches tables s) :
    (∃ history, scan.History (scan.start tables) history s)
      ∧ ∀ history, scan.History (scan.start tables) history s →
        scan.Unobstructed tables history s := by
  refine ⟨History.exists_of_reaches reaches, fun history h => ?_⟩
  have balanced := ScanState.balanced_of_reaches reaches
  have hrequested := balanced.requested.length_le
  rw [List.length_append, List.length_map] at hrequested
  refine ⟨?_, balanced.permits, h.count_sends_le, ?_, fun position w hw alive => ?_,
    ScanState.exists_turn_of_outcome?_eq_none reaches permits, fun outcome hended => ?_⟩
  · simp only [WorkerStage.isAlive_eq_holdsPermit]
    calc s.workers.countP (·.stage.holdsPermit) ≤ s.permitsHeld := Nat.le_add_right _ _
      _ ≤ s.freePermits + s.permitsHeld := Nat.le_add_left _ _
      _ = scan.settings.concurrency := balanced.permits
  · calc s.channel.length ≤ s.workers.countP (·.stage.hasSent) := balanced.sent
      _ ≤ s.workers.length := List.countP_le_length
      _ ≤ s.workers.length + s.waiting.length := Nat.le_add_right _ _
      _ ≤ tables.length := hrequested
  · rw [WorkerStage.isAlive_eq_holdsPermit] at alive
    exact ScanState.exists_turn_of_holdsPermit balanced hw alive
  · have hnone := (balanced.settled.endedWith hended).permitsHeld_eq
    rw [← balanced.permits, hnone, Nat.add_zero]

/-- Two workers have both permits. Whatever they come to, they can move, and the
scheduler has to wait for one of them. -/
theorem unobstructed_of_reaches_two_workers :
    let scan : Scan := { source := threeTables, settings := { concurrency := 2 } }
    let tables := ["kept", "lost", "broken", "kept"]
    ∃ history s, scan.History (scan.start tables) history s
      ∧ s.workers.countP (·.stage.isAlive) = 2 ∧ s.turn? scan .scheduler = none
      ∧ scan.Unobstructed tables history s
      ∧ (∃ next, s.turn? scan (.worker 0) = some next)
      ∧ ∃ next, s.turn? scan (.worker 1) = some next := by
  intro scan tables
  have h : scan.History (scan.start tables) _ _ :=
    .turn .scheduler (.turn .scheduler (.turn .scheduler (.turn .scheduler .begins rfl) rfl) rfl)
      rfl
  have permits : 0 < scan.settings.concurrency := Nat.succ_pos 1
  have unobstructed := (unobstructed_of_reaches permits h.reaches).2 _ h
  exact ⟨_, _, h, rfl, rfl, unobstructed, unobstructed.moves 0 _ rfl rfl,
    unobstructed.moves 1 _ rfl rfl⟩

end Scan

end TableProfile
