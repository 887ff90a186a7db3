import TableProfile.Proofs.Outcomes

/-!
# Nobody disturbs a completed scan

A scan that ends completed was told to go on each time it asked, and none of
its tables ended as canceled by itself. So it might as well never have asked:
the same turns can be taken by the scan that is never told to stop, and it
ends with the same outcome (`Scan.ends_undisturbed`). What is true of every
scan that is never told to stop is therefore true of every scan that
completes, whatever it would have been told later.

No assumption about the source is needed. One that cancels by itself does not
let a scan complete as soon as one of its tables is handed out.
-/

namespace TableProfile

/-- The scan that is never told to stop. -/
def Scan.undisturbed (scan : Scan) : Scan :=
  { scan with interrupt := .never }

namespace ScanState

variable {scan : Scan} {tables : List String} {s next : ScanState} {actor : Actor}

/-- **A turn does not depend on answers that are not asked for.** If all
questions so far were answered with *go on*, the turn can be taken by the scan
that is never told to stop. -/
theorem turn?_undisturbed (h : s.turn? scan actor = some next)
    (goesOn : ∀ q < next.asked, scan.interrupt q = true) :
    s.turn? scan.undisturbed actor = some next := by
  refine turn?_of_moves ?_
  -- the only turns that look at an answer count a question
  cases moves_of_turn? h with
  | calls here => exact .calls here
  | asks here =>
    have hyes : scan.interrupt s.asked = true := goesOn _ (Nat.lt_succ_self _)
    rw [hyes]
    exact .asks here
  | ends here => exact .ends here
  | breaks here => exact .breaks here
  | sends here room => exact .sends here room
  | leaves here => exact .leaves here
  | allStarted here => exact .allStarted here
  | takes here free => exact .takes here free
  | starts here yes => exact .starts here rfl
  | stops here no =>
    have hyes : scan.interrupt s.asked = true := goesOn _ (Nat.lt_succ_self _)
    cases no.symm.trans hyes
  | receives here sent => exact .receives here sent
  | concludes here empty idle => exact .concludes here empty idle

/-- **A state that was reached undisturbed** is reached by the scan that is
never told to stop. -/
theorem reaches_undisturbed (h : scan.Reaches tables s)
    (goesOn : ∀ q < s.asked, scan.interrupt q = true) :
    scan.undisturbed.Reaches tables s := by
  induction h with
  | start => exact .start
  | @turn s next actor before moved ih =>
    have hasked : s.asked ≤ next.asked := by
      rcases asked_of_moves (moves_of_turn? moved) with hasked | hasked
      · exact hasked.ge
      · exact (Nat.le_succ _).trans hasked.ge
    exact .turn actor (ih fun q hq => goesOn q (hq.trans_le hasked))
      (turn?_undisturbed moved goesOn)

/-- As long as nobody is told to stop, no table is forgotten. -/
theorem requested_of_reaches (h : scan.Reaches tables s)
    (goesOn : ∀ q < s.asked, scan.interrupt q = true) :
    s.workers.map (·.table) ++ s.waiting = tables := by
  induction h with
  | start => rfl
  | @turn s next actor before moved ih =>
    have hmoves := moves_of_turn? moved
    have hasked : ∀ q < s.asked, scan.interrupt q = true := by
      intro q hq
      rcases asked_of_moves hmoves with hasked | hasked
      · exact goesOn q (hasked ▸ hq)
      · exact goesOn q (hasked ▸ hq.trans (Nat.lt_succ_self _))
    rcases requested_of_moves hmoves with hsame | ⟨⟨hnext, hno⟩, -⟩
    · exact hsame.trans (ih hasked)
    · have hyes := goesOn s.asked (hnext ▸ Nat.lt_succ_self _)
      rw [hno] at hyes
      cases hyes

end ScanState

namespace Scan

variable {scan : Scan} {tables : List String} {outcome : Outcome}

/-- **A completed scan was not disturbed**: it could have been a scan that is
never told to stop, and no table of the request ends as canceled. -/
theorem ends_undisturbed (h : scan.Ends tables outcome) (completed : outcome.canceled = false) :
    scan.undisturbed.Ends tables outcome
      ∧ ∀ i table, tables[i]? = some table → (scan.ending i table).isCancellation = false := by
  obtain ⟨s, reaches, hended⟩ := h
  have ended := (ScanState.balanced_of_reaches reaches).settled.endedWith hended
  have huntold : ¬ s.toldToStop = true := by
    rw [ScanState.toldToStop_of_ended ended, completed]
    exact Bool.false_ne_true
  rw [ScanState.toldToStop_iff_of_reaches reaches, not_or] at huntold
  obtain ⟨hasked, hitself⟩ := huntold
  have goesOn : ∀ q < s.asked, scan.interrupt q = true :=
    fun q hq => Bool.of_not_eq_false fun hno => hasked ⟨q, hq, hno⟩
  have hrequested := ScanState.requested_of_reaches reaches goesOn
  rw [ended.waiting, List.append_nil] at hrequested
  refine ⟨⟨s, ScanState.reaches_undisturbed reaches goesOn, hended⟩, fun i table htable => ?_⟩
  refine Bool.of_not_eq_true fun hcancels => hitself ⟨i, table, ?_, hcancels⟩
  rwa [hrequested]

end Scan

end TableProfile
