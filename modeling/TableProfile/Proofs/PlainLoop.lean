import TableProfile.Proofs.OneAtATime
import TableProfile.Proofs.Termination

/-!
# The plain loop is one of the interleavings

Looking at the tables one after the other is one of the ways in which a scan
with several workers can go (`Scan.comesTo_run`). So whatever holds of all
interleavings holds of the plain loop, and each scan has a result that can be
computed.

A turn that can be taken can also be taken with more permits at hand
(`ScanState.moves_withPermits`), so whatever fewer workers can come to, more
workers can come to. With one worker there is a way to the end, as every scan
ends, and at that end stands what the plain loop gives.
-/

namespace TableProfile

/-! ## What the number of workers does not change -/

namespace Activity

variable (source : Source) (settings : Settings) (seed : Nat → UInt64) (table : String) (n : Nat)

theorem throughRows_concurrency (rowCount : Option Int) (t : TableState) (rows : Rows) :
    throughRows table { settings with concurrency := n } rowCount t rows
      = throughRows table settings rowCount t rows := by
  induction rows generalizing t with
  | nil => rfl
  | cons answer rest ih =>
    unfold throughRows
    simp only [ih]
    rfl

/-- **The profile of a table does not depend on the number of workers.** -/
theorem ofTable_concurrency :
    ofTable source { settings with concurrency := n } seed table
      = ofTable source settings seed table := by
  unfold ofTable lookUpColumns countRows openRows
  simp only [throughRows_concurrency]
  rfl

end Activity

/-- The scan with another number of workers. -/
def Scan.withWorkers (scan : Scan) (n : Nat) : Scan :=
  { scan with settings := { scan.settings with concurrency := n } }

/-- The state with more permits that nobody has. -/
def ScanState.withPermits (s : ScanState) (n : Nat) : ScanState :=
  { s with freePermits := s.freePermits + n }

namespace Scan

variable (scan : Scan)

/-- With another number of workers, the same is done about each table. -/
theorem activity_withWorkers (n : Nat) : (scan.withWorkers n).activity = scan.activity := by
  funext position table
  exact Activity.ofTable_concurrency scan.source scan.settings (scan.seeds position) table n

/-- The plain loop has no use for workers. -/
theorem inOrder_withWorkers (n position asked : Nat) (c : Collected) (broken tables : List String) :
    (scan.withWorkers n).inOrder position asked c broken tables
      = scan.inOrder position asked c broken tables := by
  induction tables generalizing position asked c broken with
  | nil => rfl
  | cons table rest ih =>
    unfold inOrder
    simp only [activity_withWorkers, ih]
    rfl

end Scan

/-! ## More workers -/

namespace ScanState

variable {scan : Scan} {tables : List String} {s next : ScanState} {actor : Actor} {n : Nat}

/-- **A turn can also be taken with more permits.** -/
theorem moves_withPermits (h : Moves scan s actor next) (more : Nat) :
    Moves scan (s.withPermits more) actor (next.withPermits more) := by
  have hback : s.freePermits + 1 + more = s.freePermits + more + 1 := Nat.add_right_comm _ _ _
  cases h with
  | calls here => exact .calls here
  | asks here => exact .asks here
  | ends here => exact .ends here
  | breaks here =>
    unfold withPermits
    rw [hback]
    exact .breaks here
  | sends here room => exact .sends here room
  | leaves here =>
    unfold withPermits
    rw [hback]
    exact .leaves here
  | allStarted here => exact .allStarted here
  | takes here free =>
    -- the permit that is taken is one of those that were free before
    have htaken : s.freePermits - 1 + more = s.freePermits + more - 1 :=
      (Nat.sub_add_comm free).symm
    unfold withPermits
    rw [htaken]
    exact .takes here (Nat.add_pos_left free more)
  | starts here yes => exact .starts here yes
  | stops here no =>
    unfold withPermits
    rw [hback]
    exact .stops here no
  | receives here sent => exact .receives here sent
  | concludes here empty idle => exact .concludes here empty idle

/-- **What fewer workers can reach**, more workers can reach. -/
theorem reaches_withPermits (fewer : n ≤ scan.settings.concurrency)
    (h : (scan.withWorkers n).Reaches tables s) :
    scan.Reaches tables (s.withPermits (scan.settings.concurrency - n)) := by
  induction h with
  | start =>
    have hstart : ((scan.withWorkers n).start tables).withPermits (scan.settings.concurrency - n)
        = { scan.start tables with
            freePermits := n + (scan.settings.concurrency - n) } := rfl
    rw [hstart, Nat.add_sub_cancel' fewer]
    exact .start
  | turn actor before moved ih =>
    rw [turn?_eq_of_activity_eq (scan.activity_withWorkers n) rfl] at moved
    exact .turn actor ih (turn?_of_moves (moves_withPermits (moves_of_turn? moved) _))

end ScanState

namespace Scan

variable {scan : Scan} {tables : List String}

/-- What fewer workers can come to, more workers can come to. -/
theorem ends_of_fewer {n : Nat} {outcome : Outcome} (fewer : n ≤ scan.settings.concurrency)
    (h : (scan.withWorkers n).Ends tables outcome) : scan.Ends tables outcome := by
  obtain ⟨s, reaches, ended⟩ := h
  exact ⟨_, ScanState.reaches_withPermits fewer reaches, ended⟩

/-- **The plain loop is one way to the end.** -/
theorem ends_inOrder (accepted : scan.settings.validate = .ok ()) :
    scan.Ends tables (scan.inOrder 0 0 { progress := .start tables.length } [] tables) := by
  have haccepted := Settings.validate_eq_ok_iff.mp accepted
  have hsingle : (scan.withWorkers 1).settings.validate = .ok () :=
    Settings.validate_eq_ok_iff.mpr { haccepted with concurrency := Nat.one_pos }
  obtain ⟨outcome, hends⟩ : ∃ outcome, (scan.withWorkers 1).Ends tables outcome :=
    exists_ends hsingle
  have hplain := eq_inOrder_of_ends rfl hends
  rw [inOrder_withWorkers] at hplain
  exact hplain ▸ ends_of_fewer haccepted.concurrency hends

/-- **A scan can come to what the plain loop comes to**, with any settings, any
request and any answers. -/
theorem comesTo_run (scan : Scan) (tables : List String) :
    scan.ComesTo tables (scan.run tables) := by
  unfold run
  cases hfault : scan.requestFault? tables with
  | some e => exact .refused hfault
  | none =>
    dsimp only
    split
    · rename_i tooMany
      exact .breaksDown hfault tooMany
    · rename_i permitted
      refine .ends hfault (Nat.not_lt.mp permitted) (ends_inOrder ?_)
      unfold requestFault? at hfault
      cases haccepted : scan.settings.validate with
      | ok _ => rfl
      | error e =>
        rw [haccepted] at hfault
        cases hfault

end Scan

end TableProfile
