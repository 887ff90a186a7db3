import Mathlib.Algebra.Order.Group.Multiset
import Mathlib.Tactic.Abel
import TableProfile.Proofs.Histories

/-!
# Nothing is lost on the way

What a table comes to passes through several hands: its worker, the channel,
the collection. At each moment it is in one of them only, and what a scan
will come to is what has been collected, together with what is on its way,
what the workers are heading for, and what the waiting tables will be good
for. Counted in this way, with multiplicity, the whole does not change
(`total_of_moves`), whoever's turn it is. Only a scan that is told to stop
drops something, and it never adds anything.

How a table counts is left open. An `Account` says what a table is worth by
how it ended, and what has been collected of it; the two accounts that are
kept here are those of the reports, with their positions, and of the
failures.
-/

namespace TableProfile

/-- **The ending that a table is heading for**, asked for at a position. -/
def Scan.ending (scan : Scan) (position : Nat) (table : String) : Ending :=
  (scan.activity position table).uninterrupted

/-- What a worker is heading for, if that was not sent yet. -/
def WorkerStage.prospect : WorkerStage → Option Ending
  | profiling activity => some activity.uninterrupted
  | sending result => some (.result result)
  | leaving => none
  | gone => none
  | broken => some .breakdown

/-- **An account**: what tables are worth by how they ended, and what has
been collected of it. -/
structure Account (γ : Type) where
  /-- What a table is worth that was asked for at a position. -/
  value : Nat → String → Ending → List γ
  /-- What has been collected. -/
  taken : Collected → List γ
  /-- What is received is collected. -/
  taken_receive : ∀ c position table result,
    taken (c.receive position table result) = taken c ++ value position table (.result result)
  /-- To be told to stop takes nothing back. -/
  taken_canceled : ∀ c, taken { c with canceled := true } = taken c
  /-- A table that was told to stop is worth nothing. -/
  value_canceled : ∀ position table, value position table .canceled = []

namespace Account

variable {γ : Type} (A : Account γ) (scan : Scan) (s : ScanState)

/-- What a worker at a position has that was not sent yet. -/
def ofWorker (position : Nat) (w : Worker) : List γ :=
  match w.stage.prospect with
  | some ending => A.value position w.table ending
  | none => []

/-- What tables are good for, the first of them asked for at a position. -/
def ofTables (position : Nat) (tables : List String) : List γ :=
  (tables.mapIdx fun i table =>
    A.value (position + i) table (scan.ending (position + i) table)).flatten

/-- What is on its way. -/
def underWay : List γ :=
  s.channel.flatMap fun m => A.value m.position m.table (.result m.result)

/-- **What the scan will come to if it hands out no more tables**, and is not told to
stop. -/
def begun : Multiset γ :=
  (A.taken s.collected : Multiset γ) + (A.underWay s : Multiset γ)
    + ((s.workers.mapIdx A.ofWorker).flatten : Multiset γ)

/-- **What the scan will come to**, if it is not told to stop. -/
def total : Multiset γ :=
  (A.taken s.collected : Multiset γ) + (A.underWay s : Multiset γ)
    + ((s.workers.mapIdx A.ofWorker).flatten : Multiset γ)
    + (A.ofTables scan s.workers.length s.waiting : Multiset γ)

theorem total_eq_begun_add :
    A.total scan s = A.begun s + (A.ofTables scan s.workers.length s.waiting : Multiset γ) :=
  rfl

theorem ofTables_cons (position : Nat) (table : String) (tables : List String) :
    A.ofTables scan position (table :: tables)
      = A.value position table (scan.ending position table)
        ++ A.ofTables scan (position + 1) tables := by
  unfold ofTables
  rw [List.mapIdx_cons, List.flatten_cons]
  refine congrArg (A.value position table (scan.ending position table) ++ ·) ?_
  refine congrArg List.flatten (congrArg (List.mapIdx · tables) ?_)
  funext i table
  rw [Nat.add_right_comm, Nat.add_assoc]

/-- What tables are good for comes from one of them. -/
theorem mem_ofTables {tables : List String} {a : γ} :
    a ∈ A.ofTables scan 0 tables ↔ ∃ (i : Nat) (table : String), tables[i]? = some table
      ∧ a ∈ A.value i table (scan.ending i table) := by
  unfold ofTables
  rw [List.mem_flatten]
  constructor
  · rintro ⟨l, hl, hmem⟩
    obtain ⟨i, hi, rfl⟩ := List.mem_mapIdx.mp hl
    rw [Nat.zero_add] at hmem
    exact ⟨i, tables[i], List.getElem?_eq_getElem hi, hmem⟩
  · rintro ⟨i, table, htable, hmem⟩
    obtain ⟨hi, rfl⟩ := List.getElem?_eq_some_iff.mp htable
    refine ⟨_, List.mem_mapIdx.mpr ⟨i, hi, rfl⟩, ?_⟩
    rwa [Nat.zero_add]

variable {A scan s} {next : ScanState} {actor : Actor}

/-- **One worker apart**, what it has is one share of the whole. -/
theorem exists_rest (A : Account γ) {before after : List Worker} {w : Worker}
    (here : s.workers = before ++ w :: after) :
    ∃ rest : Multiset γ,
      A.begun s
          = rest + (A.underWay s : Multiset γ) + (A.ofWorker before.length w : Multiset γ)
        ∧ ∀ (next : ScanState) (w' : Worker), next.workers = before ++ w' :: after →
          next.collected = s.collected →
          A.begun next
            = rest + (A.underWay next : Multiset γ)
              + (A.ofWorker before.length w' : Multiset γ) := by
  have hworkers : ∀ v : Worker, (((before ++ v :: after).mapIdx A.ofWorker).flatten : Multiset γ)
      = ((before.mapIdx A.ofWorker).flatten : Multiset γ)
        + (A.ofWorker before.length v : Multiset γ)
        + ((after.mapIdx fun i => A.ofWorker (i + 1 + before.length)).flatten : Multiset γ) := by
    intro v
    rw [List.mapIdx_append, List.mapIdx_cons, List.flatten_append, List.flatten_cons,
      ← Multiset.coe_add, ← Multiset.coe_add, Nat.zero_add, add_assoc]
  refine ⟨(A.taken s.collected : Multiset γ) + ((before.mapIdx A.ofWorker).flatten : Multiset γ)
    + ((after.mapIdx fun i => A.ofWorker (i + 1 + before.length)).flatten : Multiset γ), ?_, ?_⟩
  · unfold begun
    rw [here, hworkers]
    abel
  · intro next w' now collected
    unfold begun
    rw [collected, now, hworkers]
    abel

/-- A worker that keeps what it has changes nothing. -/
theorem begun_eq_of_kept {before after : List Worker} {w w' : Worker}
    (here : s.workers = before ++ w :: after) (now : next.workers = before ++ w' :: after)
    (collected : next.collected = s.collected) (channel : next.channel = s.channel)
    (kept : A.ofWorker before.length w' = A.ofWorker before.length w) :
    A.begun next = A.begun s := by
  obtain ⟨rest, hs, hnext⟩ := exists_rest A here
  have hway : A.underWay next = A.underWay s := by
    unfold underWay
    rw [channel]
  rw [hs, hnext next w' now collected, hway, kept]

/-- A worker that drops what it has takes it away. -/
theorem begun_eq_of_dropped {before after : List Worker} {w w' : Worker}
    (here : s.workers = before ++ w :: after) (now : next.workers = before ++ w' :: after)
    (collected : next.collected = s.collected) (channel : next.channel = s.channel)
    (dropped : A.ofWorker before.length w' = []) :
    A.begun s = A.begun next + (A.ofWorker before.length w : Multiset γ) := by
  obtain ⟨rest, hs, hnext⟩ := exists_rest A here
  have hway : A.underWay next = A.underWay s := by
    unfold underWay
    rw [channel]
  rw [hs, hnext next w' now collected, hway, dropped]
  exact congrArg (· + _) (add_zero _).symm

theorem underWay_concat {position : Nat} {table : String} {result : TableResult}
    (channel : next.channel = s.channel ++ [⟨position, table, result⟩]) :
    A.underWay next = A.underWay s ++ A.value position table (.result result) := by
  unfold underWay
  rw [channel, List.flatMap_append, List.flatMap_singleton]

/-- A worker that sends what it has changes nothing. -/
theorem begun_eq_of_sent {before after : List Worker} {w w' : Worker} {l : List γ}
    (here : s.workers = before ++ w :: after) (now : next.workers = before ++ w' :: after)
    (collected : next.collected = s.collected) (sent : A.underWay next = A.underWay s ++ l)
    (had : A.ofWorker before.length w = l) (left : A.ofWorker before.length w' = []) :
    A.begun next = A.begun s := by
  obtain ⟨rest, hs, hnext⟩ := exists_rest A here
  rw [hs, hnext next w' now collected, sent, had, left, ← Multiset.coe_add, ← add_assoc]
  exact add_zero _

/-- **What the turn of a worker does**: nothing, unless the worker is told to stop. That
takes away what the worker had. -/
theorem begun_of_workerMoves {position : Nat} (h : Moves scan s (.worker position) next)
    (heeds : s.Heeds) :
    s.deed? scan (.worker position) ≠ some (.asks false) ∧ A.begun next = A.begun s
      ∨ s.deed? scan (.worker position) = some (.asks false)
        ∧ ∃ w, s.workers[position]? = some w
          ∧ A.begun s = A.begun next + (A.ofWorker position w : Multiset γ) := by
  cases h with
  | calls here =>
    exact .inl ⟨by rw [ScanState.deed?_worker here]; rintro ⟨⟩,
      begun_eq_of_kept here rfl rfl rfl rfl⟩
  | @asks before after table goOn here =>
    rw [ScanState.deed?_worker here]
    cases hanswer : scan.interrupt s.asked with
    | true => exact .inl ⟨by rintro ⟨⟩, begun_eq_of_kept here rfl rfl rfl rfl⟩
    | false =>
      -- what is told to stop is worth nothing
      have hstops : goOn false = .ended (.error .canceled) := by
        cases heeds _ (here ▸ List.mem_append_right _ List.mem_cons_self) _ rfl with
        | asks stops goesOn => exact stops
      have hnothing : A.ofWorker before.length ⟨table, .profiling (goOn false)⟩ = [] := by
        rw [hstops]
        exact A.value_canceled before.length table
      exact .inr ⟨rfl, _, by rw [here, getElem?_here],
        begun_eq_of_dropped here rfl rfl rfl hnothing⟩
  | ends here =>
    exact .inl ⟨by rw [ScanState.deed?_worker here]; rintro ⟨⟩,
      begun_eq_of_kept here rfl rfl rfl rfl⟩
  | breaks here =>
    exact .inl ⟨by rw [ScanState.deed?_worker here]; rintro ⟨⟩,
      begun_eq_of_kept here rfl rfl rfl rfl⟩
  | @sends before after table result here room =>
    exact .inl ⟨by rw [ScanState.deed?_worker here]; rintro ⟨⟩,
      begun_eq_of_sent here rfl rfl (underWay_concat rfl) rfl rfl⟩
  | leaves here =>
    exact .inl ⟨by rw [ScanState.deed?_worker here]; rintro ⟨⟩,
      begun_eq_of_kept here rfl rfl rfl rfl⟩

/-- **What the turn of the scheduler does**: nothing, unless it starts a worker. That adds
what the table of the worker is good for, which was the first to wait. No other table
stops waiting, unless the scheduler is told to stop. -/
theorem begun_of_schedulerMoves (h : Moves scan s .scheduler next) :
    next.workers = s.workers ∧ A.begun next = A.begun s
        ∧ (next.waiting = s.waiting ∨ scan.interrupt s.asked = false ∧ next.waiting = [])
      ∨ ∃ table, s.waiting = table :: next.waiting
        ∧ next.workers
          = s.workers ++ [⟨table, .profiling (scan.activity s.workers.length table)⟩]
        ∧ A.begun next = A.begun s
          + (A.value s.workers.length table (scan.ending s.workers.length table) : Multiset γ) := by
  unfold ScanState.waiting
  cases h with
  | allStarted here => exact .inl ⟨rfl, rfl, .inl (by rw [here])⟩
  | takes here free => exact .inl ⟨rfl, rfl, .inl (by rw [here])⟩
  | @starts table waiting here yes =>
    refine .inr ⟨table, by rw [here], rfl, ?_⟩
    unfold begun
    rw [List.mapIdx_concat, List.flatten_append, List.flatten_singleton, ← Multiset.coe_add,
      ← add_assoc]
    rfl
  | stops here no =>
    refine .inl ⟨rfl, ?_, .inr ⟨no, rfl⟩⟩
    unfold begun
    rw [A.taken_canceled]
    rfl
  | @receives message rest here sent =>
    -- what is received was on its way before
    refine .inl ⟨rfl, ?_, .inl rfl⟩
    unfold begun underWay
    rw [sent, A.taken_receive, List.flatMap_cons, ← Multiset.coe_add, ← Multiset.coe_add,
      add_assoc (A.taken s.collected : Multiset γ)]
  | concludes here empty idle => exact .inl ⟨rfl, rfl, .inl (by rw [here])⟩

/-- **A turn changes nothing in the whole**, unless somebody is told to
stop; then something may be dropped, but nothing is added. -/
theorem total_of_moves (h : Moves scan s actor next) (heeds : s.Heeds) :
    A.total scan next = A.total scan s
      ∨ scan.interrupt s.asked = false ∧ A.total scan next ≤ A.total scan s := by
  rw [total_eq_begun_add, total_eq_begun_add]
  cases actor with
  | scheduler =>
    rcases begun_of_schedulerMoves (A := A) h with
      ⟨hworkers, hbegun, hwaiting | ⟨no, hwaiting⟩⟩ | ⟨table, hwaiting, hworkers, hbegun⟩
    · left
      rw [hworkers, hbegun, hwaiting]
    · -- the tables that wait are dropped, whatever they were good for
      refine .inr ⟨no, ?_⟩
      rw [hbegun, hwaiting]
      exact add_le_add_right (Multiset.zero_le _) _
    · -- the first of the waiting tables is now that of the last worker
      left
      rw [hbegun, hwaiting, hworkers, List.length_append, ofTables_cons, ← Multiset.coe_add,
        ← add_assoc]
      rfl
  | worker position =>
    obtain ⟨before, w, stage, after, here, -, now, -⟩ := ScanState.step_of_moves h
    have hlength : next.workers.length = s.workers.length := by
      rw [here, now, List.length_append, List.length_append]
      rfl
    rw [hlength, ScanState.waiting_of_workerMoves h]
    rcases begun_of_workerMoves (A := A) h heeds with ⟨-, hbegun⟩ | ⟨hdeed, w, -, hbegun⟩
    · exact .inl (congrArg (· + _) hbegun)
    · have no : scan.interrupt s.asked = false := by
        rcases ScanState.deed?_of_moves h with ⟨hasks, -⟩ | ⟨hnone, -⟩
        · exact Deed.asks.inj (Option.some.inj (hasks.symm.trans hdeed))
        · exact absurd hdeed (hnone false)
      refine .inr ⟨no, add_le_add_left ?_ _⟩
      rw [hbegun]
      exact Multiset.le_add_right _ _

/-! ## Whole runs -/

variable {tables : List String}

theorem total_start (A : Account γ) (scan : Scan) (tables : List String)
    (nothing : A.taken (scan.start tables).collected = []) :
    A.total scan (scan.start tables) = (A.ofTables scan 0 tables : Multiset γ) := by
  unfold total
  rw [nothing]
  exact (congrArg (· + _) ((add_zero _).trans (add_zero _))).trans (zero_add _)

/-- **Nothing is added** to what the tables are good for. -/
theorem total_le_of_reaches (h : scan.Reaches tables s)
    (nothing : A.taken (scan.start tables).collected = []) :
    A.total scan s ≤ (A.ofTables scan 0 tables : Multiset γ) := by
  induction h with
  | start => exact (total_start A scan tables nothing).le
  | turn actor before moved ih =>
    have heeds := (ScanState.balanced_of_reaches before).heeds
    rcases total_of_moves (A := A) (ScanState.moves_of_turn? moved) heeds with h | ⟨-, h⟩
    · exact h.le.trans ih
    · exact h.trans ih

/-- **Nothing is lost** as long as nobody is told to stop. -/
theorem total_eq_of_reaches (h : scan.Reaches tables s) (goesOn : ∀ q, scan.interrupt q = true)
    (nothing : A.taken (scan.start tables).collected = []) :
    A.total scan s = (A.ofTables scan 0 tables : Multiset γ) := by
  induction h with
  | start => exact total_start A scan tables nothing
  | @turn s next actor before moved ih =>
    have heeds := (ScanState.balanced_of_reaches before).heeds
    rcases total_of_moves (A := A) (ScanState.moves_of_turn? moved) heeds with h | ⟨hno, -⟩
    · exact h.trans ih
    · rw [goesOn s.asked] at hno
      cases hno

/-- **At the end** the whole is what was collected, and what the workers had
that broke down. -/
theorem total_of_ended (A : Account γ) (scan : Scan) {outcome : Outcome}
    (ended : s.EndedWith outcome) :
    A.total scan s
      = (A.taken s.collected : Multiset γ)
        + ((s.workers.mapIdx A.ofWorker).flatten : Multiset γ) := by
  unfold total underWay
  rw [ended.channel, ended.waiting]
  exact (add_zero _).trans (congrArg (· + _) (add_zero _))

end Account

end TableProfile
