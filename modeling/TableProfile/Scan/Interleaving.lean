import TableProfile.Scan.Outcome

/-!
# A scan with several workers

When several tables are looked at at the same time, each of them has a
worker, and there is one scheduler. A worker needs one of a fixed number
of permits. The scheduler takes a permit, asks whether to go on, and
hands the permit to a new worker; when all tables are handed out, or it
is not to go on, it collects what the workers send. A worker sends how
its table ended and only then gives the permit back. A worker that breaks
down gives the permit back and sends nothing.

What each of them does next is determined by where it stands, so all that
is open is *whose turn it is*. A scan is therefore a state with a step
for each actor, and an interleaving is a list of turns. A turn may be
refused: the scheduler waits for a permit or for a message, a worker for
room in the channel.

Looking at the tables one after the other is one of the interleavings.
What all of them have in common is what the scan promises.
-/

namespace TableProfile

/-- **What a worker is at.** -/
inductive WorkerStage where
  /-- It looks at its table. -/
  | profiling (activity : Activity)
  /-- It has a result to send. -/
  | sending (result : TableResult)
  /-- It has sent its result, and still has its permit. -/
  | leaving
  /-- It is done. -/
  | gone
  /-- It broke down. -/
  | broken

/-- Whether a worker at this stage has a permit. -/
def WorkerStage.holdsPermit : WorkerStage → Bool
  | profiling _ | sending _ | leaving => true
  | gone | broken => false

/-- Whether a worker broke down. -/
def WorkerStage.isBroken : WorkerStage → Bool
  | broken => true
  | _ => false

/-- A worker and the table it was started for. -/
structure Worker where
  /-- The name of the table. -/
  table : String
  /-- What the worker is at. -/
  stage : WorkerStage

/-- A result on its way. -/
structure Message where
  /-- The position at which the table was asked for. -/
  position : Nat
  /-- The name of the table. -/
  table : String
  /-- How its profile ended. -/
  result : TableResult

/-- **What the scheduler is at.** -/
inductive SchedulerStage where
  /-- These tables have no worker yet. -/
  | starting (waiting : List String)
  /-- It has a permit for a table, and these are left after it. -/
  | holding (table : String) (waiting : List String)
  /-- It collects results. -/
  | collecting
  /-- The scan has ended. -/
  | finished (outcome : Outcome)

/-- **The state of a scan with workers.** A worker is known by its
position, which is that of its table in the request. -/
structure ScanState where
  /-- What the scheduler is at. -/
  scheduler : SchedulerStage
  /-- The workers that were started. -/
  workers : List Worker := []
  /-- The permits that nobody has. -/
  freePermits : Nat
  /-- The results that were sent and not yet received, the oldest first. -/
  channel : List Message := []
  /-- How many results the channel can hold. -/
  capacity : Nat
  /-- What was received. -/
  collected : Collected
  /-- How many questions were asked. -/
  asked : Nat := 0

/-- Whose turn it is. -/
inductive Actor where
  /-- The scheduler. -/
  | scheduler
  /-- The worker at a position. -/
  | worker (position : Nat)
  deriving DecidableEq, Repr

namespace ScanState

/-- Sets the stage of a worker. -/
def setStage (s : ScanState) (position : Nat) (stage : WorkerStage) : ScanState :=
  { s with workers := s.workers.modify position fun w => { w with stage } }

/-- Gives a permit back. -/
def release (s : ScanState) : ScanState :=
  { s with freePermits := s.freePermits + 1 }

/-- The permits that somebody has. -/
def permitsHeld (s : ScanState) : Nat :=
  let atScheduler := match s.scheduler with
    | .holding .. => 1
    | _ => 0
  s.workers.countP (·.stage.holdsPermit) + atScheduler

/-- The tables whose workers broke down, in the order of the request. -/
def brokenTables (s : ScanState) : List String :=
  (s.workers.filter (·.stage.isBroken)).map (·.table)

/-- **The turn of a worker**, if it can move. -/
def workerTurn? (scan : Scan) (s : ScanState) (position : Nat) : Option ScanState :=
  match s.workers[position]? with
  | none => none
  | some worker =>
    match worker.stage with
    | .profiling (.calls _ next) => some (s.setStage position (.profiling (next ())))
    | .profiling (.asks next) =>
      some { s.setStage position (.profiling (next (scan.interrupt s.asked))) with
        asked := s.asked + 1 }
    | .profiling (.ended result) => some (s.setStage position (.sending result))
    | .profiling .brokenDown => some (s.setStage position .broken).release
    | .sending result =>
      if s.channel.length < s.capacity then
        some { s.setStage position .leaving with
          channel := s.channel ++ [⟨position, worker.table, result⟩] }
      else none
    | .leaving => some (s.setStage position .gone).release
    | .gone | .broken => none

/-- **The turn of the scheduler**, if it can move. -/
def schedulerTurn? (scan : Scan) (s : ScanState) : Option ScanState :=
  match s.scheduler with
  | .starting [] => some { s with scheduler := .collecting }
  | .starting (table :: waiting) =>
    if 0 < s.freePermits then
      some { s with scheduler := .holding table waiting, freePermits := s.freePermits - 1 }
    else none
  | .holding table waiting =>
    let next := { s with asked := s.asked + 1 }
    if scan.interrupt s.asked then
      some { next with
        scheduler := .starting waiting
        workers := s.workers ++
          [⟨table, .profiling (scan.activity s.workers.length table)⟩] }
    else some { next.release with
      scheduler := .collecting
      collected := { s.collected with canceled := true } }
  | .collecting =>
    match s.channel with
    | message :: rest =>
      some { s with
        channel := rest
        collected := s.collected.receive message.position message.table message.result }
    | [] =>
      if s.workers.any (·.stage.holdsPermit) then none
      else some { s with scheduler := .finished (s.collected.conclude s.brokenTables) }
  | .finished _ => none

/-- **The turn of an actor**, if it can move. -/
def turn? (scan : Scan) (s : ScanState) : Actor → Option ScanState
  | .scheduler => s.schedulerTurn? scan
  | .worker position => s.workerTurn? scan position

/-- The state after turns, if none of them is refused. -/
def after? (scan : Scan) (s : ScanState) (turns : List Actor) : Option ScanState :=
  turns.foldlM (turn? scan) s

/-- The outcome, once the scan has ended. -/
def outcome? (s : ScanState) : Option Outcome :=
  match s.scheduler with
  | .finished outcome => some outcome
  | _ => none

end ScanState

namespace Scan

/-- The state in which a scan of tables begins, once it has its permits. -/
def start (scan : Scan) (tables : List String) : ScanState where
  scheduler := .starting tables
  freePermits := scan.settings.concurrency
  capacity := tables.length
  collected := { progress := .start tables.length }

/-- **The states a scan can reach**, whoever's turn it is. -/
inductive Reaches (scan : Scan) (tables : List String) : ScanState → Prop where
  /-- The state in which the scan begins. -/
  | start : Reaches scan tables (scan.start tables)
  /-- A state after the turn of an actor. -/
  | turn {s next : ScanState} (actor : Actor) (before : Reaches scan tables s)
      (moved : s.turn? scan actor = some next) : Reaches scan tables next

/-- The outcomes a scan can have. -/
def Ends (scan : Scan) (tables : List String) (outcome : Outcome) : Prop :=
  ∃ s, Reaches scan tables s ∧ s.outcome? = some outcome

/-- **What a scan can return** that has its permits, whoever's turn it is. A
request that cannot be met is refused before any turn. -/
def Returns (scan : Scan) (tables : List String) (result : Except ProfileError Outcome) : Prop :=
  match scan.requestFault? tables with
  | some e => result = .error e
  | none => ∃ outcome, Ends scan tables outcome ∧ result = .ok outcome

/-- **What a scan can come to**, whoever's turn it is. -/
inductive ComesTo (scan : Scan) (tables : List String) : Answer Outcome → Prop where
  /-- The request cannot be met. -/
  | refused {e : ProfileError} (fault : scan.requestFault? tables = some e) :
      ComesTo scan tables (.failure e)
  /-- There cannot be so many permits. -/
  | breaksDown (met : scan.requestFault? tables = none)
      (tooMany : maxPermits < scan.settings.concurrency) : ComesTo scan tables .breakdown
  /-- The scan has its permits, and ends. -/
  | ends {outcome : Outcome} (met : scan.requestFault? tables = none)
      (permitted : scan.settings.concurrency ≤ maxPermits) (h : Ends scan tables outcome) :
      ComesTo scan tables (.value outcome)

end Scan

end TableProfile
