import TableProfile.Scan.Interleaving

/-!
# What a turn can do

A scan with several workers moves in turns, and what a turn does is
determined by whose it is. This module lists the turns once, each with what
must be the case before it and with the state after it (`Moves`). What is
true of every state a scan can reach is then shown turn by turn, and no proof
opens the definition of a turn again.

A worker is found in the list of workers by the workers that were started
before it, as that is how many there are at its position.
-/

namespace TableProfile

/-- The element that stands behind some others. -/
theorem getElem?_here {α : Type} {before after : List α} {a : α} :
    (before ++ a :: after)[before.length]? = some a := by
  rw [List.getElem?_append_right (Nat.le_refl _), Nat.sub_self]
  rfl

/-- As many elements stand before one as its position says. -/
theorem exists_eq_append_of_getElem? {α : Type} {l : List α} {position : Nat} {a : α}
    (h : l[position]? = some a) :
    ∃ before after, l = before ++ a :: after ∧ before.length = position := by
  obtain ⟨hlt, hget⟩ := List.getElem?_eq_some_iff.mp h
  refine ⟨l.take position, l.drop (position + 1), ?_, List.length_take_of_le (Nat.le_of_lt hlt)⟩
  rw [← hget, List.getElem_cons_drop, List.take_append_drop]

open ScanState

/-- **The turns of a scan.** -/
inductive Moves (scan : Scan) (s : ScanState) : Actor → ScanState → Prop
  /-- A worker calls the source. -/
  | calls {before after : List Worker} {table : String} {call : SourceCall}
      {next : Unit → Activity}
      (here : s.workers = before ++ ⟨table, .profiling (.calls call next)⟩ :: after) :
      Moves scan s (.worker before.length)
        { s with workers := before ++ ⟨table, .profiling (next ())⟩ :: after }
  /-- A worker asks whether to go on. -/
  | asks {before after : List Worker} {table : String} {next : Bool → Activity}
      (here : s.workers = before ++ ⟨table, .profiling (.asks next)⟩ :: after) :
      Moves scan s (.worker before.length)
        { s with
          workers := before ++ ⟨table, .profiling (next (scan.interrupt s.asked))⟩ :: after
          asked := s.asked + 1 }
  /-- A worker comes to the end of its table. -/
  | ends {before after : List Worker} {table : String} {result : TableResult}
      (here : s.workers = before ++ ⟨table, .profiling (.ended result)⟩ :: after) :
      Moves scan s (.worker before.length)
        { s with workers := before ++ ⟨table, .sending result⟩ :: after }
  /-- A worker breaks down, and its permit is free again. -/
  | breaks {before after : List Worker} {table : String}
      (here : s.workers = before ++ ⟨table, .profiling .brokenDown⟩ :: after) :
      Moves scan s (.worker before.length)
        { s with
          workers := before ++ ⟨table, .broken⟩ :: after
          freePermits := s.freePermits + 1 }
  /-- A worker sends its result. -/
  | sends {before after : List Worker} {table : String} {result : TableResult}
      (here : s.workers = before ++ ⟨table, .sending result⟩ :: after)
      (room : s.channel.length < s.capacity) :
      Moves scan s (.worker before.length)
        { s with
          workers := before ++ ⟨table, .leaving⟩ :: after
          channel := s.channel ++ [⟨before.length, table, result⟩] }
  /-- A worker gives its permit back. -/
  | leaves {before after : List Worker} {table : String}
      (here : s.workers = before ++ ⟨table, .leaving⟩ :: after) :
      Moves scan s (.worker before.length)
        { s with
          workers := before ++ ⟨table, .gone⟩ :: after
          freePermits := s.freePermits + 1 }
  /-- The scheduler has no more tables to hand out. -/
  | allStarted (here : s.scheduler = .starting []) :
      Moves scan s .scheduler { s with scheduler := .collecting }
  /-- The scheduler takes a permit for the next table. -/
  | takes {table : String} {waiting : List String}
      (here : s.scheduler = .starting (table :: waiting)) (free : 0 < s.freePermits) :
      Moves scan s .scheduler
        { s with scheduler := .holding table waiting, freePermits := s.freePermits - 1 }
  /-- The scheduler is told to go on and starts a worker. -/
  | starts {table : String} {waiting : List String}
      (here : s.scheduler = .holding table waiting) (yes : scan.interrupt s.asked = true) :
      Moves scan s .scheduler
        { s with
          asked := s.asked + 1
          scheduler := .starting waiting
          workers := s.workers ++
            [⟨table, .profiling (scan.activity s.workers.length table)⟩] }
  /-- The scheduler is told to stop, and gives the permit back. -/
  | stops {table : String} {waiting : List String}
      (here : s.scheduler = .holding table waiting) (no : scan.interrupt s.asked = false) :
      Moves scan s .scheduler
        { s with
          asked := s.asked + 1
          freePermits := s.freePermits + 1
          scheduler := .collecting
          collected := { s.collected with canceled := true } }
  /-- The scheduler receives a result. -/
  | receives {message : Message} {rest : List Message} (here : s.scheduler = .collecting)
      (sent : s.channel = message :: rest) :
      Moves scan s .scheduler
        { s with
          channel := rest
          collected := s.collected.receive message.position message.table message.result }
  /-- The scheduler ends the scan. -/
  | concludes (here : s.scheduler = .collecting) (empty : s.channel = [])
      (idle : s.workers.any (·.stage.holdsPermit) = false) :
      Moves scan s .scheduler
        { s with scheduler := .finished (s.collected.conclude s.brokenTables) }

namespace ScanState

variable {scan : Scan} {s next : ScanState}

theorem setStage_eq {before after : List Worker} {w : Worker}
    (h : s.workers = before ++ w :: after) (stage : WorkerStage) :
    s.setStage before.length stage
      = { s with workers := before ++ { w with stage } :: after } := by
  unfold setStage
  rw [h, List.modify_eq_take_drop, List.take_left, List.drop_left]
  rfl

/-- A turn of a worker is one of the turns. -/
theorem moves_of_workerTurn? {before after : List Worker} {w : Worker}
    (here : s.workers = before ++ w :: after)
    (h : s.workerTurn? scan before.length = some next) :
    Moves scan s (.worker before.length) next := by
  have hget : s.workers[before.length]? = some w := by rw [here, getElem?_here]
  obtain ⟨table, stage⟩ := w
  unfold workerTurn? at h
  simp only [hget, setStage_eq here] at h
  cases stage with
  | profiling activity =>
    cases activity with
    | calls call goOn =>
      obtain rfl := Option.some.inj h
      exact .calls here
    | asks goOn =>
      obtain rfl := Option.some.inj h
      exact .asks here
    | ended result =>
      obtain rfl := Option.some.inj h
      exact .ends here
    | brokenDown =>
      obtain rfl := Option.some.inj h
      exact .breaks here
  | sending result =>
    dsimp only at h
    by_cases room : s.channel.length < s.capacity
    · rw [if_pos room] at h
      obtain rfl := Option.some.inj h
      exact .sends here room
    · rw [if_neg room] at h
      cases h
  | leaving =>
    obtain rfl := Option.some.inj h
    exact .leaves here
  | gone => cases h
  | broken => cases h

/-- A turn of the scheduler is one of the turns. -/
theorem moves_of_schedulerTurn? (h : s.schedulerTurn? scan = some next) :
    Moves scan s .scheduler next := by
  unfold schedulerTurn? at h
  split at h
  · rename_i here
    obtain rfl := Option.some.inj h
    exact .allStarted here
  · rename_i here
    split at h
    · rename_i free
      obtain rfl := Option.some.inj h
      exact .takes here free
    · cases h
  · rename_i here
    cases answer : scan.interrupt s.asked with
    | true =>
      rw [answer] at h
      obtain rfl := Option.some.inj h
      exact .starts here answer
    | false =>
      rw [answer] at h
      obtain rfl := Option.some.inj h
      exact .stops here answer
  · rename_i here
    split at h
    · rename_i sent
      obtain rfl := Option.some.inj h
      exact .receives here sent
    · rename_i empty
      cases idle : s.workers.any (·.stage.holdsPermit) with
      | true =>
        rw [idle] at h
        cases h
      | false =>
        rw [idle] at h
        obtain rfl := Option.some.inj h
        exact .concludes here empty idle
  · cases h

/-- **A turn is one of the turns.** -/
theorem moves_of_turn? {actor : Actor} (h : s.turn? scan actor = some next) :
    Moves scan s actor next := by
  cases actor with
  | scheduler => exact moves_of_schedulerTurn? h
  | worker position =>
    have hturn : s.workerTurn? scan position = some next := h
    cases hw : s.workers[position]? with
    | none =>
      unfold workerTurn? at hturn
      rw [hw] at hturn
      cases hturn
    | some w =>
      obtain ⟨before, after, here, rfl⟩ := exists_eq_append_of_getElem? hw
      exact moves_of_workerTurn? here hturn

/-- **Each of the turns can be taken.** -/
theorem turn?_of_moves {actor : Actor} (h : Moves scan s actor next) :
    s.turn? scan actor = some next := by
  have hget : ∀ {before after : List Worker} {w : Worker},
      s.workers = before ++ w :: after → s.workers[before.length]? = some w :=
    fun here => here ▸ getElem?_here
  unfold turn?
  cases h with
  | calls here | asks here | ends here =>
    simp only [workerTurn?, hget here, setStage_eq here]
  | breaks here | leaves here =>
    simp only [workerTurn?, hget here, setStage_eq here, release]
  | sends here room =>
    simp only [workerTurn?, hget here, setStage_eq here, if_pos room]
  | allStarted here => simp only [schedulerTurn?, here]
  | takes here free => simp only [schedulerTurn?, here, if_pos free]
  | starts here yes => simp only [schedulerTurn?, here, yes, if_true]
  | stops here no => simp only [schedulerTurn?, here, no, if_false, release, Bool.false_eq_true]
  | receives here sent => simp only [schedulerTurn?, here, sent]
  | concludes here empty idle =>
    simp only [schedulerTurn?, here, empty, idle, if_false, Bool.false_eq_true]

/-- **Scans that do the same about each table** and are told the same take the same
turns. -/
theorem turn?_eq_of_activity_eq {scan' : Scan} (activity : scan'.activity = scan.activity)
    (interrupt : scan'.interrupt = scan.interrupt) (s : ScanState) (actor : Actor) :
    s.turn? scan' actor = s.turn? scan actor := by
  cases actor with
  | scheduler =>
    show s.schedulerTurn? scan' = s.schedulerTurn? scan
    unfold schedulerTurn?
    rw [interrupt, activity]
  | worker position =>
    show s.workerTurn? scan' position = s.workerTurn? scan position
    unfold workerTurn?
    rw [interrupt]

end ScanState

end TableProfile
