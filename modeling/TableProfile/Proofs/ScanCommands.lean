import TableProfile.CommandLine.Command
import TableProfile.Proofs.Completion
import TableProfile.Proofs.EncodedText
import TableProfile.Proofs.PlainLoop
import TableProfile.Proofs.RowCount
import TableProfile.Proofs.WrittenFiles

/-!
# The two commands that scan

A folder can be scanned with options or with a settings file. One command opens
the folder, lists its tables and leaves it to the scan to look at the settings;
the other looks at the settings first. Where the file says what the options say,
that is the only difference, and it shows in nothing but the fault that is told:
the commands fail together, and then the files are as they were; and if they do
not fail, they show the same report, or it is in the same file
(`Command.agree_of_load`).

For what is refused by either is refused by both, and what is not refused comes
to a scan of the same tables of the same source with the same settings. Such
scans report the same, whoever's turn it is and whatever is drawn, as long as
the source does not cancel by itself. A folder never does
(`DelimitedFolder.neverCancels_toSource`). With more workers than there can be
permits both scans break down, and both commands with them.
-/

namespace TableProfile

open Storage

/-! ## Folders never cancel -/

theorem Answer.ofExcept_eq_failure_iff {α : Type} {x : Except ProfileError α}
    {e : ProfileError} : ofExcept x = .failure e ↔ x = .error e := by
  cases x <;> simp [ofExcept]

theorem Answer.ofExcept_eq_value_iff {α : Type} {x : Except ProfileError α} {a : α} :
    ofExcept x = .value a ↔ x = .ok a := by
  cases x <;> simp [ofExcept]

/-- What is looked for is there. -/
theorem Rows.mem_of_mem_upTo {rows : Rows} {limit : Option Nat} {answer : Answer Row}
    (h : answer ∈ rows.upTo limit) : answer ∈ rows := by
  cases limit with
  | none => exact h
  | some n => exact List.mem_of_mem_take h

namespace DelimitedFolder

open Delimited

variable {table : String} {e : ProfileError}

/-- A record that cannot be read is no cancellation. -/
theorem isCancellation_of_mem_rowsFrom {content : List UInt8} {number : Nat}
    {records : List Located} (h : .failure e ∈ rowsFrom table content number records) :
    e.isCancellation = false := by
  induction records generalizing number with
  | nil => cases h
  | cons record rest ih =>
    unfold rowsFrom at h
    split at h
    · rcases List.mem_cons.mp h with h | h
      · cases h
      · exact ih h
    · obtain rfl := Answer.failure.inj (List.mem_singleton.mp h)
      rfl

/-- **A folder never cancels.** -/
theorem neverCancels_toSource (folder : DelimitedFolder) (tree : FileTree) :
    (folder.toSource tree).NeverCancels where
  columns table e h := by
    have hcolumns : folder.columns tree table = .error e := Answer.ofExcept_eq_failure_iff.mp h
    unfold columns at hcolumns
    split at hcolumns
    · obtain rfl := Except.error.inj hcolumns
      rfl
    · split at hcolumns
      · cases hcolumns
      · obtain rfl := Except.error.inj hcolumns
        rfl
  rowCount table e h := by
    have hcount : folder.rowCount tree table = .error e := Answer.ofExcept_eq_failure_iff.mp h
    unfold rowCount at hcount
    split at hcount
    · obtain rfl := Except.error.inj hcount
      rfl
    · cases hcount
  rows table limit e h := by
    have hrows : folder.rows tree table limit = .error e := Answer.ofExcept_eq_failure_iff.mp h
    unfold rows at hrows
    split at hrows
    · cases hrows
    · obtain rfl := Except.error.inj hrows
      rfl
    · cases hrows
  row table limit answers e h hmem := by
    have hrows : folder.rows tree table limit = .ok answers := Answer.ofExcept_eq_value_iff.mp h
    cases hread : tree.read (folder.pathOf table) with
    | ok content =>
      rw [rows_of_read hread] at hrows
      obtain rfl := Except.ok.inj hrows
      exact isCancellation_of_mem_rowsFrom (Rows.mem_of_mem_upTo hmem)
    | error fault =>
      unfold rows at hrows
      rw [hread] at hrows
      cases fault with
      | isFolder =>
        obtain rfl := Except.ok.inj hrows
        split at hmem
        · cases hmem
        · obtain rfl := Answer.failure.inj (List.mem_singleton.mp hmem)
          rfl
      | notFound | notFolder | tooLong | zeroCharacter => cases hrows

end DelimitedFolder

/-! ## What commands can come to -/

/-- **What a scan of an open source can come to** that nobody interrupts: whoever's
turn it is, and whatever is drawn. -/
inductive Delivers (source : Source) (tables : List String) (settings : Settings)
    (output : Option String) (tree : FileTree) : Effects → Prop where
  /-- There are no tables to look at. -/
  | unlisted {fault : PlanFault} (h : requested source tables = .error fault) :
      Delivers source tables settings output tree { result := .error fault, tree }
  /-- The scan is refused. -/
  | refused {listed : List String} {seeds : Seeds} {e : ProfileError}
      (h : requested source tables = .ok listed)
      (hscan : Scan.ComesTo { source, settings, seeds } listed (.failure e)) :
      Delivers source tables settings output tree { result := .error (.scan e), tree }
  /-- The scan breaks down. -/
  | brokenDown {listed : List String} {seeds : Seeds}
      (h : requested source tables = .ok listed)
      (hscan : Scan.ComesTo { source, settings, seeds } listed .breakdown) :
      Delivers source tables settings output tree
        { result := .error (.brokenDown Scan.permitsFault), tree }
  /-- The scan ends, and its report is handed over. -/
  | scanned {listed : List String} {seeds : Seeds} {outcome : Outcome}
      (h : requested source tables = .ok listed)
      (hscan : Scan.ComesTo { source, settings, seeds } listed (.value outcome)) :
      Delivers source tables settings output tree (deliver outcome.report output tree)

namespace Command

/-- **What a scan of a folder can come to.** -/
inductive ScansFolder (request : FolderRequest) (defaults : Settings) (servers : Servers)
    (tree : FileTree) : Effects → Prop where
  /-- The folder cannot be opened. -/
  | unopened {fault : PlanFault}
      (h : (SourcePlan.folder request.folder request.delimiter).open servers tree
        = .error fault) :
      ScansFolder request defaults servers tree { result := .error fault, tree }
  /-- It is opened and scanned. -/
  | opened {source : Source} {effects : Effects}
      (h : (SourcePlan.folder request.folder request.delimiter).open servers tree = .ok source)
      (hscan : Delivers source request.tables (requestSettings defaults request) request.output
        tree effects) : ScansFolder request defaults servers tree effects

/-- **What a scan of what a settings file says can come to.** -/
inductive ScansPlan (path : String) (output : Option String) (defaults : Settings)
    (servers : Servers) (tree : FileTree) : Effects → Prop where
  /-- The file says no plan. -/
  | unread {fault : PlanFault} (h : ScanPlan.load defaults tree path = .error fault) :
      ScansPlan path output defaults servers tree { result := .error fault, tree }
  /-- Its settings are refused. -/
  | refused {plan : ScanPlan} {e : ProfileError} (h : ScanPlan.load defaults tree path = .ok plan)
      (hsettings : plan.settings.validate = .error e) :
      ScansPlan path output defaults servers tree { result := .error (.scan e), tree }
  /-- Its source cannot be opened. -/
  | unopened {plan : ScanPlan} {fault : PlanFault}
      (h : ScanPlan.load defaults tree path = .ok plan)
      (accepted : plan.settings.validate = .ok ())
      (hopen : plan.source.open servers tree = .error fault) :
      ScansPlan path output defaults servers tree { result := .error fault, tree }
  /-- It is opened and scanned. -/
  | opened {plan : ScanPlan} {source : Source} {effects : Effects}
      (h : ScanPlan.load defaults tree path = .ok plan)
      (accepted : plan.settings.validate = .ok ())
      (hopen : plan.source.open servers tree = .ok source)
      (hscan : Delivers source plan.tables plan.settings output tree effects) :
      ScansPlan path output defaults servers tree effects

end Command

section PlainLoop

variable (source : Source) (tables : List String) (settings : Settings) (servers : Servers)
  (seeds : Seeds) (defaults : Settings) (output : Option String) (tree : FileTree)

/-- The plain loop is one way to go. -/
theorem delivers_scanAndDeliver :
    Delivers source tables settings output tree
      (scanAndDeliver source tables settings seeds output tree) := by
  unfold scanAndDeliver
  cases h : requested source tables with
  | error fault => exact .unlisted h
  | ok listed =>
    have hscan := Scan.comesTo_run { source, settings, seeds } listed
    dsimp only
    cases hrun : Scan.run { source, settings, seeds } listed with
    | failure e => exact .refused h (hrun ▸ hscan)
    | breakdown => exact .brokenDown h (hrun ▸ hscan)
    | value outcome => exact .scanned h (hrun ▸ hscan)

/-- **What a command comes to** that scans a folder is one of the things that it
can come to. -/
theorem Command.scansFolder_scanFolder (request : FolderRequest) :
    ScansFolder request defaults servers tree
      (scanFolder request defaults servers seeds tree) := by
  unfold scanFolder
  cases h : (SourcePlan.folder request.folder request.delimiter).open servers tree with
  | error fault => exact .unopened h
  | ok source => exact .opened h (delivers_scanAndDeliver ..)

/-- **What a command comes to** that scans what a file says is one of the things
that it can come to. -/
theorem Command.scansPlan_scanPlan (path : String) :
    ScansPlan path output defaults servers tree
      (scanPlan path output defaults servers seeds tree) := by
  unfold scanPlan
  cases h : ScanPlan.load defaults tree path with
  | error fault => exact .unread h
  | ok plan =>
    dsimp only
    unfold ScanPlan.execute
    cases hsettings : plan.settings.validate with
    | error e => exact .refused h hsettings
    | ok accepted =>
      cases hopen : plan.source.open servers tree with
      | error fault => exact .unopened h hsettings hopen
      | ok source => exact .opened h hsettings hopen (delivers_scanAndDeliver ..)

end PlainLoop

/-! ## Reports that are handed over -/

/-- **A report that is handed over** is shown, and no file has changed, or it is what is
read from the file that was asked for, and no other file has changed. -/
inductive HandedOver (report : Report) (tree : FileTree) : Option String → Effects → Prop where
  /-- The report is shown. -/
  | shown : HandedOver report tree none { result := .ok (report.write ++ "\n"), tree }
  /-- The report is in a file. -/
  | written {path : String} {after : FileTree}
      (h : tree.Writes path (Text.Utf8.encode report.write) after) :
      HandedOver report tree (some path) { result := .ok "", tree := after }

section Deliver

variable {report : Report} {tree after : FileTree} {path : String} {fault : PathFault}

/-- A file that can be written is written. -/
theorem deliver_of_ok (h : tree.write path (Text.Utf8.encode report.write) = .ok after) :
    deliver report (some path) tree = { result := .ok "", tree := after } := by
  unfold deliver
  dsimp only
  rw [h]

/-- A file that cannot be written is a fault, and no file has changed. -/
theorem deliver_of_error (h : tree.write path (Text.Utf8.encode report.write) = .error fault) :
    deliver report (some path) tree = { result := .error (.unwritable fault), tree } := by
  unfold deliver
  dsimp only
  rw [h]

end Deliver

/-- **To deliver a report is to hand it over**, unless its file cannot be written, with
which the files are as they were. -/
theorem handedOver_deliver_or (report : Report) (output : Option String) (tree : FileTree) :
    HandedOver report tree output (deliver report output tree)
      ∨ ∃ path fault, output = some path
        ∧ tree.write path (Text.Utf8.encode report.write) = .error fault
        ∧ deliver report output tree = { result := .error (.unwritable fault), tree } := by
  cases output with
  | none => exact .inl .shown
  | some path =>
    cases hwrite : tree.write path (Text.Utf8.encode report.write) with
    | ok after =>
      rw [deliver_of_ok hwrite]
      exact .inl (.written (FileTree.writes_of_write hwrite))
    | error fault => exact .inr ⟨path, fault, rfl, hwrite, deliver_of_error hwrite⟩

/-- **The report of a scan of tables**, but for the estimates in it and the order of
its failures. -/
structure Report.IsFor (report : Report) (scan : Scan) (listed : List String) : Prop where
  /-- It holds what the tables are good for. -/
  tables : report.tables.map Report.Table.withoutEstimates = scan.plainReports listed
  /-- It lists what they fail for. -/
  failures : report.failures.Perm (scan.plainFailures listed)

/-! ## Agreement -/

/-- **Effects that agree**: both are faults, and all files are as they were, or one
report is handed over by both, but for the estimates in it and the order of its
failures. -/
inductive Agree (output : Option String) (tree : FileTree) : Effects → Effects → Prop where
  /-- Two faults. -/
  | failed (fault fault' : PlanFault) :
      Agree output tree { result := .error fault, tree } { result := .error fault', tree }
  /-- Two reports that are handed over. -/
  | handedOver {report report' : Report} {effects effects' : Effects}
      (tables : report.tables.map Report.Table.withoutEstimates
        = report'.tables.map Report.Table.withoutEstimates)
      (failures : report.failures.Perm report'.failures)
      (h : HandedOver report tree output effects) (h' : HandedOver report' tree output effects') :
      Agree output tree effects effects'

/-- **Reports that are the same are handed over alike.** -/
theorem agree_deliver {report report' : Report} (output : Option String) (tree : FileTree)
    (tables : report.tables.map Report.Table.withoutEstimates
      = report'.tables.map Report.Table.withoutEstimates)
    (failures : report.failures.Perm report'.failures) :
    Agree output tree (deliver report output tree) (deliver report' output tree) := by
  cases output with
  | none => exact .handedOver tables failures .shown .shown
  | some path =>
    have hisOk := FileTree.isOk_write tree path (Text.Utf8.encode report.write)
      (Text.Utf8.encode report'.write)
    cases hwrite : tree.write path (Text.Utf8.encode report.write) with
    | ok after =>
      cases hwrite' : tree.write path (Text.Utf8.encode report'.write) with
      | ok after' =>
        rw [deliver_of_ok hwrite, deliver_of_ok hwrite']
        exact .handedOver tables failures (.written (FileTree.writes_of_write hwrite))
          (.written (FileTree.writes_of_write hwrite'))
      | error fault' =>
        rw [hwrite, hwrite'] at hisOk
        cases hisOk
    | error fault =>
      cases hwrite' : tree.write path (Text.Utf8.encode report'.write) with
      | ok after' =>
        rw [hwrite, hwrite'] at hisOk
        cases hisOk
      | error fault' =>
        rw [deliver_of_error hwrite, deliver_of_error hwrite']
        exact .failed _ _

/-- What is requested is some table. -/
theorem ne_nil_of_requested {source : Source} {tables listed : List String}
    (h : requested source tables = .ok listed) : listed ≠ [] := by
  unfold requested at h
  split at h
  · split at h
    · cases h
    · cases h
    · rename_i hsome _
      obtain rfl := Except.ok.inj h
      exact hsome
  · rename_i hsome
    obtain rfl := Except.ok.inj h
    exact fun hnil => hsome (List.isEmpty_iff.mpr hnil)

namespace Delivers

variable {source : Source} {tables listed : List String} {settings : Settings}
  {output : Option String} {tree : FileTree} {effects effects' : Effects}

/-- Without tables to look at, there is a fault. -/
theorem eq_fault {fault : PlanFault} (h : Delivers source tables settings output tree effects)
    (hlisted : requested source tables = .error fault) :
    effects = { result := .error fault, tree } := by
  cases h with
  | unlisted h =>
    obtain rfl := Except.error.inj (h.symm.trans hlisted)
    rfl
  | refused h hscan => cases h.symm.trans hlisted
  | brokenDown h hscan => cases h.symm.trans hlisted
  | scanned h hscan => cases h.symm.trans hlisted

/-- **Settings that are refused** come to a fault. -/
theorem exists_eq_fault {e : ProfileError}
    (h : Delivers source tables settings output tree effects)
    (hsettings : settings.validate = .error e) :
    ∃ fault, effects = { result := .error fault, tree } := by
  have hfault : ∀ seeds (listed : List String),
      Scan.requestFault? { source, settings, seeds } listed = some e := by
    intro seeds listed
    unfold Scan.requestFault?
    dsimp only
    rw [hsettings]
  cases h with
  | unlisted h => exact ⟨_, rfl⟩
  | refused h hscan => exact ⟨_, rfl⟩
  | brokenDown h hscan => exact ⟨_, rfl⟩
  | scanned h hscan =>
    cases hscan with
    | ends met => cases met.symm.trans (hfault _ _)

/-- **With too many workers** a scan comes to a fault. -/
theorem exists_eq_fault_of_lt (h : Delivers source tables settings output tree effects)
    (tooMany : Scan.maxPermits < settings.concurrency) :
    ∃ fault, effects = { result := .error fault, tree } := by
  cases h with
  | unlisted h => exact ⟨_, rfl⟩
  | refused h hscan => exact ⟨_, rfl⟩
  | brokenDown h hscan => exact ⟨_, rfl⟩
  | scanned h hscan =>
    cases hscan with
    | ends _ permitted => exact absurd tooMany (Nat.not_lt.mpr permitted)

/-- **Settings that are accepted** come to the report of the tables that are looked
at, if there can be permits for all workers. -/
theorem exists_eq_deliver (h : Delivers source tables settings output tree effects)
    (accepted : settings.validate = .ok ()) (permitted : settings.concurrency ≤ Scan.maxPermits)
    (never : source.NeverCancels) (hlisted : requested source tables = .ok listed) :
    ∃ report : Report, effects = deliver report output tree
      ∧ report.IsFor { source, settings } listed := by
  have hreport : ∀ seeds answer, Scan.ComesTo { source, settings, seeds } listed answer →
      ∃ outcome, answer = .value outcome ∧ outcome.report.IsFor { source, settings } listed := by
    intro seeds answer hscan
    have same : Scan.SameAs { source, settings, seeds } { source, settings } := ⟨rfl, rfl⟩
    obtain ⟨outcome, heq, -, htables, hfailures⟩ := same.outcome_of_comesTo accepted permitted
      (ne_nil_of_requested hlisted) never (fun _ => rfl) hscan
    exact ⟨outcome, heq, htables, hfailures⟩
  cases h with
  | unlisted h => cases h.symm.trans hlisted
  | refused h hscan =>
    obtain rfl := Except.ok.inj (h.symm.trans hlisted)
    obtain ⟨outcome, heq, -⟩ := hreport _ _ hscan
    cases heq
  | brokenDown h hscan =>
    obtain rfl := Except.ok.inj (h.symm.trans hlisted)
    obtain ⟨outcome, heq, -⟩ := hreport _ _ hscan
    cases heq
  | scanned h hscan =>
    obtain rfl := Except.ok.inj (h.symm.trans hlisted)
    obtain ⟨outcome, heq, hfor⟩ := hreport _ _ hscan
    obtain rfl := Answer.value.inj heq
    exact ⟨_, rfl, hfor⟩

/-- **Two scans of one source agree**, with settings that are accepted and a source
that never cancels. -/
theorem agree (h : Delivers source tables settings output tree effects)
    (h' : Delivers source tables settings output tree effects')
    (accepted : settings.validate = .ok ()) (never : source.NeverCancels) :
    Agree output tree effects effects' := by
  by_cases permitted : settings.concurrency ≤ Scan.maxPermits
  · cases hlisted : requested source tables with
    | error fault =>
      rw [h.eq_fault hlisted, h'.eq_fault hlisted]
      exact .failed fault fault
    | ok listed =>
      obtain ⟨report, rfl, hfor⟩ := h.exists_eq_deliver accepted permitted never hlisted
      obtain ⟨report', rfl, hfor'⟩ := h'.exists_eq_deliver accepted permitted never hlisted
      exact agree_deliver output tree (hfor.tables.trans hfor'.tables.symm)
        (hfor.failures.trans hfor'.failures.symm)
  · obtain ⟨fault, rfl⟩ := h.exists_eq_fault_of_lt (Nat.not_le.mp permitted)
    obtain ⟨fault', rfl⟩ := h'.exists_eq_fault_of_lt (Nat.not_le.mp permitted)
    exact .failed fault fault'

end Delivers

/-- The source of an opened folder never cancels. -/
theorem neverCancels_of_open {path : String} {delimiter : Char} {servers : Servers}
    {tree : FileTree} {source : Source}
    (h : (SourcePlan.folder path delimiter).open servers tree = .ok source) :
    source.NeverCancels := by
  unfold SourcePlan.open at h
  dsimp only at h
  split at h
  · obtain rfl := Except.ok.inj h
    exact DelimitedFolder.neverCancels_toSource _ tree
  · cases h

namespace Command

variable {request : FolderRequest} {path : String} {defaults : Settings} {servers : Servers}
  {tree : FileTree} {source : Source} {listed : List String} {effects effects' : Effects}

/-- **A folder is scanned and reported** if its delimiter and the settings are
accepted, there can be permits for all workers, and there are tables to look at. -/
theorem ScansFolder.exists_isFor (h : ScansFolder request defaults servers tree effects)
    (hopen : (SourcePlan.folder request.folder request.delimiter).open servers tree = .ok source)
    (accepted : (requestSettings defaults request).validate = .ok ())
    (permitted : defaults.concurrency ≤ Scan.maxPermits)
    (hlisted : requested source request.tables = .ok listed) :
    ∃ report : Report, report.IsFor { source, settings := requestSettings defaults request } listed
      ∧ (HandedOver report tree request.output effects
        ∨ ∃ path fault, request.output = some path
          ∧ tree.write path (Text.Utf8.encode report.write) = .error fault
          ∧ effects = { result := .error (.unwritable fault), tree }) := by
  cases h with
  | unopened hopen' => cases hopen'.symm.trans hopen
  | opened hopen' hscan =>
    obtain rfl := Except.ok.inj (hopen'.symm.trans hopen)
    obtain ⟨report, rfl, hfor⟩ :=
      hscan.exists_eq_deliver accepted permitted (neverCancels_of_open hopen) hlisted
    exact ⟨report, hfor, handedOver_deliver_or report request.output tree⟩

/-- Where a settings file says what the options say, the commands agree. -/
theorem ScansFolder.agree (h : ScansFolder request defaults servers tree effects)
    (h' : ScansPlan path request.output defaults servers tree effects')
    (loads : ScanPlan.load defaults tree path = .ok {
      source := .folder request.folder request.delimiter
      tables := request.tables
      settings := requestSettings defaults request }) :
    Agree request.output tree effects effects' := by
  cases h' with
  | unread hload => cases hload.symm.trans loads
  | refused hload hsettings =>
    obtain rfl := Except.ok.inj (hload.symm.trans loads)
    cases h with
    | unopened hopen => exact .failed _ _
    | opened hopen hscan =>
      obtain ⟨fault, rfl⟩ := hscan.exists_eq_fault hsettings
      exact .failed _ _
  | unopened hload accepted hopen =>
    obtain rfl := Except.ok.inj (hload.symm.trans loads)
    cases h with
    | unopened hopen' => exact .failed _ _
    | opened hopen' hscan => cases hopen'.symm.trans hopen
  | opened hload accepted hopen hscan =>
    obtain rfl := Except.ok.inj (hload.symm.trans loads)
    cases h with
    | unopened hopen' => cases hopen'.symm.trans hopen
    | opened hopen' hscan' =>
      obtain rfl := Except.ok.inj (hopen'.symm.trans hopen)
      exact hscan'.agree hscan accepted (neverCancels_of_open hopen)

/-- **The two commands that scan agree.** If a settings file says what the options
of a scan of a folder say, and has the defaults for the rest, then whatever the two
commands come to, either both of them fail and no file has changed, or both hand over the
same report: they show its text, or its text is read from the file that was asked for.
They come to a report if the delimiter and the settings are accepted, there can be permits
for all workers and there are tables to look at; it is the report of these tables, and it
is handed over unless its file cannot be written. And each of the commands comes to
something, as the plain loop is one way to go. -/
theorem agree_of_load (request : FolderRequest) (path : String) (defaults : Settings)
    (servers : Servers) (tree : FileTree)
    (loads : ScanPlan.load defaults tree path = .ok {
      source := .folder request.folder request.delimiter
      tables := request.tables
      settings := requestSettings defaults request }) :
    (∀ effects effects', ScansFolder request defaults servers tree effects →
        ScansPlan path request.output defaults servers tree effects' →
        Agree request.output tree effects effects')
      ∧ (∀ source listed,
        (SourcePlan.folder request.folder request.delimiter).open servers tree = .ok source →
        (requestSettings defaults request).validate = .ok () →
        defaults.concurrency ≤ Scan.maxPermits →
        requested source request.tables = .ok listed →
        ∀ effects, ScansFolder request defaults servers tree effects →
          ∃ report : Report,
            report.IsFor { source, settings := requestSettings defaults request } listed
              ∧ (HandedOver report tree request.output effects
                ∨ ∃ path fault, request.output = some path
                  ∧ tree.write path (Text.Utf8.encode report.write) = .error fault
                  ∧ effects = { result := .error (.unwritable fault), tree }))
      ∧ ∀ seeds, ScansFolder request defaults servers tree
          (scanFolder request defaults servers seeds tree)
        ∧ ScansPlan path request.output defaults servers tree
          (scanPlan path request.output defaults servers seeds tree) := by
  refine ⟨fun effects effects' h h' => h.agree h' loads,
    fun source listed hopen accepted permitted hlisted effects h =>
      h.exists_isFor hopen accepted permitted hlisted, fun seeds => ⟨?_, ?_⟩⟩
  · exact scansFolder_scanFolder servers seeds defaults tree request
  · exact scansPlan_scanPlan servers seeds defaults request.output tree path

/-- A settings file that is itself the table to look at, by its first two rows. The report
is written next to it. -/
theorem agree_of_load_own_file :
    let text := "source:\n  type: csv\n  folder: .\n  delimiter: ;\ntables: [t]\n"
      ++ "scan:\n  sample_size: 2\n"
    let tree := DelimitedFolder.single (Text.Utf8.bytesOf text.toList)
    let request : FolderRequest :=
      { folder := ".", delimiter := ';', tables := ["t"], sampleSize := 2, output := some "r" }
    let source := DelimitedFolder.toSource { folder := ".", delimiter := 0x3b } tree
    ScanPlan.load {} tree "t" = .ok {
        source := .folder "." ';'
        tables := ["t"]
        settings := requestSettings {} request }
      ∧ (∀ servers, (SourcePlan.folder "." ';').open servers tree = .ok source)
      ∧ (requestSettings {} request).validate = .ok ()
      ∧ ({} : Settings).concurrency ≤ Scan.maxPermits ∧ requested source ["t"] = .ok ["t"]
      ∧ ∀ servers seeds seeds', Agree (some "r") tree (scanFolder request {} servers seeds tree)
          (scanPlan "t" (some "r") {} servers seeds' tree)
        ∧ ∃ report, HandedOver report tree (some "r") (scanFolder request {} servers seeds tree)
            ∧ report.IsFor { source, settings := requestSettings {} request } ["t"] := by
  intro text tree request source
  have hread : tree.read "t" = .ok (Text.Utf8.bytesOf text.toList) := by
    have hpath : DelimitedFolder.current.pathOf "t" = "t" := by decide +kernel
    exact hpath ▸ DelimitedFolder.read_single _
  have hplan : ScanPlan.read? {} text = some {
      source := .folder "." ';'
      tables := ["t"]
      settings := requestSettings {} request } := by
    decide +kernel
  have loads : ScanPlan.load {} tree "t" = .ok {
      source := .folder "." ';'
      tables := ["t"]
      settings := requestSettings {} request } := by
    simp only [ScanPlan.load, hread, Text.Utf8.decode_bytesOf, String.ofList_toList, hplan]
  have hopen : ∀ servers, (SourcePlan.folder "." ';').open servers tree = .ok source :=
    fun _ => rfl
  have accepted : (requestSettings {} request).validate = .ok () := rfl
  have permitted : ({} : Settings).concurrency ≤ Scan.maxPermits := by decide
  have hlisted : requested source ["t"] = .ok ["t"] := rfl
  have hwrites : ∀ content, ∃ after, tree.write "r" content = .ok after := by
    intro content
    have hsteps : pathSteps "r" = ["r"] := by
      apply pathSteps_of_short <;> decide +kernel
    have hsplit : FileTree.splitLast ["r"] = ([], some "r") := by decide +kernel
    have horigin : tree.origin "r" = [] := by
      have hrelative : "r".startsWith "/" = false := by decide +kernel
      unfold FileTree.origin
      rw [hrelative]
      rfl
    refine ⟨tree.put ["r"] (.file content), ?_⟩
    unfold FileTree.write
    rw [if_neg (by decide +kernel), if_neg (by decide +kernel), hsteps, hsplit, horigin]
    rfl
  refine ⟨loads, hopen, accepted, permitted, hlisted, fun servers seeds seeds' => ?_⟩
  obtain ⟨hagree, hreports, hcan⟩ := agree_of_load request "t" {} servers tree loads
  refine ⟨hagree _ _ (hcan seeds).1 (hcan seeds').2, ?_⟩
  obtain ⟨report, hfor, hhanded | ⟨path, fault, hpath, hfault, -⟩⟩ :=
    hreports source ["t"] (hopen servers) accepted permitted hlisted _ (hcan seeds).1
  · exact ⟨report, hhanded, hfor⟩
  · obtain rfl := Option.some.inj hpath
    obtain ⟨after, hafter⟩ := hwrites (Text.Utf8.encode report.write)
    cases hafter.symm.trans hfault

end Command

end TableProfile
