import Mathlib.Data.List.Nodup
import TableProfile.Proofs.Codecs
import TableProfile.Scan.Setting

/-!
# Settings that say only some things

A record of settings may leave settings out, name them in any order, and hold
anything else under keys that name no setting. Reading it overrides the defaults
in the settings that are named, and in nothing else (`Settings.read_partial`).

Reading puts in one setting after the other. Each of them is an override with
one name (`Settings.comesBack_entries`), overrides with one name after the other
are one override with all the names (`Settings.foldl_override`), and the order
of the names in it plays no part. A name that comes twice would be a fault; a
key that is no name may come as often as it likes, since its value is only
passed over.
-/

namespace TableProfile

open Json Number

/-! ## What settings say -/

/-- **Settings that can be held**: the numbers fit into their words. -/
structure Settings.Fits (s : Settings) : Prop where
  /-- The number of rows looked at. -/
  sampleSize : IsInt64 s.sampleSize
  /-- The size of the sample of numbers. -/
  samplerSize : s.samplerSize < UInt64.size
  /-- How many values may be held. -/
  maxInMemory : s.maxInMemory < UInt64.size
  /-- How many values are reported. -/
  maxToReport : s.maxToReport < UInt64.size
  /-- How often a value has to be seen. -/
  minCellCount : s.minCellCount < UInt64.size
  /-- The row of the test for free text. -/
  checkpoint : s.checkpoint < UInt64.size
  /-- The mean length of free text. -/
  minAverageLength : s.minAverageLength < UInt64.size
  /-- The number of workers. -/
  concurrency : s.concurrency < UInt64.size
  /-- The rows between two questions. -/
  pollInterval : s.pollInterval < UInt64.size

namespace Settings

/-- **The names of the settings, each with its value.** -/
def entries (s : Settings) : List (String × Value) := [
  ("sample_size", .integer s.sampleSize),
  ("calculate_numeric_stats", .flag s.numericStats),
  ("numeric_stats_sampler_size", .integer s.samplerSize),
  ("max_values_in_memory", .integer s.maxInMemory),
  ("max_values_to_report", .integer s.maxToReport),
  ("min_cell_count", .integer s.minCellCount),
  ("free_text_checkpoint", .integer s.checkpoint),
  ("free_text_min_avg_length", .integer s.minAverageLength),
  ("max_concurrent_tables", .integer s.concurrency),
  ("interrupt_check_interval", .integer s.pollInterval)]

/-- The names of the settings. -/
def names (s : Settings) : List String :=
  s.entries.map (·.1)

/-- **The settings `s` where they are named**, and others elsewhere. -/
def override (others s : Settings) (named : List String) : Settings where
  sampleSize := if "sample_size" ∈ named then s.sampleSize else others.sampleSize
  numericStats := if "calculate_numeric_stats" ∈ named then s.numericStats else others.numericStats
  samplerSize := if "numeric_stats_sampler_size" ∈ named then s.samplerSize else others.samplerSize
  maxInMemory := if "max_values_in_memory" ∈ named then s.maxInMemory else others.maxInMemory
  maxToReport := if "max_values_to_report" ∈ named then s.maxToReport else others.maxToReport
  minCellCount := if "min_cell_count" ∈ named then s.minCellCount else others.minCellCount
  checkpoint := if "free_text_checkpoint" ∈ named then s.checkpoint else others.checkpoint
  minAverageLength :=
    if "free_text_min_avg_length" ∈ named then s.minAverageLength else others.minAverageLength
  concurrency := if "max_concurrent_tables" ∈ named then s.concurrency else others.concurrency
  pollInterval := if "interrupt_check_interval" ∈ named then s.pollInterval else others.pollInterval

/-- **Members that say something of settings**: each setting once at most, and
with its value. -/
structure AreSaid (s : Settings) (members : List (String × Tree)) : Prop where
  /-- No name comes twice. -/
  once : ((members.map (·.1)).filter (· ∈ s.names)).Nodup
  /-- Under a name stands the value of that setting. -/
  values : ∀ member ∈ members, ∀ value, (member.1, value) ∈ s.entries → member.2 = value.tree

end Settings

/-- **A text that holds a record and nothing else**: its members stand there in
this order, in any of the ways to write them. -/
def IsRecordText (members : List (String × Tree)) (text : String) : Prop :=
  ∃ before inside after, AreBlanks before ∧ AreBlanks after
    ∧ (Tree.record (.ofList members)).Spells inside ∧ text.toList = before ++ (inside ++ after)

namespace Settings

variable {defaults s : Settings} {members : List (String × Tree)} {text : String}

/-! ## Overrides -/

/-- Of the names that are no settings nothing depends. -/
theorem override_congr {named named' : List String}
    (h : ∀ name ∈ s.names, name ∈ named ↔ name ∈ named') :
    defaults.override s named = defaults.override s named' := by
  simp only [names, entries, List.map_cons, List.map_nil, List.forall_mem_cons] at h
  obtain ⟨h₁, h₂, h₃, h₄, h₅, h₆, h₇, h₈, h₉, h₁₀, -⟩ := h
  simp only [override, h₁, h₂, h₃, h₄, h₅, h₆, h₇, h₈, h₉, h₁₀]

theorem override_nil : defaults.override s [] = defaults := by
  simp only [override, List.not_mem_nil, if_false]

/-- **All names override everything.** -/
theorem override_names : defaults.override s s.names = s := by
  rfl

/-- **A key that is no name overrides nothing.** -/
theorem override_singleton_of_not_mem {key : String} (h : key ∉ s.names) :
    defaults.override s [key] = defaults := by
  refine (override_congr fun name hname => iff_of_false ?_ List.not_mem_nil).trans override_nil
  exact fun hmem => h (List.mem_singleton.mp hmem ▸ hname)

/-- A value is overridden at one name and then at others. -/
theorem ite_mem_ite_mem {α : Type} (name key : String) (named : List String) (new old : α) :
    (if name ∈ named then new else if name ∈ [key] then new else old)
      = if name ∈ key :: named then new else old := by
  by_cases hnamed : name ∈ named
  · rw [if_pos hnamed, if_pos (List.mem_cons_of_mem key hnamed)]
  · simp only [List.mem_cons, hnamed, or_false, if_false, List.not_mem_nil]

/-- **One name after the other.** -/
theorem override_override (key : String) (named : List String) :
    (defaults.override s [key]).override s named = defaults.override s (key :: named) := by
  simp only [override, ite_mem_ite_mem]

/-- **Overrides one after the other are one override.** -/
theorem foldl_override (members : List (String × Tree)) :
    members.foldl (fun others member => others.override s [member.1]) defaults
      = defaults.override s (members.map (·.1)) := by
  induction members generalizing defaults with
  | nil => exact override_nil.symm
  | cons member rest ih =>
    rw [List.foldl_cons, ih]
    exact override_override member.1 _

/-! ## Fields -/

/-- A setting may be left out. -/
theorem required_field (setting : Setting) : setting.field.required = false := by
  cases setting with
  | whole name least greatest get put => rfl
  | switch name get put => rfl

/-- A natural number that fits comes back. -/
theorem comesBack_natural {get : Settings → Nat} (fits : get s < UInt64.size) (name : String)
    (put : Settings → Nat → Settings) :
    (Setting.natural name get put).field.ComesBack s (put · (get s)) := by
  intro others
  show ((Codec.integer 0 (UInt64.size - 1)).recode (get s)).map (fun n => put others n.toNat) = _
  rw [Codec.recode_natural fits]
  rfl

/-- **To put in the field of a setting is to override its name.** -/
theorem comesBack_field (fits : s.Fits) :
    ∀ setting ∈ Setting.all, setting.field.ComesBack s (·.override s [setting.field.name]) := by
  refine List.forall_mem_cons.mpr
    ⟨Field.comesBack_optional (Codec.recode_int64 fits.sampleSize) _ _, ?_⟩
  refine List.forall_mem_cons.mpr
    ⟨Field.comesBack_optional (Codec.recode_flag s.numericStats) _ _, ?_⟩
  refine List.forall_mem_cons.mpr ⟨comesBack_natural fits.samplerSize _ _, ?_⟩
  refine List.forall_mem_cons.mpr ⟨comesBack_natural fits.maxInMemory _ _, ?_⟩
  refine List.forall_mem_cons.mpr ⟨comesBack_natural fits.maxToReport _ _, ?_⟩
  refine List.forall_mem_cons.mpr ⟨comesBack_natural fits.minCellCount _ _, ?_⟩
  refine List.forall_mem_cons.mpr ⟨comesBack_natural fits.checkpoint _ _, ?_⟩
  refine List.forall_mem_cons.mpr ⟨comesBack_natural fits.minAverageLength _ _, ?_⟩
  refine List.forall_mem_cons.mpr ⟨comesBack_natural fits.concurrency _ _, ?_⟩
  exact List.forall_mem_singleton.mpr (comesBack_natural fits.pollInterval _ _)

/-- The entries are what the fields are written as. -/
theorem entries_eq (defaults s : Settings) :
    s.entries = defaults.type.fields.map fun field => (field.name, field.encode s) :=
  rfl

/-- **What a record of settings is read as.** -/
theorem decode_ofList (fits : s.Fits) (said : s.AreSaid members)
    (skipped : ∀ member ∈ members, member.2.skipFault? = none) :
    defaults.type.codec.decode (.record (.ofList members))
      = .ok (defaults.override s (members.map (·.1))) := by
  have hoptional : ∀ field ∈ defaults.type.fields, field.required = false :=
    List.forall_mem_map.mpr fun setting _ => required_field setting
  have hknown : ∀ member ∈ members, ∀ field ∈ defaults.type.fields, field.name = member.1 →
      ∀ others, field.decode others member.2 = .ok (others.override s [member.1]) := by
    intro member hmember field hfield hname others
    have hentry : (member.1, field.encode s) ∈ s.entries := by
      rw [entries_eq defaults, ← hname]
      exact List.mem_map_of_mem hfield
    obtain ⟨setting, hsetting, rfl⟩ := List.mem_map.mp hfield
    rw [said.values member hmember _ hentry, ← hname]
    exact comesBack_field fits setting hsetting others
  have hunknown : ∀ member ∈ members, member.1 ∉ defaults.type.names →
      member.2.skipFault? = none ∧ ∀ others : Settings, others.override s [member.1] = others :=
    fun member hmember hkey =>
      ⟨skipped member hmember, fun _ => override_singleton_of_not_mem hkey⟩
  rw [← foldl_override]
  exact RecordType.decodeMembers_ofList hoptional (fun key others => others.override s [key])
    said.once hknown hunknown defaults

/-! ## Texts -/

/-- **The text of settings** is a record of all their entries. -/
theorem isRecordText_write (s : Settings) :
    IsRecordText (s.entries.map fun entry => (entry.1, entry.2.tree)) s.write := by
  have hspells : (Value.record s.entries).tree.Spells ((Value.record s.entries).textAt 0) :=
    spells_textAt 0 (.record s.entries)
  rw [Value.tree, ← ofList_map_tree] at hspells
  refine ⟨[], _, [], areBlanks_nil, areBlanks_nil, hspells, ?_⟩
  rw [List.nil_append, List.append_nil]
  exact String.toList_ofList

theorem nodup_names (s : Settings) : s.names.Nodup := by
  show ({} : Settings).names.Nodup
  decide

/-- The entries of settings say all of them. -/
theorem areSaid_entries (s : Settings) :
    s.AreSaid (s.entries.map fun entry => (entry.1, entry.2.tree)) where
  once := by
    rw [List.map_map]
    exact (nodup_names s).filter _
  values member hmember value hvalue := by
    obtain ⟨entry, hentry, rfl⟩ := List.mem_map.mp hmember
    have hsame : entry = (entry.1, value) :=
      List.inj_on_of_nodup_map (nodup_names s) hentry hvalue rfl
    exact congrArg (·.2.tree) hsame

/-- **Reading a text of settings** overrides the defaults in what is named. -/
theorem read_eq_override (fits : s.Fits) (said : s.AreSaid members)
    (h : IsRecordText members text) :
    read defaults text = .ok (defaults.override s (members.map (·.1))) := by
  obtain ⟨before, inside, after, hbefore, hafter, hspells, htext⟩ := h
  have hskipped := skipFault?_ofList_eq_none_iff.mp hspells.skipFault?_eq_none
  exact (defaults.type.codec.read_of_spells hspells hbefore hafter htext).trans
    (decode_ofList fits said hskipped)

/-- **Settings that say only some things override exactly what they name.** In
whatever order a text names the settings of `s`, whatever else it holds under
other keys, and however it is laid out, it is read as `s` where it names a
setting and as the defaults elsewhere. So what `s` is written as is read as
`s`, and two texts that name the same settings are read as the same. -/
theorem read_partial (fits : s.Fits) (defaults : Settings) :
    (∀ members text, s.AreSaid members → IsRecordText members text →
        read defaults text = .ok (defaults.override s (members.map (·.1))))
      ∧ read defaults s.write = .ok s
      ∧ ∀ members members' text text', s.AreSaid members → s.AreSaid members' →
        IsRecordText members text → IsRecordText members' text' →
        (∀ name ∈ s.names, name ∈ members.map (·.1) ↔ name ∈ members'.map (·.1)) →
        read defaults text = read defaults text' := by
  refine ⟨fun members text => read_eq_override fits, ?_, ?_⟩
  · rw [read_eq_override fits (areSaid_entries s) (isRecordText_write s), List.map_map]
    exact congrArg Except.ok override_names
  · intro members members' text text' said said' h h' hnames
    rw [read_eq_override fits said h, read_eq_override fits said' h', override_congr hnames]

/-- Two settings are named, and between them and in front of them stands something
else: a list with half a pair in it, and then nothing, under the same key. -/
theorem read_partial_two_names :
    let s : Settings := { sampleSize := -1, numericStats := true }
    let members : List (String × Tree) := [
      ("x", .list (.item (.text none) .closed)), ("calculate_numeric_stats", .flag true),
      ("x", .null), ("sample_size", (Value.integer (-1)).tree)]
    let text := "\x7b\"x\": [\"\\ud800\"],\"calculate_numeric_stats\": true,\"x\": null,"
      ++ "\"sample_size\": -1\x7d"
    s.Fits ∧ s.AreSaid members ∧ IsRecordText members text
      ∧ read (ofProcessors 8) text = .ok { sampleSize := -1, numericStats := true } := by
  intro s members text
  have fits : s.Fits := by constructor <;> decide
  have said : s.AreSaid members := by
    refine ⟨by decide, ?_⟩
    simp [members, s, entries, Value.tree]
  have htext : IsRecordText members text := by
    have hunit : (Piece.unit 0xd800).Spells ['\\', 'u', 'd', '8', '0', '0'] := .unit rfl
    have hhalf : (Tree.text none).Spells ['"', '\\', 'u', 'd', '8', '0', '0', '"'] :=
      Tree.Spells.text (.cons hunit .nil)
    have hnext : SpellsFront false [','] := .next areBlanks_nil areBlanks_nil
    have hlist := Tree.Spells.list (.item (.first areBlanks_nil) hhalf (.closed areBlanks_nil))
    have hmembers := spells_member (.first areBlanks_nil) "x" hlist <|
      spells_member hnext "calculate_numeric_stats" .yes <| spells_member hnext "x" .null <|
      spells_member hnext "sample_size" (spells_textAt 0 (.integer (-1))) (.closed areBlanks_nil)
    exact ⟨[], _, [], areBlanks_nil, areBlanks_nil, .record hmembers, by decide⟩
  exact ⟨fits, said, htext, (read_partial fits (ofProcessors 8)).1 members text said htext⟩

end Settings

end TableProfile
