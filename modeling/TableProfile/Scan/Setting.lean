import TableProfile.Json.Codec
import TableProfile.Scan.Settings

/-!
# Settings by name

Each setting has a name under which it is given in a settings file. It is
a whole number between two bounds, or a switch. The order of this list is
the order in which settings are written, and in which they stand in a
list without names.
-/

namespace TableProfile

/-- **A setting of a scan.** -/
inductive Setting where
  /-- A whole number between two bounds. -/
  | whole (name : String) (least greatest : Int) (get : Settings → Int)
    (put : Settings → Int → Settings)
  /-- A switch. -/
  | switch (name : String) (get : Settings → Bool)
    (put : Settings → Bool → Settings)

namespace Setting

/-- The name of a setting. -/
def name : Setting → String
  | whole name .. => name
  | switch name .. => name

/-- A natural number of sixty-four bits. -/
def natural (name : String) (get : Settings → Nat)
    (put : Settings → Nat → Settings) : Setting :=
  .whole name 0 (UInt64.size - 1) (fun s => get s) fun s n => put s n.toNat

/-- **All settings**, in order. -/
def all : List Setting := [
  .whole "sample_size" (-Number.int64Limit) (Number.int64Limit - 1) (·.sampleSize)
    fun s n => { s with sampleSize := n },
  .switch "calculate_numeric_stats" (·.numericStats) fun s b => { s with numericStats := b },
  .natural "numeric_stats_sampler_size" (·.samplerSize) fun s n => { s with samplerSize := n },
  .natural "max_values_in_memory" (·.maxInMemory) fun s n => { s with maxInMemory := n },
  .natural "max_values_to_report" (·.maxToReport) fun s n => { s with maxToReport := n },
  .natural "min_cell_count" (·.minCellCount) fun s n => { s with minCellCount := n },
  .natural "free_text_checkpoint" (·.checkpoint) fun s n => { s with checkpoint := n },
  .natural "free_text_min_avg_length" (·.minAverageLength) fun s n =>
    { s with minAverageLength := n },
  .natural "max_concurrent_tables" (·.concurrency) fun s n => { s with concurrency := n },
  .natural "interrupt_check_interval" (·.pollInterval) fun s n => { s with pollInterval := n }]

/-- A setting as a field of a record, which may be left out. -/
def field : Setting → Json.Field Settings
  | whole name least greatest get put => .optional name (.integer least greatest) get put
  | switch name get put => .optional name .flag get put

end Setting

namespace Settings

/-- The settings as a record; what is left out has its default. -/
def type (defaults : Settings) : Json.RecordType Settings where
  fields := Setting.all.map Setting.field
  blank := defaults
  mayBeShort := true

/-- **The settings in a JSON text.** -/
def read (defaults : Settings) (text : String) : Except Json.Fault Settings :=
  (type defaults).codec.read text

/-- **The JSON text of settings.** -/
def write (s : Settings) : String :=
  (type s).codec.write s

end Settings

end TableProfile
