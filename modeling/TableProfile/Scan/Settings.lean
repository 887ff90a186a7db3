import TableProfile.Column.Profile

/-!
# The settings of a scan

How many rows of a table are looked at, what is kept of them, and how
often the scan asks whether to go on. Every setting has a default.
Settings are checked before a scan begins, in a fixed order, and the
first fault is told.
-/

namespace TableProfile

/-- **The settings of a scan.** -/
structure Settings where
  /-- The number of rows looked at in each table, or -1 for all of them. -/
  sampleSize : Int := 100000
  /-- Whether numbers are summarised. -/
  numericStats : Bool := false
  /-- The size of the sample of numbers. -/
  samplerSize : Nat := 500
  /-- How many values of a column may be held before a trim. -/
  maxInMemory : Nat := 100000
  /-- How many values of a column are reported. -/
  maxToReport : Nat := 1000
  /-- Values seen fewer times are not reported. -/
  minCellCount : Nat := 0
  /-- The row at which a column is tested for free text. -/
  checkpoint : Nat := 1000
  /-- The mean length from which on a column is free text. -/
  minAverageLength : Nat := 100
  /-- How many tables are looked at at the same time. -/
  concurrency : Nat := 4
  /-- After how many rows of a table the scan asks whether to go on. -/
  pollInterval : Nat := 1000
  deriving DecidableEq, Repr

/-- **Why settings cannot be used.** -/
inductive SettingsFault where
  /-- The number of rows is below -1. -/
  | sampleSize (n : Int)
  /-- Numbers are to be summarised from a sample of none. -/
  | samplerSize
  /-- No value is to be reported. -/
  | maxToReport
  /-- Fewer values may be held than are to be reported. -/
  | maxInMemory
  /-- No table is to be looked at at any time. -/
  | concurrency
  /-- The scan is to ask after every zero rows. -/
  | pollInterval
  deriving DecidableEq, Repr

/-- The wording of a fault. -/
def SettingsFault.message : SettingsFault → String
  | sampleSize n => "sample_size must be -1 or a row count, got " ++ toString n
  | samplerSize => "numeric_stats_sampler_size must be greater than zero"
  | maxToReport => "max_values_to_report must be greater than zero"
  | maxInMemory => "max_values_in_memory must be at least max_values_to_report"
  | concurrency => "max_concurrent_tables must be greater than zero"
  | pollInterval => "interrupt_check_interval must be greater than zero"

namespace Settings

/-- The default settings on a machine with so many processors. -/
def ofProcessors (n : Nat) : Settings :=
  { concurrency := min n 4 }

/-- The first fault of the settings. -/
def fault? (s : Settings) : Option SettingsFault :=
  if s.sampleSize < -1 then some (.sampleSize s.sampleSize)
  else if s.numericStats && s.samplerSize == 0 then some .samplerSize
  else if s.maxToReport = 0 then some .maxToReport
  else if s.maxInMemory < s.maxToReport then some .maxInMemory
  else if s.concurrency = 0 then some .concurrency
  else if s.pollInterval = 0 then some .pollInterval
  else none

/-- **Checks the settings.** -/
def validate (s : Settings) : Except ProfileError Unit :=
  match s.fault? with
  | some fault => .error (.configuration fault.message)
  | none => .ok ()

/-- **The number of rows looked at**, if it is limited. -/
def limit (s : Settings) : Option Nat :=
  if s.sampleSize < 0 then none else some s.sampleSize.toNat

/-- The limits of the profile of a column. -/
def profile (s : Settings) : ProfileLimits where
  maxInMemory := s.maxInMemory
  maxToReport := s.maxToReport
  checkpoint := s.checkpoint
  minAverageLength := s.minAverageLength
  samplerSize := if s.numericStats then some s.samplerSize else none

end Settings

end TableProfile
