/-!
# What can go wrong in a scan

An error names its cause and carries the wording of the layer it came
from. On its way out of a table it gets the name of the table in front,
unless it has one already or concerns no table: wrong settings concern
the whole scan, and cancellation is a wish and not a failure.
-/

namespace TableProfile

/-- **An error of a scan.** -/
inductive ProfileError where
  /-- The settings of the scan cannot be used. -/
  | configuration (message : String)
  /-- A table cannot be read. -/
  | source (table message : String)
  /-- Someone asked the scan to stop. -/
  | canceled
  /-- A file or folder cannot be read. -/
  | io (message : String)
  /-- A delimited file cannot be read as one. -/
  | csv (message : String)
  /-- A database server does not answer as it should. -/
  | database (message : String)
  /-- A text in an interchange format cannot be read. -/
  | serialization (message : String)
  deriving DecidableEq, Repr

namespace ProfileError

/-- The wording of an error. -/
def message : ProfileError → String
  | configuration message => "Configuration error: " ++ message
  | source table message => "Source error in table " ++ table ++ ": " ++ message
  | canceled => "Scan canceled"
  | io message => "IO error: " ++ message
  | csv message => "CSV error: " ++ message
  | database message => "Database error: " ++ message
  | serialization message => "Serialization error: " ++ message

/-- Whether an error is a cancellation. -/
def isCancellation : ProfileError → Bool
  | canceled => true
  | _ => false

/-- **The error with the table it arose in.** -/
def ofTable (e : ProfileError) (table : String) : ProfileError :=
  match e with
  | canceled | source .. | configuration _ => e
  | e => source table e.message

/-- **The error with the table and the row it arose in.** -/
def ofRow (e : ProfileError) (table : String) (row : Nat) : ProfileError :=
  match e with
  | canceled | source .. => e
  | e => source table ("row " ++ toString row ++ ": " ++ e.message)

@[simp] theorem isCancellation_ofTable (e : ProfileError) (table : String) :
    (e.ofTable table).isCancellation = e.isCancellation := by
  cases e <;> rfl

@[simp] theorem isCancellation_ofRow (e : ProfileError) (table : String) (row : Nat) :
    (e.ofRow table row).isCancellation = e.isCancellation := by
  cases e <;> rfl

end ProfileError

end TableProfile
