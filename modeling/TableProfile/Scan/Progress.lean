/-!
# Progress

How many tables of a scan are done. A new total starts the count again.
-/

namespace TableProfile

/-- **The progress of a scan.** -/
structure Progress where
  /-- The number of tables to look at. -/
  total : Nat := 0
  /-- The number of tables that are done. -/
  done : Nat := 0
  deriving DecidableEq, Repr

namespace Progress

/-- Begins with so many tables, none of them done. -/
def start (total : Nat) : Progress :=
  { total }

/-- One more table is done. -/
def advance (p : Progress) : Progress :=
  { p with done := p.done + 1 }

end Progress

end TableProfile
