import TableProfile.Error

/-!
# Interrupting a scan

A scan asks from time to time whether to go on. Whoever may interrupt it
is known by the answers to the first question, the second, and so on.
-/

namespace TableProfile

/-- **Who may interrupt a scan**: whether to go on, for each question by
its number, counted from zero. -/
abbrev Interrupt : Type := Nat → Bool

namespace Interrupt

/-- Never interrupts. -/
def never : Interrupt :=
  fun _ => true

/-- Interrupts after so many questions. -/
def after (n : Nat) : Interrupt :=
  fun question => question < n

/-- **An answer as a check** that fails when the scan is not to go on. -/
def check (goOn : Bool) : Except ProfileError Unit :=
  if goOn then .ok () else .error .canceled

end Interrupt

end TableProfile
