/-!
# Days and times of day

The Gregorian calendar, extended to all years before and after, with the
year zero and the negative years that follow it backwards. A time of day
may hold a leap second.
-/

namespace TableProfile.Calendar

/-- A leap year: one that four divides, unless a hundred divides it and
four hundred does not. -/
def isLeapYear (year : Int) : Bool :=
  year % 4 == 0 && (year % 100 != 0 || year % 400 == 0)

/-- The number of days of a month; none for a month that does not exist. -/
def daysInMonth (year : Int) (month : Nat) : Nat :=
  match month with
  | 2 => if isLeapYear year then 29 else 28
  | 4 | 6 | 9 | 11 => 30
  | 1 | 3 | 5 | 7 | 8 | 10 | 12 => 31
  | _ => 0

/-- The years that are told apart. -/
def leastYear : Int := -262143

/-- The last year that is told apart. -/
def greatestYear : Int := 262142

/-- **A moment as it is written**: a day, a time of day and the distance
of the clock from universal time, each part zero until it is read. -/
structure Moment where
  /-- The year. -/
  year : Int := 0
  /-- The month, from one. -/
  month : Nat := 0
  /-- The day of the month, from one. -/
  day : Nat := 0
  /-- The hour. -/
  hour : Nat := 0
  /-- The minute. -/
  minute : Nat := 0
  /-- The second. -/
  second : Nat := 0
  /-- The hours of the distance from universal time. -/
  offsetHour : Nat := 0
  /-- The minutes of the distance from universal time. -/
  offsetMinute : Nat := 0
  deriving DecidableEq, Repr

/-- **The moments that exist.** Second sixty is a leap second, which may
be written in any minute. -/
def Moment.Exists (m : Moment) : Prop :=
  (leastYear ≤ m.year ∧ m.year ≤ greatestYear)
    ∧ (1 ≤ m.month ∧ m.month ≤ 12)
    ∧ (1 ≤ m.day ∧ m.day ≤ daysInMonth m.year m.month)
    ∧ m.hour ≤ 23 ∧ m.minute ≤ 59 ∧ m.second ≤ 60
    ∧ m.offsetHour ≤ 23 ∧ m.offsetMinute ≤ 59

instance (m : Moment) : Decidable m.Exists := by
  unfold Moment.Exists
  infer_instance

end TableProfile.Calendar
