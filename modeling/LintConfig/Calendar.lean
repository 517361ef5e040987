/-! Days of the calendar and moments in time. -/

namespace LintConfig

/-- A day of the calendar. -/
structure Date where
  year : Nat
  month : Nat
  day : Nat
  deriving DecidableEq, Repr, Inhabited

/-- A time of a day, perhaps with its distance from universal time in minutes. -/
structure Moment where
  date : Date
  hour : Nat
  minute : Nat
  second : Nat
  microsecond : Nat
  offset : Option Int
  deriving DecidableEq, Repr, Inhabited

namespace Date

-- The zero of a sum is the numeral, whatever else is in scope.
attribute [local instance (high)] Zero.ofOfNat0

def isLeap (year : Nat) : Bool := year % 4 == 0 && (year % 100 != 0 || year % 400 == 0)

def daysIn (year month : Nat) : Nat :=
  if month = 2 then (if isLeap year then 29 else 28)
  else if [4, 6, 9, 11].contains month then 30
  else 31

/-- How many days precede a year. -/
def daysBefore (year : Nat) : Nat :=
  let n := year - 1
  n * 365 + n / 4 - n / 100 + n / 400

/-- The number of a day; the first day of the first year is the first. -/
def ordinal (d : Date) : Nat :=
  daysBefore d.year + ((List.range (d.month - 1)).map fun m => daysIn d.year (m + 1)).sum + d.day

end Date

namespace Moment

/-- The minutes of universal time up to a moment, which is this far from universal time. -/
def universal (m : Moment) (offset : Int) : Int :=
  (((m.date.ordinal * 24 + m.hour) * 60 + m.minute : Nat) : Int) - offset

/-- Are two moments the same? What is known in universal time is compared in it, and is never the
same as what is not. -/
def same (a b : Moment) : Bool :=
  match a.offset, b.offset with
  | none, none => a == b
  | some m, some n =>
    a.universal m == b.universal n && a.second == b.second && a.microsecond == b.microsecond
  | _, _ => false

end Moment

end LintConfig
