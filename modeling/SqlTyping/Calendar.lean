/-
Days of the proleptic Gregorian calendar and times of day, as they are written in literals. Only
days that exist and times that a clock can show are values.
-/

namespace SqlTyping

/-- February has 29 days. -/
def isLeapYear (year : Int) : Bool :=
  year % 4 == 0 && (year % 100 != 0 || year % 400 == 0)

/-- Number of days of a month; a month that does not exist has none. -/
def daysInMonth (year : Int) (month : Nat) : Nat :=
  match month with
  | 1 | 3 | 5 | 7 | 8 | 10 | 12 => 31
  | 4 | 6 | 9 | 11 => 30
  | 2 => if isLeapYear year then 29 else 28
  | _ => 0

/-- A day of the calendar; years reach from -262143 to 262142. -/
structure Date where
  year : Int
  month : Nat
  day : Nat
  year_bounds : -262143 ≤ year ∧ year ≤ 262142
  day_bounds : 1 ≤ day ∧ day ≤ daysInMonth year month
  deriving DecidableEq

/-- The day with that year, month and day of the month, if it exists. -/
def Date.of? (year : Int) (month day : Nat) : Option Date :=
  if hy : -262143 ≤ year ∧ year ≤ 262142 then
    if hd : 1 ≤ day ∧ day ≤ daysInMonth year month then some ⟨year, month, day, hy, hd⟩ else none
  else none

/-- A time of day. The last second of a minute may be a leap second, with a second billion of
nanoseconds. -/
structure TimeOfDay where
  hour : Nat
  minute : Nat
  second : Nat
  nanosecond : Nat
  clock_bounds : hour < 24 ∧ minute < 60 ∧ second < 60
  nanosecond_bounds : nanosecond < 1000000000 ∨ second = 59 ∧ nanosecond < 2000000000
  deriving DecidableEq

/-- The time of day with those parts, if a clock can show it. -/
def TimeOfDay.of? (hour minute second nanosecond : Nat) : Option TimeOfDay :=
  if hc : hour < 24 ∧ minute < 60 ∧ second < 60 then
    if hn : nanosecond < 1000000000 ∨ second = 59 ∧ nanosecond < 2000000000 then
      some ⟨hour, minute, second, nanosecond, hc, hn⟩
    else none
  else none

/-- A time of a day. -/
structure Timestamp where
  date : Date
  time : TimeOfDay
  deriving DecidableEq

end SqlTyping
