/-!
# Civil dates

A day is counted from the first of January 1970. Its year, month and day follow
from the cycle of 400 years, which holds 146097 days; inside the cycle years are
taken to begin in March, so that the leap day is the last day of its year.
-/

namespace Switchyard

/-- A day of the Gregorian calendar. -/
structure Date where
  year : Nat
  month : Nat
  day : Nat
deriving DecidableEq, Repr

namespace Date

/-- The date of a day that is counted from the first of January 1970. -/
def ofDays (days : Nat) : Date :=
  let shifted := days + 719468
  let cycle := shifted / 146097
  let dayOfCycle := shifted % 146097
  let yearOfCycle :=
    (dayOfCycle - dayOfCycle / 1460 + dayOfCycle / 36524 -
      dayOfCycle / 146096) / 365
  let dayOfYear :=
    dayOfCycle - (365 * yearOfCycle + yearOfCycle / 4 - yearOfCycle / 100)
  let monthFromMarch := (5 * dayOfYear + 2) / 153
  let day := dayOfYear - (153 * monthFromMarch + 2) / 5 + 1
  let month := if monthFromMarch < 10 then monthFromMarch + 3
    else monthFromMarch - 9
  let year := yearOfCycle + cycle * 400
  ⟨if month ≤ 2 then year + 1 else year, month, day⟩

end Date

namespace Calendar

/-- A number with at least as many digits as asked for, led by zeros. -/
def padded (width number : Nat) : String :=
  let digits := toString number
  String.ofList (List.replicate (width - digits.length) '0') ++ digits

def yearText (year : Nat) : String :=
  if year ≤ 9999 then padded 4 year else "+" ++ toString year

/-- The last millisecond that has a date: the end of the year 262142. -/
def lastMillis : Nat := 8210266876799999

/-- The date and the time of day, in UTC, of a moment in milliseconds since
1970. -/
def timestampText (millis : Nat) : String :=
  let seconds := millis / 1000
  let date := Date.ofDays (seconds / 86400)
  let timeOfDay := seconds % 86400
  yearText date.year ++ "-" ++ padded 2 date.month ++ "-" ++
    padded 2 date.day ++ " " ++
    padded 2 (timeOfDay / 3600) ++ ":" ++
    padded 2 (timeOfDay / 60 % 60) ++ ":" ++ padded 2 (timeOfDay % 60)

example : timestampText 1700000000000 = "2023-11-14 22:13:20" := by
    decide +kernel

example : Date.ofDays (lastMillis / 86400000) = ⟨262142, 12, 31⟩ := by
    decide +kernel

example : Date.ofDays (lastMillis / 86400000 + 1) = ⟨262143, 1, 1⟩ := by
    decide +kernel

end Calendar

end Switchyard
