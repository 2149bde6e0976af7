import Counterpart.Text.Basic

/-! Moments: a day and a time of day, to the microsecond. Days are counted from the first day of the
year 1, which was a Monday. -/

namespace Counterpart

structure Moment where
  year : Nat
  month : Nat
  day : Nat
  hour : Nat := 0
  minute : Nat := 0
  second : Nat := 0
  microsecond : Nat := 0
  /-- Whether it is said to be universal time; otherwise nothing is known about its zone. -/
  isUniversal : Bool := false
deriving DecidableEq

namespace Moment

def isLeap (year : Nat) : Bool := year % 4 == 0 && (year % 100 != 0 || year % 400 == 0)

/-- The days before a month of a common year, from January on. -/
def daysBefore : List Nat := [0, 31, 59, 90, 120, 151, 181, 212, 243, 273, 304, 334]

/-- The day of the year, counted from 1. -/
def dayOfYear (m : Moment) : Nat :=
  daysBefore[m.month - 1]?.getD 0 + m.day + if isLeap m.year && 2 < m.month then 1 else 0

/-- The days from the beginning of the year 1 to that of a year. -/
def daysBeforeYear (year : Nat) : Nat :=
  let past := year - 1
  365 * past + past / 4 - past / 100 + past / 400

/-- The day of the week, counted from Sunday. -/
def weekday (m : Moment) : Nat := (daysBeforeYear m.year + m.dayOfYear) % 7

/-- The day of the week, counted from Monday. -/
def mondayDay (m : Moment) : Nat := (m.weekday + 6) % 7

/-- The week of the year when weeks begin on the weekday `today` days ago; the days before the first
such weekday are week 0. -/
def weekFrom (m : Moment) (today : Nat) : Nat := (m.dayOfYear + 6 - today) / 7

/-- The weeks of a year if a week belongs to the year that has its Thursday. -/
def weeksIn (year : Nat) : Nat :=
  let newYear := daysBeforeYear year % 7
  if newYear = 3 ∨ (newYear = 2 ∧ isLeap year) then 53 else 52

/-- The year that has the Thursday of the week, and the number of the week in it. -/
def weekOf (m : Moment) : Nat × Nat :=
  let week := (m.dayOfYear + 9 - m.mondayDay) / 7
  if week = 0 then (m.year - 1, weeksIn (m.year - 1))
  else if weeksIn m.year < week then (m.year + 1, 1)
  else (m.year, week)

/-- The hour on the face of a clock. -/
def clockHour (m : Moment) : Nat := (m.hour + 11) % 12 + 1

def quarter (m : Moment) : Nat := (m.month + 2) / 3

/-- Seconds since the beginning of 1970. -/
def seconds (m : Moment) : Int :=
  let days : Int := daysBeforeYear m.year + m.dayOfYear - 1 - daysBeforeYear 1970
  ((days * 24 + m.hour) * 60 + m.minute) * 60 + m.second

def weekdayNames : List String :=
  ["Sunday", "Monday", "Tuesday", "Wednesday", "Thursday", "Friday", "Saturday"]

def monthNames : List String :=
  ["January", "February", "March", "April", "May", "June", "July", "August", "September", "October",
    "November", "December"]

def weekdayName (m : Moment) : Text := (weekdayNames[m.weekday]?.getD "").toList

def monthName (m : Moment) : Text := (monthNames[m.month - 1]?.getD "").toList

def half (m : Moment) : Text := if m.hour < 12 then "AM" else "PM"

end Moment

namespace Text

/-- A text filled up on its left. -/
def padLeft (fill : Char) (width : Nat) (s : Text) : Text :=
  List.replicate (width - s.length) fill ++ s

/-- The decimal digits of a number, with zeros in front. -/
def digits (width n : Nat) : Text := padLeft '0' width (ofNat n)

end Text

namespace Moment

def zoneName (m : Moment) : Text := if m.isUniversal then "UTC" else ""

/-- How far the zone is ahead of universal time. -/
def zoneOffset (m : Moment) (separator : Text) : Text :=
  if m.isUniversal then "+00" ++ separator ++ "00" else ""

/-- The day and the time of day with something between them. -/
def inFull (m : Moment) (separator : Text) : Text :=
  let fraction := if m.microsecond = 0 then [] else '.' :: Text.digits 6 m.microsecond
  Text.joinWith "-" [Text.digits 4 m.year, Text.digits 2 m.month, Text.digits 2 m.day] ++ separator
    ++ Text.joinWith ":" [Text.digits 2 m.hour, Text.digits 2 m.minute, Text.digits 2 m.second]
    ++ fraction ++ m.zoneOffset ":"

end Moment
end Counterpart
