/-!
Points in time, told by the calendar and the clock of the zero meridian. The calendar is the
Gregorian one without end in the past. A minute may have a second 60, for leap seconds.
-/

namespace DesktopAutomation

/-- A calendar date with a time of day. -/
structure CivilTime where
  year : Int
  month : Nat
  day : Nat
  hour : Nat
  minute : Nat
  second : Nat
  nano : Nat
deriving DecidableEq, Repr

/-- Every fourth year is a leap year, but of the full centuries only every fourth. -/
def isLeapYear (year : Int) : Bool :=
  year % 4 = 0 ∧ (year % 100 ≠ 0 ∨ year % 400 = 0)

/-- The number of days of a month. -/
def daysOfMonth (year : Int) (month : Nat) : Nat :=
  if month = 2 then (if isLeapYear year then 29 else 28)
  else if month ∈ [4, 6, 9, 11] then 30
  else 31

/-- The years that a timestamp may lie in. -/
def isYearInRange (year : Int) : Bool := -262143 ≤ year ∧ year ≤ 262142

namespace CivilTime

/-- The date exists and the time is one of a day. -/
def Valid (time : CivilTime) : Prop :=
  isYearInRange time.year ∧ 1 ≤ time.month ∧ time.month ≤ 12
    ∧ 1 ≤ time.day ∧ time.day ≤ daysOfMonth time.year time.month
    ∧ time.hour < 24 ∧ time.minute < 60 ∧ time.second ≤ 60 ∧ time.nano < 1000000000

instance (time : CivilTime) : Decidable time.Valid := by
  unfold Valid
  infer_instance

/-- The same time one day later. -/
def nextDay (time : CivilTime) : CivilTime :=
  if time.day < daysOfMonth time.year time.month then { time with day := time.day + 1 }
  else if time.month < 12 then { time with month := time.month + 1, day := 1 }
  else { time with year := time.year + 1, month := 1, day := 1 }

/-- The same time one day earlier. -/
def previousDay (time : CivilTime) : CivilTime :=
  if 1 < time.day then { time with day := time.day - 1 }
  else if 1 < time.month then
    { time with month := time.month - 1, day := daysOfMonth time.year (time.month - 1) }
  else { time with year := time.year - 1, month := 12, day := 31 }

/-- The time at the zero meridian when a clock `minutes` ahead of it shows `time`. Less than a day
lies between the two.
-/
def behind (time : CivilTime) (minutes : Int) : CivilTime :=
  let total := (time.hour * 60 + time.minute : Int) - minutes
  let shifted : CivilTime :=
    { time with hour := (total % 1440).toNat / 60, minute := (total % 1440).toNat % 60 }
  if total < 0 then shifted.previousDay
  else if 1440 ≤ total then shifted.nextDay
  else shifted

end CivilTime

/-- A point in time. -/
structure Timestamp where
  civil : CivilTime
  valid : civil.Valid
deriving DecidableEq

/-- A number with leading zeros up to a width. -/
def zeroPadded (width : Nat) (value : Nat) : List Char :=
  let digits := Nat.toDigits 10 value
  List.replicate (width - digits.length) '0' ++ digits

/-- A year has at least four digits, and a sign unless it has exactly four and is not negative. -/
def yearText (year : Int) : List Char :=
  if 0 ≤ year ∧ year ≤ 9999 then zeroPadded 4 year.toNat
  else (if year < 0 then '-' else '+') :: zeroPadded 4 year.natAbs

/-- The fraction of a second in as many groups of three digits as it needs, none if it is zero. -/
def fractionText (nano : Nat) : List Char :=
  if nano = 0 then []
  else if nano % 1000000 = 0 then '.' :: zeroPadded 3 (nano / 1000000)
  else if nano % 1000 = 0 then '.' :: zeroPadded 6 (nano / 1000)
  else '.' :: zeroPadded 9 nano

/-- The text of a timestamp, up to the mark of its zone. -/
def Timestamp.localText (time : Timestamp) : List Char :=
  let civil := time.civil
  yearText civil.year ++ '-' :: zeroPadded 2 civil.month ++ '-' :: zeroPadded 2 civil.day
    ++ 'T' :: zeroPadded 2 civil.hour ++ ':' :: zeroPadded 2 civil.minute
    ++ ':' :: zeroPadded 2 civil.second ++ fractionText civil.nano

/-- The text of a timestamp, as documents hold it. -/
def Timestamp.text (time : Timestamp) : String :=
  String.ofList (time.localText ++ ['Z'])

/-- The text of a timestamp, as listings show it. -/
def Timestamp.offsetText (time : Timestamp) : String :=
  String.ofList (time.localText ++ "+00:00".toList)

end DesktopAutomation
