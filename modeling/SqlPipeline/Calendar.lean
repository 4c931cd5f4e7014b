/-!
# Days and moments

A date is a day of the calendar from the year one on, with leap years by the Gregorian rule. A
moment is a date with a time of day and, if it is known, the distance of its clock from universal
time. Two moments with known distances are the same when they denote the same instant.
-/

namespace SqlPipeline

/-- A number in base ten, filled with zeros to a width. -/
def zeroFilled (width number : Nat) : String :=
  let digits := (toString number).toList
  String.ofList (List.replicate (width - digits.length) '0' ++ digits)

/-- A length of time in whole minutes. -/
structure Duration where
  minutes : Int
  deriving DecidableEq, Repr

namespace Duration

/-- The minutes of a day. -/
def minutesPerDay : Int := 24 * 60

/-- Whole days, rounded down, and the seconds that remain. -/
def parts (duration : Duration) : Int × Int :=
  (duration.minutes.fdiv minutesPerDay, duration.minutes.fmod minutesPerDay * 60)

/-- Whether a length of time is shorter than a day, whatever its sign. -/
def isUnderOneDay (duration : Duration) : Bool :=
  duration.minutes.natAbs < minutesPerDay.natAbs

/-- A length of time in messages; parts that are zero are left out. -/
def quoted (duration : Duration) : String :=
  let (days, seconds) := duration.parts
  let shown :=
    (if days == 0 then [] else ["days=" ++ toString days]) ++
      (if seconds == 0 then [] else ["seconds=" ++ toString seconds])
  "datetime.timedelta(" ++ (if shown.isEmpty then "0" else ", ".intercalate shown) ++ ")"

end Duration

/-- What is wrong with a date or a time. -/
inductive CalendarFault where
  | year (number : Nat)
  | month
  | day
  | hour
  | minute
  | second
  | offset (length : Duration)
  deriving DecidableEq, Repr

/-- The wording of what is wrong. -/
def CalendarFault.message : CalendarFault → String
  | .year number => "year " ++ toString number ++ " is out of range"
  | .month => "month must be in 1..12"
  | .day => "day is out of range for month"
  | .hour => "hour must be in 0..23"
  | .minute => "minute must be in 0..59"
  | .second => "second must be in 0..59"
  | .offset length =>
    "offset must be a timedelta strictly between -timedelta(hours=24) and timedelta(hours=24), " ++
      "not " ++ length.quoted ++ "."

/-- A day of the calendar. -/
structure Date where
  year : Nat
  month : Nat
  day : Nat
  deriving DecidableEq, Repr

namespace Date

/-- Whether a year has a day more. -/
def isLeap (year : Nat) : Bool :=
  year % 4 == 0 && (year % 100 != 0 || year % 400 == 0)

/-- The days of a month. -/
def daysIn (year month : Nat) : Nat :=
  if month == 2 then (if isLeap year then 29 else 28)
  else if month == 4 || month == 6 || month == 9 || month == 11 then 30
  else 31

/-- The days of a year before a month. -/
def daysBefore (year : Nat) : Nat → Nat
  | 0 => 0
  | 1 => 0
  | month + 1 => daysBefore year month + daysIn year month

/-- The date with the given parts, if the calendar has it. -/
def ofParts (year month day : Nat) : Except CalendarFault Date :=
  if year == 0 || 9999 < year then .error (.year year)
  else if month == 0 || 12 < month then .error .month
  else if day == 0 || daysIn year month < day then .error .day
  else .ok ⟨year, month, day⟩

/-- The number of a day, counted from the first day of the year one. -/
def ordinal (date : Date) : Nat :=
  let years := date.year - 1
  365 * years + years / 4 - years / 100 + years / 400 + daysBefore date.year date.month + date.day

/-- A date as text: year, month and day. -/
def text (date : Date) : String :=
  "-".intercalate [zeroFilled 4 date.year, zeroFilled 2 date.month, zeroFilled 2 date.day]

/-- A date inside another document in messages. -/
def quoted (date : Date) : String :=
  "datetime.date(" ++
    ", ".intercalate ([date.year, date.month, date.day].map Nat.repr) ++ ")"

end Date

/-- A moment: a date, a time of day, and the distance from universal time if it is known. -/
structure Moment where
  date : Date
  hour : Nat
  minute : Nat
  second : Nat
  microsecond : Nat
  offset : Option Duration
  deriving DecidableEq, Repr

namespace Moment

/-- The moment with the given parts, if they are in range. -/
def ofParts (date : Except CalendarFault Date) (hour minute second microsecond : Nat)
    (offset : Option Duration) : Except CalendarFault Moment := do
  match offset with
  | some offset => if !offset.isUnderOneDay then throw (.offset offset)
  | none => pure ()
  let date ← date
  if 23 < hour then throw .hour
  else if 59 < minute then throw .minute
  else if 59 < second then throw .second
  else return ⟨date, hour, minute, second, microsecond, offset⟩

/-- The microseconds from the beginning of the calendar on the clock of a moment. -/
def clock (moment : Moment) : Int :=
  let minutes := (moment.date.ordinal * 24 + moment.hour) * 60 + moment.minute
  ((minutes * 60 + moment.second) * 1000000 + moment.microsecond : Nat)

/-- The microseconds from the beginning of the calendar in universal time, if that is known. -/
def instant? (moment : Moment) : Option Int :=
  moment.offset.map fun offset => moment.clock - offset.minutes * 60000000

/-- A distance from universal time as text: a sign, hours and minutes. -/
def offsetText (offset : Duration) : String :=
  let size := offset.minutes.natAbs
  (if offset.minutes < 0 then "-" else "+") ++ zeroFilled 2 (size / 60) ++ ":" ++
    zeroFilled 2 (size % 60)

/-- A moment as text. -/
def text (moment : Moment) : String :=
  let time := ":".intercalate
    [zeroFilled 2 moment.hour, zeroFilled 2 moment.minute, zeroFilled 2 moment.second]
  let fraction :=
    if moment.microsecond == 0 then "" else "." ++ zeroFilled 6 moment.microsecond
  moment.date.text ++ " " ++ time ++ fraction ++ (moment.offset.map offsetText).getD ""

/-- A distance from universal time inside another document in messages. -/
def quotedOffset (offset : Duration) : String :=
  if offset.minutes == 0 then "datetime.timezone.utc"
  else "datetime.timezone(" ++ offset.quoted ++ ")"

/-- A moment inside another document in messages; seconds and microseconds that are zero are left
out at the end. -/
def quoted (moment : Moment) : String :=
  let fine :=
    if moment.microsecond != 0 then [moment.second, moment.microsecond]
    else if moment.second != 0 then [moment.second]
    else []
  let numbers :=
    [moment.date.year, moment.date.month, moment.date.day, moment.hour, moment.minute] ++ fine
  let zone := moment.offset.toList.map fun offset => "tzinfo=" ++ quotedOffset offset
  "datetime.datetime(" ++ ", ".intercalate (numbers.map Nat.repr ++ zone) ++ ")"

end Moment

end SqlPipeline
