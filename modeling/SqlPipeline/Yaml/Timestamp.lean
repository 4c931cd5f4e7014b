import SqlPipeline.Calendar
import SqlPipeline.Decimal.Reading
import SqlPipeline.Yaml.Cursor

/-!
# Written moments

A moment is written as a date, and optionally a time of day with a fraction of a second and a zone.
The date and the time stand apart by blanks or by the letter T. `Timestamp.read?` takes a writing
apart without asking whether the calendar has such a day, and `Timestamp.date` and
`Timestamp.momentAt` ask.
-/

namespace SqlPipeline

namespace Yaml

/-- A zone as it is written: universal time, or a sign, hours and minutes. -/
inductive Zone where
  | universal
  | offset (negative : Bool) (hours minutes : Nat)
  deriving DecidableEq, Repr

/-- A time of day as it is written. -/
structure TimeOfDay where
  hour : Nat
  minute : Nat
  second : Nat
  /-- The digits after the point. -/
  fraction : List Nat
  zone : Option Zone
  deriving DecidableEq, Repr

/-- A moment as it is written. -/
structure Timestamp where
  year : Nat
  month : Nat
  day : Nat
  time : Option TimeOfDay
  deriving DecidableEq, Repr

namespace Timestamp

/-- The value of one to `most` digits in front of a text, at least `least` of them, and what
follows. -/
def digits? (least most : Nat) (text : List Char) : Option (Nat × List Char) :=
  let run := (Decimal.digitRun Decimal.asciiDigit? (text.take most)).1
  if run.length < least then none else some (Decimal.ofDigits 10 run, text.drop run.length)

/-- What follows a mark in front of a text. -/
def after? (mark : Char) : List Char → Option (List Char)
  | [] => none
  | c :: rest => if c == mark then some rest else none

/-- The zone that a text is, from its first character that is no blank. -/
def zone? : List Char → Option Zone
  | ['Z'] => some .universal
  | sign :: text =>
    if sign == '+' || sign == '-' then do
      let (hours, rest) ← digits? 1 2 text
      if rest.isEmpty then return .offset (sign == '-') hours 0
      else
        let (minutes, last) ← digits? 2 2 (← after? ':' rest)
        if last.isEmpty then return .offset (sign == '-') hours minutes else none
    else none
  | [] => none

/-- The fraction of a second in front of a text, and what follows. -/
def fraction : List Char → List Nat × List Char
  | '.' :: rest => Decimal.digitRun Decimal.asciiDigit? rest
  | text => ([], text)

/-- The time of day that a text is. -/
def timeOfDay? (text : List Char) : Option TimeOfDay := do
  let (hour, afterHour) ← digits? 1 2 text
  let (minute, afterMinute) ← digits? 2 2 (← after? ':' afterHour)
  let (second, afterSecond) ← digits? 2 2 (← after? ':' afterMinute)
  let (fraction, rest) := fraction afterSecond
  if rest.isEmpty then return ⟨hour, minute, second, fraction, none⟩
  else return ⟨hour, minute, second, fraction, some (← zone? (rest.dropWhile isGap))⟩

/-- What follows the gap between a date and a time. -/
def afterGap? : List Char → Option (List Char)
  | [] => none
  | c :: rest =>
    if c == 'T' || c == 't' then some rest
    else if isGap c then some (rest.dropWhile isGap)
    else none

/-- Takes a written moment apart. -/
def read? (text : List Char) : Option Timestamp := do
  let (year, afterYear) ← digits? 4 4 text
  let (month, afterMonth) ← digits? 1 2 (← after? '-' afterYear)
  let (day, rest) ← digits? 1 2 (← after? '-' afterMonth)
  if rest.isEmpty then return ⟨year, month, day, none⟩
  else return ⟨year, month, day, some (← timeOfDay? (← afterGap? rest))⟩

/-- Whether a text looks like a moment: a date without a time needs all its digits. -/
def isLike (text : List Char) : Bool :=
  (read? text).any fun timestamp => timestamp.time.isSome || text.length == 10

/-- Microseconds from the digits of a fraction; further digits are dropped. -/
def microseconds (fraction : List Nat) : Nat :=
  Decimal.ofDigits 10 ((fraction ++ List.replicate 6 0).take 6)

/-- The distance of a zone from universal time. -/
def Zone.distance : Zone → Duration
  | .universal => ⟨0⟩
  | .offset negative hours minutes => ⟨Decimal.withSign negative (hours * 60 + minutes)⟩

/-- The date of a written moment. -/
def date (timestamp : Timestamp) : Except CalendarFault Date :=
  Date.ofParts timestamp.year timestamp.month timestamp.day

/-- The moment at a time of the day. -/
def momentAt (timestamp : Timestamp) (time : TimeOfDay) : Except CalendarFault Moment :=
  Moment.ofParts timestamp.date time.hour time.minute time.second (microseconds time.fraction)
    (time.zone.map Zone.distance)

end Timestamp

end Yaml

end SqlPipeline
