import SqlPipeline.Value.Display
import SqlPipeline.Value.Writable

/-!
# What is wrong with a document text

Most texts that are no documents break the rules of structure, or ask for data of a kind that is not
known; their fault has no wording of its own. A text may also be well formed and mark a scalar as
something that it does not spell. Such faults say what was spelled.
-/

namespace SqlPipeline

namespace Yaml

/-- Why a text is not a document of plain data. -/
inductive Fault where
  /-- The text breaks the rules of structure, or asks for data of a kind that is not known. -/
  | malformed
  /-- An escape asks for a character beyond the last one. -/
  | noCharacter
  /-- An escape asks for a character by a number that is too large for any. -/
  | hugeCharacter
  /-- A scalar marked as a truth value is none. -/
  | badWord (word : String)
  /-- A scalar marked as a number has no digits. -/
  | emptyNumber
  /-- A scalar marked as a whole number is none in its base. -/
  | badWhole (base : Nat) (text : String)
  /-- A scalar marked as a number is none. -/
  | badNumber (text : String)
  /-- A whole number has more digits than are read. -/
  | tooManyDigits (count : Nat)
  /-- A number in base sixty has more parts than a double can hold. -/
  | hugeNumber
  /-- A scalar marked as a moment is none. -/
  | notMoment
  /-- A mapping is marked as a moment. -/
  | momentOfMapping
  /-- A date or a time is not in the calendar. -/
  | calendar (fault : CalendarFault)
  /-- A scalar is given by a mapping that leads back to itself. -/
  | endless
  deriving DecidableEq, Repr

/-- The longest part of a quoted text that a message about a whole number shows. -/
def shownLength : Nat := 200

/-- The wording of a fault. -/
def Fault.message : Fault → String
  | .malformed => "malformed document"
  | .noCharacter => "chr() arg not in range(0x110000)"
  | .hugeCharacter => "Python int too large to convert to C int"
  | .badWord word => Text.quoted word
  | .emptyNumber => "string index out of range"
  | .badWhole base text =>
    "invalid literal for int() with base " ++ toString base ++ ": " ++
      String.ofList ((Text.quoted text).toList.take shownLength)
  | .badNumber text => "could not convert string to float: " ++ Text.quoted text
  | .tooManyDigits count =>
    "Exceeds the limit (" ++ toString maxWholeDigits ++ " digits) for integer string conversion: " ++
      "value has " ++ toString count ++
      " digits; use sys.set_int_max_str_digits() to increase the limit"
  | .hugeNumber => "int too large to convert to float"
  | .notMoment => "'NoneType' object has no attribute 'groupdict'"
  | .momentOfMapping => "expected string or bytes-like object, got 'list'"
  | .calendar fault => fault.message
  | .endless => "maximum recursion depth exceeded"

end Yaml

end SqlPipeline
