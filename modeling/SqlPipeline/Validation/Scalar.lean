import SqlPipeline.Decimal.Reading
import SqlPipeline.Pipeline.Graph
import SqlPipeline.Text.Search
import SqlPipeline.Validation.Field

/-!
# Reading scalars

Coordinates may be spelled as numbers, truth values or decimal texts; switches as truth values, zero
and one, or a few words. The literal of a condition is never converted: each kind of scalar stays
what it is.
-/

namespace SqlPipeline

namespace Decimal

/-- A number in ASCII: a decimal, or a word for infinity or for what is not a number, in any letter
case. -/
def ofAscii? (text : List Char) : Option Float :=
  let (negative, unsigned) := signed text
  let word := unsigned.map Char.toLower
  let infinite := Float.ofBits (UInt64.ofNat infinityBits)
  if word == "inf".toList || word == "infinity".toList then
    some (if negative then -infinite else infinite)
  else if word == "nan".toList then some (0 / 0)
  else (Spelled.readUnsigned? asciiDigit? negative unsigned).map Spelled.toFloat

/-- Whether underscores stand singly between other characters. -/
def underscoresSeparate (text : List Char) : Bool :=
  text.head? != some '_' && text.getLast? != some '_' && !Text.contains ['_', '_'] text

/-- A number as people type it: trimmed, or with underscores between its characters. -/
def ofTyped? (text : List Char) : Option Float :=
  if text.contains '_' then
    if underscoresSeparate text then ofAscii? (Text.without '_' text) else none
  else ofAscii? (Text.trimSpacing text)

/-- A whole number as people type it: trimmed, perhaps with underscores between its characters and
with zeros behind a point, and not too long. -/
def wholeTyped? (text : List Char) : Option Int := do
  let typed := Text.trimSpacing text
  let spelled ← Spelled.read? asciiDigit? (Text.without '_' typed)
  let onlyZeros := (spelled.after.getD []).all (· == 0)
  if underscoresSeparate typed && spelled.exponent.isNone && !spelled.before.isEmpty && onlyZeros &&
      spelled.before.length ≤ maxWholeDigits then
    some spelled.wholePart
  else none

end Decimal

namespace Value

/-- Reads a number. -/
def readNumber (value : Value) : Checked Float :=
  match value with
  | .float number => .valid number
  | .int number =>
    match Decimal.ofInt? number with
    | some number => .valid number
    | none => .complain .notNumber
  | .bool flag => .valid (if flag then 1 else 0)
  | other =>
    match other.heldText? with
    | none => .complain .notNumber
    | some text =>
      match text.bind fun text => Decimal.ofTyped? text.toList with
      | some number => .valid number
      | none => .complain .unreadableNumber

/-- The words for on and off. -/
def flagWords : List (String × Bool) :=
  [("1", true), ("true", true), ("t", true), ("yes", true), ("y", true), ("on", true),
    ("0", false), ("false", false), ("f", false), ("no", false), ("n", false), ("off", false)]

/-- The switch that a word stands for, in any letter case. -/
def flagOf? (word : String) : Option Bool :=
  (flagWords.find? fun (known, _) => known.toList == word.toList.map Char.toLower).map Prod.snd

/-- Two to the power of sixty-three: the size beyond which a number is not looked at as a switch. -/
def machineLimit : Int := 0x8000000000000000

/-- Reads a whole number within the limit as a switch: zero or one. -/
def readBinary (number : Int) : Checked Bool :=
  if number == 0 then .valid false
  else if number == 1 then .valid true
  else .complain .unreadableFlag

/-- Reads a switch. -/
def readFlag (value : Value) : Checked Bool :=
  match value with
  | .bool flag => .valid flag
  | .int number =>
    if -machineLimit ≤ number && number < machineLimit then readBinary number
    else .complain .notFlag
  | .float number =>
    match (Decimal.whole? number).filter fun whole => whole.natAbs < machineLimit.natAbs with
    | some whole => readBinary whole
    | none => .complain .notFlag
  | other =>
    match other.heldText? with
    | none => .complain .notFlag
    | some word =>
      match word.bind flagOf? with
      | some flag => .valid flag
      | none => .complain .unreadableFlag

/-- What a document lacks to be a literal, alternative by alternative. -/
def noLiteral (flag whole number text : Complaint) (list : Checked (List String)) :
    Checked Literal :=
  .invalid ⟨[.field "bool"], flag⟩ ([⟨[.field "int"], whole⟩, ⟨[.field "float"], number⟩,
    ⟨[.field "str"], text⟩] ++ (list.under (.field "list[str]")).faults)

/-- The literal that a text given in bytes stands for. -/
def literalOf (text : String) : Literal :=
  match flagOf? text, Decimal.wholeTyped? text.toList, Decimal.ofTyped? text.toList with
  | some flag, _, _ => .bool flag
  | none, some number, _ => .int number
  | none, none, some number => .float number
  | none, none, none => .str text

/-- Reads the literal of a condition. Only bytes are converted, which are no literal themselves. -/
def readLiteral : Value → Checked Literal
  | .null => .valid .null
  | .bool flag => .valid (.bool flag)
  | .int number => .valid (.int number)
  | .float number => .valid (.float number)
  | .str text => .valid (.str text)
  | .bytes content =>
    match (Text.decode content).toOption with
    | some text => .valid (literalOf text)
    | none =>
      noLiteral .unreadableFlag .unreadableWhole .unreadableNumber .unreadableText
        (readList readText (.bytes content))
  | other =>
    match readList readText other with
    | .valid items => .valid (.list items)
    | failed => noLiteral .notFlag .notWhole .notNumber .notText failed

end Value

end SqlPipeline
