import SqlPipeline.Text.Base64
import SqlPipeline.Text.LowerCase
import SqlPipeline.Yaml.Fault
import SqlPipeline.Yaml.Looks

/-!
# What scalars spell

A scalar of a kind is read more freely than its looks demand: a text marked as a number may have
blanks around it, digits of any script or a further sign. What it spells is a key, so that it may
also stand in front of an entry.
-/

namespace SqlPipeline

namespace Yaml

namespace Scalar

/-- The truth value that a scalar spells, in any letter case. -/
def readFlag (text : String) : Except Fault Bool :=
  let word := String.ofList (Text.lower text.toList)
  if trueWords.contains word then .ok true
  else if falseWords.contains word then .ok false
  else .error (.badWord word)

/-- The value of a digit of a base: of any script, or a letter up to f. -/
def digitOf? (base : Nat) (c : Char) : Option Nat :=
  (asciiDigitOf? base c) <|> (Text.digitValue? c).filter (· < base)

/-- The letter that may stand after a leading zero to show a base. -/
def baseLetter? (base : Nat) : Option Char :=
  if base == 2 then some 'b' else if base == 8 then some 'o' else if base == 16 then some 'x'
  else none

/-- A number without the zero and the letter that show its base. -/
def withoutBase (base : Nat) : List Char → List Char
  | '0' :: letter :: rest =>
    if baseLetter? base == some letter.toLower then rest else '0' :: letter :: rest
  | text => text

/-- A whole number in a base, with an optional sign and blanks around it. -/
def wholeIn (base : Nat) (text : List Char) : Except Fault Int :=
  let (negative, number) := Decimal.signed (Text.trimSpacing text)
  let (digits, rest) := Decimal.digitRun (digitOf? base) (withoutBase base number)
  if base == 10 && maxWholeDigits < digits.length then .error (.tooManyDigits digits.length)
  else if digits.isEmpty || !rest.isEmpty then .error (.badWhole base (String.ofList text))
  else .ok (Decimal.withSign negative (Decimal.ofDigits base digits))

/-- A whole number from its parts in base sixty, the first part the most significant. -/
def wholeSixtieths (parts : List Int) : Int :=
  parts.foldl (fun total part => total * 60 + part) 0

/-- The whole number that a scalar spells. Underscores do not count. -/
def readWhole (text : String) : Except Fault Int := do
  let digits := Text.without '_' text.toList
  let (negative, magnitude) := Decimal.signed digits
  let signed (number : Int) : Int := if negative then -number else number
  match magnitude with
  | [] => .error .emptyNumber
  | ['0'] => .ok 0
  | '0' :: 'b' :: binary => signed <$> wholeIn 2 binary
  | '0' :: 'x' :: hexadecimal => signed <$> wholeIn 16 hexadecimal
  | '0' :: _ => signed <$> wholeIn 8 magnitude
  | _ =>
    if magnitude.contains ':' then do
      let parts ← (Text.splitOn ':' magnitude).mapM (wholeIn 10)
      .ok (signed (wholeSixtieths parts))
    else signed <$> wholeIn 10 magnitude

/-- A number with an optional sign and blanks around it, or a word for infinity or for no number. -/
def numberIn (text : List Char) : Except Fault Float :=
  let trimmed := Text.trimSpacing text
  let (negative, magnitude) := Decimal.signed trimmed
  let infinite := Float.ofBits (UInt64.ofNat Decimal.infinityBits)
  if magnitude == "inf".toList || magnitude == "infinity".toList then
    .ok (if negative then -infinite else infinite)
  else if magnitude == "nan".toList then .ok (0 / 0)
  else
    match Decimal.Spelled.read? Text.digitValue? trimmed with
    | some spelled => .ok spelled.toFloat
    | none => .error (.badNumber (String.ofList text))

/-- A number from its parts in base sixty, the least significant part first, each part counting
`unit` times. The powers of sixty have to be within the range of doubles. -/
def sixtieths (unit : Nat) (total : Float) : List Float → Except Fault Float
  | [] => .ok total
  | part :: parts =>
    match Decimal.ofInt? unit with
    | some factor => sixtieths (unit * 60) (total + part * factor) parts
    | none => .error .hugeNumber

/-- The common spelling of what is not a number. -/
def notNumberWord : List Char := ".nan".toList

/-- A scalar marked as a number, in lower case and without underscores. -/
def numberText (text : String) : List Char :=
  Text.lower (Text.without '_' text.toList)

/-- The number that a scalar spells. Underscores do not count. -/
def readNumber (text : String) : Except Fault Float := do
  let spelled := numberText text
  if spelled.isEmpty then .error .emptyNumber
  else
    let (negative, magnitude) := Decimal.signed spelled
    let signed (number : Float) : Float := if negative then -number else number
    if magnitude == ".inf".toList then
      .ok (signed (Float.ofBits (UInt64.ofNat Decimal.infinityBits)))
    else if magnitude == notNumberWord then .ok (0 / 0)
    else if magnitude.contains ':' then do
      let parts ← (Text.splitOn ':' magnitude).mapM numberIn
      signed <$> sixtieths 1 0 parts.reverse
    else signed <$> numberIn magnitude

/-- The key for a number that a scalar spells. All scalars with the common spelling of what is not a
number are one key; each scalar with another spelling of it is a key of its own. -/
def numberKey (mark : Nat) (text : String) (number : Float) : Key :=
  if number.isNaN && (Decimal.signed (numberText text)).2 != notNumberWord then .notNumber mark
  else .float number

/-- The bytes that a scalar spells. -/
def readBytes (text : String) : Except Fault (List UInt8) :=
  if text.toList.all fun c => c.toNat < 128 then
    match Text.Base64.decode? text.toList with
    | some bytes => .ok bytes
    | none => .error .malformed
  else .error .malformed

/-- The date or the moment that a scalar spells. -/
def readMoment (text : String) : Except Fault Key :=
  match Timestamp.read? (withoutLastBreak text.toList) with
  | none => .error .notMoment
  | some timestamp =>
    match timestamp.time with
    | none => (timestamp.date.map Key.date).mapError .calendar
    | some time => ((timestamp.momentAt time).map Key.moment).mapError .calendar

/-- What a scalar of a kind spells; the mark tells it apart from other scalars. -/
def read (kind : Kind) (mark : Nat) (text : String) : Except Fault Key :=
  match kind with
  | .null => .ok .null
  | .bool => .bool <$> readFlag text
  | .int => .int <$> readWhole text
  | .float => numberKey mark text <$> readNumber text
  | .bytes => .bytes <$> readBytes text
  | .moment => readMoment text
  | .str => .ok (.str text)
  | _ => .error .malformed

end Scalar

end Yaml

end SqlPipeline
