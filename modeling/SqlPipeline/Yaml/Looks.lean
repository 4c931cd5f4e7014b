import SqlPipeline.Decimal.Reading
import SqlPipeline.Text.Search
import SqlPipeline.Yaml.Kind
import SqlPipeline.Yaml.Timestamp

/-!
# Scalars by their looks

A plain scalar without a tag is null, a truth value, a number, a moment or a text by its looks: the
rules of the older version of the format, with words for truth values, several bases for whole
numbers and parts in base sixty. One line break at the end of a scalar does not change its looks.
-/

namespace SqlPipeline

namespace Yaml

namespace Scalar

/-- The words for true. -/
def trueWords : List String :=
  ["yes", "Yes", "YES", "true", "True", "TRUE", "on", "On", "ON"]

/-- The words for false. -/
def falseWords : List String :=
  ["no", "No", "NO", "false", "False", "FALSE", "off", "Off", "OFF"]

/-- The words for null. -/
def nullWords : List String := ["~", "null", "Null", "NULL"]

/-- The scalars that only look like marks of the format. -/
def markWords : List String := ["!", "&", "*"]

/-- A text without its sign. -/
def unsigned : List Char → List Char
  | '+' :: rest => rest
  | '-' :: rest => rest
  | text => text

/-- The value of an ASCII digit of a base up to sixteen, with letters in either case. -/
def asciiDigitOf? (base : Nat) (c : Char) : Option Nat :=
  let value? :=
    if c.isDigit then some (c.toNat - 48)
    else if 'a' ≤ c.toLower && c.toLower ≤ 'f' then some (c.toLower.toNat - 87)
    else none
  value?.filter (· < base)

/-- A digit of a base, or an underscore. -/
def isDigitOrGap (base : Nat) (c : Char) : Bool :=
  c == '_' || (asciiDigitOf? base c).isSome

/-- Digits and underscores of a base, at least one. -/
def isRun (base : Nat) (text : List Char) : Bool :=
  !text.isEmpty && text.all (isDigitOrGap base)

/-- Digits and underscores that begin with a digit. -/
def isNumberRun (text : List Char) : Bool :=
  text.head?.any Char.isDigit && text.all (isDigitOrGap 10)

/-- One or two digits below sixty. -/
def isSixtieth : List Char → Bool
  | [last] => last.isDigit
  | [first, last] => '0' ≤ first && first ≤ '5' && last.isDigit
  | _ => false

/-- Whether a text without sign looks like a whole number. -/
def looksWhole (text : List Char) : Bool :=
  match text with
  | '0' :: 'b' :: digits => isRun 2 digits
  | '0' :: 'x' :: digits => isRun 16 digits
  | ['0'] => true
  | '0' :: digits => isRun 8 digits
  | _ =>
    match Text.splitOn ':' text with
    | first :: others => first.head? != some '0' && isNumberRun first && others.all isSixtieth
    | [] => false

/-- Whether a text looks like an exponent with a sign, or is empty. -/
def looksExponent : List Char → Bool
  | [] => true
  | letter :: sign :: digits =>
    (letter == 'e' || letter == 'E') && (sign == '+' || sign == '-') && !digits.isEmpty &&
      digits.all Char.isDigit
  | _ => false

/-- Whether a text without sign looks like digits before and after a point. -/
def looksDecimal (mayLead : Bool) (text : List Char) : Bool :=
  let before := text.takeWhile (isDigitOrGap 10)
  match text.dropWhile (isDigitOrGap 10) with
  | '.' :: rest =>
    let after := rest.takeWhile (isDigitOrGap 10)
    let exponent := rest.dropWhile (isDigitOrGap 10)
    looksExponent exponent &&
      (isNumberRun before || (mayLead && before.isEmpty && isNumberRun after))
  | _ => false

/-- Whether a text without sign looks like parts in base sixty before a point. -/
def looksSixtieths (text : List Char) : Bool :=
  let before := text.takeWhile (· != '.')
  match text.dropWhile (· != '.'), Text.splitOn ':' before with
  | '.' :: after, first :: second :: others =>
    isNumberRun first && (second :: others).all isSixtieth && after.all (isDigitOrGap 10)
  | _, _ => false

/-- Whether a text looks like a number with a point. Only a number without sign may begin with
it. -/
def looksFraction (text : List Char) : Bool :=
  let digits := unsigned text
  let word := String.ofList
  looksDecimal (digits.length == text.length) digits || looksSixtieths digits ||
    [".inf", ".Inf", ".INF"].contains (word digits) || [".nan", ".NaN", ".NAN"].contains (word text)

/-- The kind of a scalar that is not empty, by its looks. -/
def looksOfLine (line : List Char) : Kind :=
  let word := String.ofList line
  if nullWords.contains word then .null
  else if trueWords.contains word || falseWords.contains word then .bool
  else if looksFraction line then .float
  else if looksWhole (unsigned line) then .int
  else if Timestamp.isLike line then .moment
  else if word == "<<" then .merge
  else if word == "=" then .default
  else if markWords.contains word then .unknown
  else .str

/-- A text without one line break at its end. -/
def withoutLastBreak (text : List Char) : List Char :=
  if text.getLast? == some '\n' then text.dropLast else text

/-- The kind of a scalar by its looks. -/
def looks (text : String) : Kind :=
  if text.isEmpty then .null
  else
    match withoutLastBreak text.toList with
    | [] => .str
    | line => looksOfLine line

end Scalar

end Yaml

end SqlPipeline
