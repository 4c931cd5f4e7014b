import SqlPipeline.Value.Basic
import SqlPipeline.Decimal.Shortest
import SqlPipeline.Text.Word

/-!
# Documents as text

Messages show documents on one line. A text by itself is shown bare, and so are dates and moments;
inside a list or a mapping they are quoted, a text with escapes for what would be invisible. Bytes
are always quoted, with escapes for all but visible ASCII.
-/

namespace SqlPipeline

namespace Text

/-- The digits of a number in base sixteen, in lower case and filled with zeros. -/
def hexDigits (width number : Nat) : List Char :=
  let digits := Nat.toDigits 16 number
  List.replicate (width - digits.length) '0' ++ digits

/-- One character of a quoted text. -/
def escapeChar (mark c : Char) : List Char :=
  if c == mark || c == '\\' then ['\\', c]
  else if c == '\n' then ['\\', 'n']
  else if c == '\r' then ['\\', 'r']
  else if c == '\t' then ['\\', 't']
  else if isPrintable c then [c]
  else if c.toNat < 0x100 then ['\\', 'x'] ++ hexDigits 2 c.toNat
  else if c.toNat < 0x10000 then ['\\', 'u'] ++ hexDigits 4 c.toNat
  else ['\\', 'U'] ++ hexDigits 8 c.toNat

/-- The mark around a quoted text: single, unless only single marks occur inside. -/
def quoteMark (text : List Char) : Char :=
  if text.contains '\'' && !text.contains '"' then '"' else '\''

/-- A text between quotation marks. -/
def quoted (text : String) : String :=
  let mark := quoteMark text.toList
  String.ofList (mark :: (text.toList.flatMap (escapeChar mark) ++ [mark]))

/-- One byte of quoted bytes: an escape beyond ASCII, the character otherwise. -/
def escapeByte (mark : Char) (byte : UInt8) : List Char :=
  if byte < 128 then escapeChar mark (Char.ofNat byte.toNat)
  else ['\\', 'x'] ++ hexDigits 2 byte.toNat

/-- Bytes between quotation marks. -/
def quotedBytes (bytes : List UInt8) : String :=
  let mark := quoteMark (bytes.map fun byte => Char.ofNat byte.toNat)
  String.ofList ('b' :: mark :: (bytes.flatMap (escapeByte mark) ++ [mark]))

end Text

/-- A truth value in messages. -/
def boolText (flag : Bool) : String :=
  if flag then "True" else "False"

/-- A key inside a document. -/
def Key.quoted : Key → String
  | .null => "None"
  | .bool flag => boolText flag
  | .int number => toString number
  | .float number => Decimal.text number
  | .notNumber _ => Decimal.text (0 / 0)
  | .str text => Text.quoted text
  | .bytes content => Text.quotedBytes content
  | .date day => day.quoted
  | .moment time => time.quoted

/-- Items between brackets, or entries between braces, with commas. -/
def enclose (opening closing : String) (items : List String) : String :=
  opening ++ ", ".intercalate items ++ closing

/-- The members of a set between braces; an empty set has a spelling of its own. -/
def quotedMembers (members : List Key) : String :=
  if members.isEmpty then "set()" else enclose "\x7b" "\x7d" (members.map Key.quoted)

mutual

/-- A document inside another one. -/
def Value.quoted : Value → String
  | .null => "None"
  | .bool flag => boolText flag
  | .int number => toString number
  | .float number => Decimal.text number
  | .str text => Text.quoted text
  | .bytes content => Text.quotedBytes content
  | .date day => day.quoted
  | .moment time => time.quoted
  | .list items => enclose "[" "]" (quotedItems items)
  | .map entries => enclose "\x7b" "\x7d" (quotedEntries entries)
  | .set members => quotedMembers members
  | .pair first second => enclose "(" ")" [first.quoted, second.quoted]

/-- The items of a list, each quoted. -/
def quotedItems : List Value → List String
  | [] => []
  | item :: items => item.quoted :: quotedItems items

/-- The entries of a mapping, each with its key and its value quoted. -/
def quotedEntries : List (Key × Value) → List String
  | [] => []
  | (key, value) :: entries => (key.quoted ++ ": " ++ value.quoted) :: quotedEntries entries

end

/-- A document as a message shows it: texts, dates and moments bare, all else as inside another
document. -/
def Value.display : Value → String
  | .str text => text
  | .date day => day.text
  | .moment time => time.text
  | other => other.quoted

end SqlPipeline
