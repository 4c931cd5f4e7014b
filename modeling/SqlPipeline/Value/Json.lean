import SqlPipeline.Value.Display

/-!
# Documents as JSON

Structured records are lines of JSON in ASCII. A text stands between quotation marks, with escapes
for quotation marks, backslashes and everything but visible ASCII and the space. What JSON has no
form for is written as the text that messages show. The keys of an object are texts: numbers, truth
values and null are spelled out, and a mapping with keys of other kinds has no JSON form.
-/

namespace SqlPipeline

namespace Json

/-- An escape of sixteen bits. -/
def escapeUnit (unit : Nat) : List Char :=
  '\\' :: 'u' :: Text.hexDigits 4 unit

/-- One character of a text; a character beyond sixteen bits is a pair of surrogates. -/
def escapeChar (c : Char) : List Char :=
  if c == '"' || c == '\\' then ['\\', c]
  else if ' ' ≤ c && c ≤ '~' then [c]
  else if c == '\n' then ['\\', 'n']
  else if c == '\r' then ['\\', 'r']
  else if c == '\t' then ['\\', 't']
  else if c.toNat == 0x08 then ['\\', 'b']
  else if c.toNat == 0x0C then ['\\', 'f']
  else if c.toNat < 0x10000 then escapeUnit c.toNat
  else
    let offset := c.toNat - 0x10000
    escapeUnit (0xD800 + offset / 0x400) ++ escapeUnit (0xDC00 + offset % 0x400)

/-- A text. -/
def quote (text : String) : String :=
  "\"" ++ String.ofList (text.toList.flatMap escapeChar) ++ "\""

/-- A truth value. -/
def flag (value : Bool) : String :=
  if value then "true" else "false"

/-- Numbers are written as in messages, but for those without digits. -/
def layout : Decimal.Layout :=
  { Decimal.plainLayout with infinity := "Infinity", notANumber := "NaN" }

/-- The key of an object, if it has a form. -/
def key? : Key → Option String
  | .null => some (quote "null")
  | .bool value => some (quote (flag value))
  | .int number => some (quote (toString number))
  | .float number => some (quote (layout.write number))
  | .notNumber _ => some (quote layout.notANumber)
  | .str text => some (quote text)
  | .bytes _ | .date _ | .moment _ => none

end Json

mutual

/-- A document as JSON, if it has a form. -/
def Value.json? : Value → Option String
  | .null => some "null"
  | .bool value => some (Json.flag value)
  | .int number => some (toString number)
  | .float number => some (Json.layout.write number)
  | .str text => some (Json.quote text)
  | .list items => (jsonItems? items).map (enclose "[" "]")
  | .map entries => (jsonEntries? entries).map (enclose "\x7b" "\x7d")
  | .pair first second => do return enclose "[" "]" [← first.json?, ← second.json?]
  | other => some (Json.quote other.display)

/-- The items of a list. -/
def jsonItems? : List Value → Option (List String)
  | [] => some []
  | item :: items => do return (← item.json?) :: (← jsonItems? items)

/-- The entries of a mapping. -/
def jsonEntries? : List (Key × Value) → Option (List String)
  | [] => some []
  | (key, value) :: entries => do
    return ((← Json.key? key) ++ ": " ++ (← value.json?)) :: (← jsonEntries? entries)

end

end SqlPipeline
