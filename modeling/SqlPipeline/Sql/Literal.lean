import SqlPipeline.Pipeline.Condition
import SqlPipeline.Pipeline.Error
import SqlPipeline.Text.Search
import SqlPipeline.Value.Display

/-!
# Identifiers and literals in SQL

A text literal stands between apostrophes, and an apostrophe inside it is written twice. Reading
such a text turns each pair of apostrophes into one, from left to right, and leaves everything else
alone; so what was written is read back. Identifiers stand between quotation marks and are written
as they are. `toSql` says how a literal is written. Writing fails (`render`) where a whole number
has more digits than are written.
-/

namespace SqlPipeline

namespace Text

/-- Writes every apostrophe twice. -/
def doubleApostrophes (text : List Char) : List Char :=
  text.flatMap fun c => if c = '\'' then ['\'', '\''] else [c]

/-- Turns pairs of apostrophes into one, from left to right. -/
def pairApostrophes : List Char → List Char
  | '\'' :: '\'' :: rest => '\'' :: pairApostrophes rest
  | c :: rest => c :: pairApostrophes rest
  | [] => []

/-- What was written is read back. -/
theorem pairApostrophes_doubleApostrophes (text : List Char) :
    pairApostrophes (doubleApostrophes text) = text := by
  induction text with
  | nil => rfl
  | cons c rest readBack =>
    simp only [doubleApostrophes, List.flatMap_cons] at readBack ⊢
    split
    · subst c
      simpa [pairApostrophes] using readBack
    · rename_i ordinary
      simpa [pairApostrophes, ordinary] using readBack

end Text

/-- An identifier between quotation marks. -/
def quoteIdentifier (name : String) : String :=
  "\"" ++ name ++ "\""

/-- A text between apostrophes. -/
def quoteLiteral (text : String) : String :=
  "'" ++ String.ofList (Text.doubleApostrophes text.toList) ++ "'"

/-- Pieces between parentheses, with commas. -/
def parenthesize (pieces : List String) : String :=
  enclose "(" ")" pieces

mutual

/-- A document as SQL: scalars as literals and lists between parentheses; what SQL has no form for
is written as in messages. -/
def Value.toSql : Value → String
  | .null => "NULL"
  | .bool flag => if flag then "TRUE" else "FALSE"
  | .str text => quoteLiteral text
  | .list items => parenthesize (sqlItems items)
  | .int number => toString number
  | .float number => Decimal.text number
  | other => other.display

/-- The items of a list as SQL. -/
def sqlItems : List Value → List String
  | [] => []
  | item :: items => item.toSql :: sqlItems items

end

/-- Writes a document as SQL. -/
def Value.render (value : Value) : Except PipelineError String :=
  if value.isWritable then .ok value.toSql else .error .numberTooLong

/-- A literal as SQL. -/
def Literal.toSql (literal : Literal) : String := literal.toValue.toSql

/-- A condition as SQL; a test for null has no right-hand side. -/
def Condition.toSql (condition : Condition) : String :=
  if condition.op.testsNull then condition.column ++ " " ++ condition.op.symbol
  else condition.column ++ " " ++ condition.op.symbol ++ " " ++ condition.value.toSql

/-- Whether the numbers in a condition are short enough to be written. -/
def Condition.isWritable (condition : Condition) : Bool :=
  condition.op.testsNull || condition.value.toValue.isWritable

/-- Writes a condition as SQL. -/
def Condition.render (condition : Condition) : Except PipelineError String :=
  if condition.op.testsNull then .ok (condition.column ++ " " ++ condition.op.symbol)
  else do
    let value ← condition.value.toValue.render
    return condition.column ++ " " ++ condition.op.symbol ++ " " ++ value

/-- A condition is written as SQL as long as its numbers are short enough. -/
theorem Condition.render_eq (condition : Condition) :
    condition.render =
      if condition.isWritable then .ok condition.toSql else .error .numberTooLong := by
  unfold render isWritable toSql
  by_cases testsNull : condition.op.testsNull = true
  · simp [testsNull]
  · by_cases writable : condition.value.toValue.isWritable = true
    · simp [testsNull, writable, Value.render, Literal.toSql, pure, Except.pure, bind, Except.bind]
    · simp [testsNull, writable, Value.render, bind, Except.bind]

end SqlPipeline
