import SqlPipeline.Decimal.Reading
import SqlPipeline.Log.Event
import SqlPipeline.Sql.Literal
import SqlPipeline.Text.Keyword
import SqlPipeline.Text.UpperCase
import SqlPipeline.Validation.Fault

/-!
# Reading conditions

A filter clause is split at every `AND` and `OR` between blanks, wherever they stand. In each
fragment the first operator of a fixed list that occurs anywhere divides the column from the value;
the place is looked up in the upper-case form of the fragment. The value is then given a type by its
looks.
-/

namespace SqlPipeline

/-- Why SQL text cannot be turned into a graph. -/
inductive RecoveryError where
  /-- A whole number with more digits than are read. -/
  | tooManyDigits
  /-- A function whose name is one of the known ones only up to special letters. -/
  | unknownFunction (faults : List Fault)
  deriving DecidableEq, Repr

/-- Reads a number, with digits of any script. A decimal too large for a double is not a number. -/
def Literal.ofNumber (text : List Char) : Except RecoveryError (Option Literal) :=
  match Decimal.Spelled.read? Text.digitValue? text with
  | none => .ok none
  | some spelled =>
    if spelled.isWhole then
      if maxWholeDigits < spelled.before.length then .error .tooManyDigits
      else .ok (some (.int spelled.wholePart))
    else if Decimal.isFinite spelled.toFloat then .ok (some (.float spelled.toFloat))
    else .ok none

/-- The text between apostrophes, if they stand at both ends. -/
def betweenApostrophes? (text : List Char) : Option (List Char) :=
  match text with
  | '\'' :: rest => if rest.getLast? = some '\'' then some rest.dropLast else none
  | _ => none

/-- The items of a list: parentheses and quotes are dropped wherever they stand. -/
def listItems (text : List Char) : List String :=
  let inner := Text.without ')' (Text.without '(' text)
  (Text.splitOn ',' inner).map fun item =>
    String.ofList (Text.without '"' (Text.without '\'' (Text.trim item)))

/-- What a text that is neither quoted, a number nor a truth value means beside an operator. -/
def readByOperator (op : Option Operator) (text : List Char) : Literal :=
  match op with
  | some op =>
    if op.takesList then .list (listItems text)
    else if op.testsNull then .null
    else .str (String.ofList text)
  | none => .str (String.ofList text)

/-- The literal that the text on the right of an operator stands for. -/
def Literal.ofText (op : Option Operator) (text : List Char) : Except RecoveryError Literal :=
  match betweenApostrophes? text with
  | some inner => .ok (.str (String.ofList (Text.pairApostrophes inner)))
  | none =>
    match Literal.ofNumber text with
    | .error error => .error error
    | .ok (some number) => .ok number
    | .ok none =>
      let capitals := Text.upper text
      if capitals = "TRUE".toList then .ok (.bool true)
      else if capitals = "FALSE".toList then .ok (.bool false)
      else .ok (readByOperator op text)

/-- The operators in the order in which they are looked for: a longer one before its first
character. Yet `IN` comes before `NOT IN`, and tests for null come last. -/
def operatorOrder : List Operator :=
  [.notEqual, .greaterEqual, .lessEqual, .equal, .greater, .less, .like, .isIn, .notIn, .isNull,
    .isNotNull]

/-- The first operator that occurs in the upper-case form of a fragment, and where. -/
def findOperator? (fragment : List Char) : Option (Operator × Nat) :=
  let capitals := Text.upper fragment
  operatorOrder.findSome? fun op =>
    (Text.cut? op.symbol.toList capitals).map fun (before, _) => (op, before.length)

/-- Reads one fragment; without an operator there is no condition. -/
def readFragment (fragment : List Char) : Except RecoveryError (Option Condition) :=
  match findOperator? fragment with
  | none => .ok none
  | some (op, place) =>
    let column := Text.without '"' (Text.trim (fragment.take place))
    let right := Text.trim (fragment.drop (place + op.symbol.length))
    (Literal.ofText (some op) right).map fun value => some ⟨String.ofList column, op, value⟩

/-- What follows a connective between blanks at the beginning of a text. -/
def skipConnective? (text : List Char) : Option (List Char) := do
  let afterBlanks ← Text.skipBlanks? text
  let afterWord ←
    (Text.keyword? "AND".toList afterBlanks).or (Text.keyword? "OR".toList afterBlanks)
  Text.skipBlanks? afterWord

theorem length_lt_of_skipConnective? {text after : List Char}
    (found : skipConnective? text = some after) : after.length < text.length := by
  simp only [skipConnective?, Option.bind_eq_bind, Option.bind_eq_some_iff] at found
  obtain ⟨afterBlanks, blanks, afterWord, word, last⟩ := found
  have first := Text.length_lt_of_skipBlanks? blanks
  have third := Text.length_lt_of_skipBlanks? last
  have second : afterWord.length ≤ afterBlanks.length := by
    rcases Option.or_eq_some_iff.1 word with word | ⟨-, word⟩
    · exact Text.length_of_keyword? word ▸ Nat.le_add_right _ _
    · exact Text.length_of_keyword? word ▸ Nat.le_add_right _ _
  omega

/-- The pieces between the connectives of a clause. A connective consumes the blanks around it. -/
def splitConditions (text : List Char) : List (List Char) :=
  match text with
  | [] => [[]]
  | c :: rest =>
    match _found : skipConnective? (c :: rest) with
    | some after => [] :: splitConditions after
    | none =>
      match splitConditions rest with
      | [] => [[c]]
      | piece :: pieces => (c :: piece) :: pieces
termination_by text.length
decreasing_by
  · exact length_lt_of_skipConnective? _found
  · exact Nat.lt_succ_self rest.length

/-- The fragments of a clause: its pieces, trimmed, without the empty ones. -/
def fragments (clause : List Char) : List (List Char) :=
  ((splitConditions clause).map Text.trim).filter fun fragment => !fragment.isEmpty

/-- Reads fragments in order and reports those without an operator. -/
def readFragments : List (List Char) → Traced RecoveryError (List Condition)
  | [] => pure []
  | fragment :: rest => do
    match ← Traced.ofExcept (readFragment fragment) with
    | some condition => return condition :: (← readFragments rest)
    | none =>
      Traced.tell .debug "Dropping condition without a known operator"
        [("fragment", .str (String.ofList fragment))]
      readFragments rest

/-- Reads the conditions of a filter clause. -/
def readConditions (clause : List Char) : Traced RecoveryError (List Condition) :=
  readFragments (fragments clause)

end SqlPipeline
