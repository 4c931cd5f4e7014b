import SqlPipeline.Choice
import SqlPipeline.Value.Basic

/-!
# Filter conditions

A condition compares a column with a literal. A literal is a scalar or a list of texts, and keeps
the type it was given: the text `1` is not the number one.
-/

namespace SqlPipeline

/-- The comparison operators. -/
inductive Operator where
  | equal
  | notEqual
  | greater
  | less
  | greaterEqual
  | lessEqual
  | like
  | isIn
  | notIn
  | isNull
  | isNotNull
  deriving DecidableEq, Repr

/-- The written form of an operator. -/
def Operator.symbol : Operator → String
  | .equal => "="
  | .notEqual => "!="
  | .greater => ">"
  | .less => "<"
  | .greaterEqual => ">="
  | .lessEqual => "<="
  | .like => "LIKE"
  | .isIn => "IN"
  | .notIn => "NOT IN"
  | .isNull => "IS NULL"
  | .isNotNull => "IS NOT NULL"

instance : Choice Operator where
  options := [.equal, .notEqual, .greater, .less, .greaterEqual, .lessEqual, .like, .isIn, .notIn,
    .isNull, .isNotNull]
  label := Operator.symbol

/-- Whether an operator takes no right-hand side. -/
def Operator.testsNull : Operator → Bool
  | .isNull | .isNotNull => true
  | _ => false

/-- Whether an operator takes a list. -/
def Operator.takesList : Operator → Bool
  | .isIn | .notIn => true
  | _ => false

/-- What a column is compared with. -/
inductive Literal where
  | null
  | bool (flag : Bool)
  | int (number : Int)
  | float (number : Float)
  | str (text : String)
  | list (items : List String)

/-- A literal as a document. -/
def Literal.toValue : Literal → Value
  | .null => .null
  | .bool flag => .bool flag
  | .int number => .int number
  | .float number => .float number
  | .str text => .str text
  | .list items => .texts items

/-- A comparison of a column with a literal. -/
structure Condition where
  column : String
  op : Operator
  value : Literal := .null

end SqlPipeline
