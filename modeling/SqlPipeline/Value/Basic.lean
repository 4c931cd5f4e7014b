import SqlPipeline.Calendar
import SqlPipeline.Decimal.Binary

/-!
# Documents

Graphs, settings and generated configurations travel as documents: values of a dynamic type with
scalars, lists and mappings. A mapping keeps its entries in the order in which their keys first
came; writing to a key that is already there keeps its place. Documents that people write may also
hold bytes, dates, moments, sets and pairs.

Keys are compared by what they denote: a whole number, the double with the same value and the truth
value of that number are one key, and moments with known distances from universal time are compared
by their instants. What is not a number has no value to be compared by: a key of that kind is told
apart by its mark, unless it is the common one. `Key.identity` makes all this an equality of data.
-/

namespace SqlPipeline

/-- A key of a mapping: any scalar. -/
inductive Key where
  | null
  | bool (flag : Bool)
  | int (number : Int)
  | float (number : Float)
  /-- Not a number, and not the same key as any other. -/
  | notNumber (mark : Nat)
  | str (text : String)
  | bytes (content : List UInt8)
  | date (day : Date)
  | moment (time : Moment)

/-- A document. -/
inductive Value where
  | null
  | bool (flag : Bool)
  | int (number : Int)
  | float (number : Float)
  | str (text : String)
  | bytes (content : List UInt8)
  | date (day : Date)
  | moment (time : Moment)
  | list (items : List Value)
  | map (entries : List (Key × Value))
  | set (members : List Key)
  | pair (first second : Value)

instance : Inhabited Value := ⟨.null⟩

/-- The entries of a mapping, in order. -/
abbrev Mapping := List (Key × Value)

namespace Key

/-- What a key denotes. -/
inductive Identity where
  | null
  | whole (number : Int)
  | fraction (bits : UInt64)
  | notNumber (mark : Nat)
  | text (text : String)
  | bytes (content : List UInt8)
  | date (day : Date)
  | clock (time : Moment)
  | instant (microseconds : Int)
  deriving DecidableEq

/-- What a key denotes; truth values are numbers here. -/
def identity : Key → Identity
  | .null => .null
  | .bool flag => .whole (if flag then 1 else 0)
  | .int number => .whole number
  | .float number =>
    match Decimal.whole? number with
    | some whole => .whole whole
    | none => .fraction number.toBits
  | .notNumber mark => .notNumber mark
  | .str text => .text text
  | .bytes content => .bytes content
  | .date day => .date day
  | .moment time =>
    match time.instant? with
    | some microseconds => .instant microseconds
    | none => .clock time

/-- Whether two keys are the same entry of a mapping. -/
def same (key other : Key) : Bool :=
  key.identity == other.identity

theorem same_iff {key other : Key} : key.same other = true ↔ key.identity = other.identity := by
  simp [same]

/-- A key as a document of its own. -/
def toValue : Key → Value
  | .null => .null
  | .bool flag => .bool flag
  | .int number => .int number
  | .float number => .float number
  | .notNumber _ => .float (0 / 0)
  | .str text => .str text
  | .bytes content => .bytes content
  | .date day => .date day
  | .moment time => .moment time

end Key

namespace Mapping

variable {α : Type}

/-- The value at a key. -/
def find? (key : Key) : Mapping → Option Value
  | [] => none
  | (other, value) :: rest => if other.same key then some value else find? key rest

/-- The value at a textual key. -/
def field? (name : String) (entries : Mapping) : Option Value :=
  find? (.str name) entries

/-- Writes what belongs to a key: in place when the key is there, at the end otherwise. -/
def put (key : Key) (value : α) : List (Key × α) → List (Key × α)
  | [] => [(key, value)]
  | (other, old) :: rest =>
    if other.same key then (other, value) :: rest else (other, old) :: put key value rest

/-- The entries without a textual key. -/
def erase (name : String) (entries : Mapping) : Mapping :=
  entries.filter fun (key, _) => !key.same (.str name)

/-- The keys in order. -/
def keys (entries : Mapping) : List Key :=
  entries.map Prod.fst

/-- Writes entries one after the other, so that a later entry wins over an earlier one. -/
def ofEntries (entries : List (Key × α)) : List (Key × α) :=
  entries.foldl (fun written (key, value) => put key value written) []

end Mapping

namespace Value

/-- A mapping with textual keys. -/
def record (fields : List (String × Value)) : Value :=
  .map (fields.map fun (name, value) => (.str name, value))

/-- A text or nothing. -/
def optional : Option String → Value
  | some text => .str text
  | none => .null

/-- A list of texts. -/
def texts (items : List String) : Value :=
  .list (items.map .str)

/-- Whether a value counts as given: not null, false, a zero, or an empty text, list, mapping or
set. -/
def isTruthy : Value → Bool
  | .null => false
  | .bool flag => flag
  | .int number => number != 0
  | .float number => Decimal.whole? number != some 0
  | .str text => text != ""
  | .bytes content => !content.isEmpty
  | .date _ | .moment _ | .pair .. => true
  | .list items => !items.isEmpty
  | .map entries => !entries.isEmpty
  | .set members => !members.isEmpty

/-- The name of the kind of a value in messages. -/
def kindName : Value → String
  | .null => "NoneType"
  | .bool _ => "bool"
  | .int _ => "int"
  | .float _ => "float"
  | .str _ => "str"
  | .bytes _ => "bytes"
  | .date _ => "date"
  | .moment _ => "datetime"
  | .list _ => "list"
  | .map _ => "dict"
  | .set _ => "set"
  | .pair .. => "tuple"

/-- The name of the kind of a value with the family it belongs to. -/
def qualifiedKindName (value : Value) : String :=
  match value with
  | .date _ | .moment _ => "datetime." ++ value.kindName
  | other => other.kindName

end Value

end SqlPipeline
