import SqlPipeline.Value.Basic

/-!
# Numbers that are too long

A whole number with very many digits is a number like any other, but it is neither read from a text
nor written as one.
-/

namespace SqlPipeline

/-- The most digits that a whole number may be written with. -/
def maxWholeDigits : Nat := 4300

/-- The message for a number with too many digits to be written. -/
def longNumberMessage : String :=
  "Exceeds the limit (" ++ toString maxWholeDigits ++
    " digits) for integer string conversion; use sys.set_int_max_str_digits() to increase the limit"

/-- Whether the numbers in a key are short enough to be written. -/
def Key.isWritable : Key → Bool
  | .int number => (Nat.toDigits 10 number.natAbs).length ≤ maxWholeDigits
  | _ => true

mutual

/-- Whether all numbers in a document are short enough to be written. -/
def Value.isWritable : Value → Bool
  | .int number => (Nat.toDigits 10 number.natAbs).length ≤ maxWholeDigits
  | .list items => writableItems items
  | .map entries => writableEntries entries
  | .set members => members.all Key.isWritable
  | .pair first second => first.isWritable && second.isWritable
  | _ => true

/-- Whether all numbers in the items of a list are short enough. -/
def writableItems : List Value → Bool
  | [] => true
  | item :: items => item.isWritable && writableItems items

/-- Whether all numbers in the entries of a mapping are short enough. -/
def writableEntries : List (Key × Value) → Bool
  | [] => true
  | (key, value) :: entries => key.isWritable && value.isWritable && writableEntries entries

end

end SqlPipeline
