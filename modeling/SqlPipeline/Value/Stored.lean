import SqlPipeline.Value.Basic

/-!
# Documents that are put away

A free document that is put away and taken out again is the same, but for numbers that storage has
no form for: what is infinite or not a number comes back as null. A document that is nested too
deeply cannot be put away.
-/

namespace SqlPipeline

/-- A document is nested too deeply to be put away. -/
structure TooDeep where
  deriving DecidableEq, Repr

/-- The wording for a document that is nested too deeply. -/
def TooDeep.message (_ : TooDeep) : String := "Maximum serialization depth exceeded"

/-- The levels to which a document can be nested, the innermost scalars being a level too. -/
def storedLevels : Nat := 255

mutual

/-- A document as it comes back, with a number of levels to go. -/
def Value.stored (levels : Nat) : Value → Except TooDeep Value
  | .list items => if levels = 0 then .error {} else .list <$> storedItems (levels - 1) items
  | .map entries => if levels = 0 then .error {} else .map <$> storedEntries (levels - 1) entries
  | .float number =>
    if levels = 0 then .error {} else .ok (if number.isFinite then .float number else .null)
  | other => if levels = 0 then .error {} else .ok other

/-- The items of a list as they come back. -/
def storedItems (levels : Nat) : List Value → Except TooDeep (List Value)
  | [] => .ok []
  | item :: items => do
    let first ← item.stored levels
    let others ← storedItems levels items
    return first :: others

/-- The entries of a mapping as they come back. -/
def storedEntries (levels : Nat) : List (Key × Value) → Except TooDeep (List (Key × Value))
  | [] => .ok []
  | (key, value) :: entries => do
    let first ← value.stored levels
    let others ← storedEntries levels entries
    return (key, first) :: others

end

/-- A mapping as it comes back. -/
def Mapping.stored (entries : Mapping) : Except TooDeep Mapping :=
  storedEntries storedLevels entries

end SqlPipeline
