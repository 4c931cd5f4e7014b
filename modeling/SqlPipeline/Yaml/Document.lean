import SqlPipeline.Yaml.Part

/-!
# Documents of plain data

The parts of a document are put together into one value. A part that several others refer to is put
together once and shared. A part that holds itself cannot be put together to the end: inside itself
it stands as it was in the round before, and after a fixed number of rounds the document is taken as
it is then.
-/

namespace SqlPipeline

namespace Yaml

/-- The values put together in one round. -/
abbrev Round := StateM (Array (Option Value))

/-- Puts the part at a place together. `around` are the places of the parts that it stands inside
of, and `before` are the values of the round before. -/
def assemble (parts : Array (Option Part)) (before : Array Value) :
    Nat → List Nat → Nat → Round Value
  | 0, _, place => return before.getD place .null
  | depth + 1, around, place => do
    if around.contains place then return before.getD place .null
    else
      match (← get).getD place none with
      | some value => return value
      | none =>
        let inside := assemble parts before depth (place :: around)
        let value ←
          match parts.getD place none with
          | none => pure .null
          | some (.scalar key) => pure key.toValue
          | some (.list items) => .list <$> items.mapM inside
          | some (.map entries) =>
            .map <$> entries.mapM fun (key, content) => do return (key, ← inside content)
          | some (.set members) => pure (.set members)
          | some (.pairs pairs) =>
            .list <$> pairs.mapM fun (first, second) => do
              return .pair (← inside first) (← inside second)
        modify fun made => made.setIfInBounds place (some value)
        return value

/-- The value of the top of a document after some rounds. -/
def valueAfter (parts : Array (Option Part)) (top : Nat) : Nat → Array Value → Value
  | rounds, before =>
    let unmade := Array.replicate parts.size none
    let (value, made) := (assemble parts before (parts.size + 1) [] top).run unmade
    match rounds with
    | 0 => value
    | rounds + 1 => valueAfter parts top rounds (made.map (·.getD .null))

/-- The rounds after the first. -/
def furtherRounds : Nat := 3

/-- The document that a text spells; an empty text spells null. -/
def read (text : String) : Except Fault Value := do
  match ← Parse.document (tokens text.toList) with
  | none => return .null
  | some (top, nodes) =>
    return valueAfter (← Assembly.parts? nodes top) top furtherRounds #[]

end Yaml

end SqlPipeline
