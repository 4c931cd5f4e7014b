import SqlPipeline.Yaml.Merge
import SqlPipeline.Yaml.Scalar

/-!
# From nodes to parts

Each node of a document becomes a part: a scalar becomes what it spells, and a collection refers to
the parts that it holds by their places. Scalars are made when they are met. Collections are
entered when they are met and filled later, in the order in which they were met, so of two faults
the one nearer to the top of a document is found first.

A scalar may be given by a mapping: by the value at its default key.
-/

namespace SqlPipeline

namespace Yaml

/-- What is made of a node. -/
inductive Part where
  | scalar (key : Key)
  | list (items : List Nat)
  | map (entries : List (Key × Nat))
  | set (members : List Key)
  | pairs (pairs : List (Nat × Nat))

namespace NodeTable

/-- The text of the scalar at a place, through at most a number of mappings. -/
def scalarText (nodes : NodeTable) : Nat → Nat → Except Fault String
  | 0, _ => .error .endless
  | steps + 1, place =>
    match (nodes.node place).content with
    | .scalar text => .ok text
    | .sequence _ => .error .malformed
    | .mapping entries =>
      match entries.find? fun (key, _) => (nodes.node key).kind == .default with
      | some (_, value) => scalarText nodes steps value
      | none => .error .malformed

/-- What the scalar at a place spells. -/
def scalarKey (nodes : NodeTable) (place : Nat) : Except Fault Key := do
  let text ← nodes.scalarText (nodes.size + 1) place
  let kind := (nodes.node place).kind
  if kind == .moment && nodes.isMapping place then .error .momentOfMapping
  else Scalar.read kind place text

end NodeTable

/-- The nodes of a document, the parts made of them, and the collections that are still to be
filled. -/
structure Assembly where
  nodes : NodeTable
  parts : Array (Option Part)
  waiting : List Nat := []

namespace Assembly

/-- The part at a place, if it was made. -/
def part? (assembly : Assembly) (place : Nat) : Option Part :=
  assembly.parts.getD place none

/-- Puts a part at a place. -/
def put (assembly : Assembly) (place : Nat) (part : Part) : Assembly :=
  { assembly with parts := assembly.parts.setIfInBounds place (some part) }

/-- Enters an empty collection that is to be filled. -/
def await (assembly : Assembly) (place : Nat) (part : Part) : Assembly :=
  { assembly.put place part with waiting := assembly.waiting ++ [place] }

/-- Meets the node at a place. -/
def meet (assembly : Assembly) (place : Nat) : Except Fault Assembly :=
  if (assembly.part? place).isSome then .ok assembly
  else
    match (assembly.nodes.node place).kind with
    | .sequence => .ok (assembly.await place (.list []))
    | .mapping => .ok (assembly.await place (.map []))
    | .set => .ok (assembly.await place (.set []))
    | .pairs => .ok (assembly.await place (.pairs []))
    | .merge | .default | .unknown => .error .malformed
    | _ => (assembly.nodes.scalarKey place).map fun key => assembly.put place (.scalar key)

/-- The key at a place; collections are no keys. -/
def keyAt (assembly : Assembly) (place : Nat) : Except Fault Key :=
  match assembly.part? place with
  | some (.scalar key) => .ok key
  | _ => .error .malformed

/-- Meets the entries of a mapping, the key of each before its value. -/
def meetEntries (assembly : Assembly) (entries : List (Nat × Nat)) :
    Except Fault (List (Key × Nat) × Assembly) :=
  entries.foldlM
    (fun (found, assembly) (keyPlace, valuePlace) => do
      let withKey ← assembly.meet keyPlace
      let key ← withKey.keyAt keyPlace
      let next ← withKey.meet valuePlace
      return (Mapping.put key valuePlace found, next))
    ([], assembly)

/-- Meets the entries of the mapping at a place after following its merge keys. -/
def meetMapping (assembly : Assembly) (place : Nat) :
    Except Fault (List (Key × Nat) × Assembly) := do
  let nodes ← assembly.nodes.withoutMerges place
  { assembly with nodes := nodes }.meetEntries (nodes.entries place)

/-- Meets the items of a list of pairs, each a mapping with one entry. -/
def meetPairs (assembly : Assembly) (items : List Nat) :
    Except Fault (List (Nat × Nat) × Assembly) :=
  items.foldlM
    (fun (found, assembly) item =>
      match (assembly.nodes.node item).content with
      | .mapping [(first, second)] => do
        let withFirst ← assembly.meet first
        let next ← withFirst.meet second
        return (found ++ [(first, second)], next)
      | _ => .error .malformed)
    ([], assembly)

/-- Fills the collection at a place. -/
def fill (assembly : Assembly) (place : Nat) : Except Fault Assembly := do
  let node := assembly.nodes.node place
  match node.kind, node.content with
  | .sequence, .sequence items =>
    return (← items.foldlM meet assembly).put place (.list items)
  | .mapping, .mapping _ =>
    let (entries, last) ← assembly.meetMapping place
    return last.put place (.map entries)
  | .set, .mapping _ =>
    let (entries, last) ← assembly.meetMapping place
    return last.put place (.set (entries.map Prod.fst))
  | .pairs, .sequence items =>
    let (pairs, last) ← assembly.meetPairs items
    return last.put place (.pairs pairs)
  | _, _ => .error .malformed

/-- Fills the collections that wait, up to a number of them. -/
def fillAll : Nat → Assembly → Except Fault Assembly
  | 0, assembly => .ok assembly
  | count + 1, assembly =>
    match assembly.waiting with
    | [] => .ok assembly
    | place :: later => do fillAll count (← { assembly with waiting := later }.fill place)

/-- The parts of a document, given its nodes and the place of its top. Each node waits at most
once. -/
def parts? (nodes : NodeTable) (top : Nat) : Except Fault (Array (Option Part)) := do
  let start : Assembly := { nodes := nodes, parts := Array.replicate nodes.size none }
  return (← fillAll nodes.size (← start.meet top)).parts

end Assembly

end Yaml

end SqlPipeline
