import SqlPipeline.Yaml.Node

/-!
# Merge keys

The entry at a merge key brings the entries of another mapping, or of several, into the mapping that
holds it. They are put in front of the mapping's own entries, those of earlier mappings behind those
of later ones. As a later entry wins over an earlier one, the mapping's own entries win over all
that is brought in, and earlier mappings over later ones.

Every merge key is taken out of its mapping before it is followed. So mappings that bring in one
another, or themselves, come to an end, and as many steps as there are entries suffice.
-/

namespace SqlPipeline

namespace Yaml

namespace NodeTable

/-- The node at a place. -/
def node (nodes : NodeTable) (place : Nat) : Node :=
  nodes.getD place Node.empty

/-- The entries of the mapping at a place. -/
def entries (nodes : NodeTable) (place : Nat) : List (Nat × Nat) :=
  match (nodes.node place).content with
  | .mapping entries => entries
  | _ => []

/-- Whether a mapping is at a place. -/
def isMapping (nodes : NodeTable) (place : Nat) : Bool :=
  match (nodes.node place).content with
  | .mapping _ => true
  | _ => false

/-- Gives the mapping at a place other entries. -/
def setEntries (nodes : NodeTable) (place : Nat) (entries : List (Nat × Nat)) : NodeTable :=
  nodes.modify place fun node => { node with content := .mapping entries }

/-- The value at the first merge key among entries, and the entries without it. -/
def cutMerge? (nodes : NodeTable) : List (Nat × Nat) → Option (Nat × List (Nat × Nat))
  | [] => none
  | (key, value) :: rest =>
    if (nodes.node key).kind == .merge then some (value, rest)
    else (cutMerge? nodes rest).map fun (source, others) => (source, (key, value) :: others)

/-- Puts entries in front of those of the mapping at a place. A default key among them is a text
from now on. -/
def bring (nodes : NodeTable) (place : Nat) (brought : List (Nat × Nat)) : NodeTable :=
  let all := brought ++ nodes.entries place
  let asText (nodes : NodeTable) (entry : Nat × Nat) : NodeTable :=
    if (nodes.node entry.1).kind == .default then
      nodes.modify entry.1 fun node => { node with kind := .str }
    else nodes
  (all.foldl asText nodes).setEntries place all

/-- Follows the merge keys of the mapping at a place. `brought` are the entries that were brought in
already. -/
def merge : Nat → NodeTable → Nat → List (Nat × Nat) → Except Fault NodeTable
  | steps, nodes, place, brought =>
    match nodes.cutMerge? (nodes.entries place), steps with
    | none, _ => .ok (nodes.bring place brought)
    | some _, 0 => .error .malformed
    | some (source, others), steps + 1 => do
      let ofMapping (found : List (Nat × Nat) × NodeTable) (source : Nat) :
          Except Fault (List (Nat × Nat) × NodeTable) := do
        if found.2.isMapping source then
          let next ← merge steps found.2 source []
          return (next.entries source ++ found.1, next)
        else .error .malformed
      let start := ([], nodes.setEntries place others)
      let (found, next) ←
        match (nodes.node source).content with
        | .sequence items => items.foldlM ofMapping start
        | _ => ofMapping start source
      merge steps next place (brought ++ found)

/-- Follows the merge keys of the mapping at a place. -/
def withoutMerges (nodes : NodeTable) (place : Nat) : Except Fault NodeTable :=
  let steps := nodes.foldl (fun total node =>
    match node.content with
    | .mapping entries => total + entries.length
    | _ => total) 0
  merge steps nodes place []

end NodeTable

end Yaml

end SqlPipeline
