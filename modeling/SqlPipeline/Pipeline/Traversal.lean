import SqlPipeline.Pipeline.Index

/-!
# Traversing a graph

A traversal keeps the ids that it has not met yet and a list of pending ids. It takes the first
pending id; if that id is still unmet it is visited, and its successors join the pending ids. Put in
front they give the depth-first order, put behind the breadth-first order. Each visit removes an
unmet id, so a traversal ends, whatever cycles there are.
-/

namespace SqlPipeline

namespace GraphIndex

/-- The ids other than a given one. -/
def removeId (id : String) (ids : List String) : List String :=
  ids.filter (· != id)

theorem mem_removeId {id other : String} {ids : List String} :
    other ∈ removeId id ids ↔ other ∈ ids ∧ other ≠ id := by
  simp [removeId]

/-- Removing an id that is there leaves fewer. -/
theorem length_removeId_lt {id : String} {ids : List String} (member : id ∈ ids) :
    (removeId id ids).length < ids.length := by
  unfold removeId
  rw [← List.countP_eq_length_filter]
  have bound := List.countP_le_length (p := (· != id)) (l := ids)
  refine Nat.lt_of_le_of_ne bound fun all => ?_
  have kept := (List.countP_eq_length.1 all) id member
  simp at kept

/-- The ids that are visited, in order. The first argument says how successors join the pending
ids. -/
def explore (index : GraphIndex) (enqueue : List String → List String → List String)
    (unmet pending : List String) : List String :=
  match pending with
  | [] => []
  | id :: later =>
    if id ∈ unmet then
      id :: index.explore enqueue (removeId id unmet) (enqueue (index.successors id) later)
    else index.explore enqueue unmet later
termination_by (unmet.length, pending.length)
decreasing_by
  · exact Prod.Lex.left _ _ (length_removeId_lt (by assumption))
  · exact Prod.Lex.right _ (by simp)

/-- Successors are visited before what was pending. -/
def depthFirst (successors pending : List String) : List String := successors ++ pending

/-- Successors are visited after what was pending. -/
def breadthFirst (successors pending : List String) : List String := pending ++ successors

/-- The ids below an id in depth-first order, each before its successors, without the id itself. -/
def preorder (index : GraphIndex) (start : String) : List String :=
  index.explore depthFirst (removeId start index.ids) (index.successors start)

/-- The ids that some path of at least one edge leads to, without the start itself, in the order of
code points. -/
def reachable (index : GraphIndex) (start : String) : List String :=
  let found := index.explore breadthFirst index.ids (index.successors start)
  (removeId start found).mergeSort fun id other => id ≤ other

/-- Why reachability cannot be asked for. -/
structure UnknownNode where
  id : String
  deriving DecidableEq, Repr

/-- The wording for an unknown id. -/
def UnknownNode.message (error : UnknownNode) : String :=
  "Node '" ++ error.id ++ "' not found"

/-- The ids that can be reached from the id of a node. -/
def reachableFrom (index : GraphIndex) (start : String) : Except UnknownNode (List String) :=
  if (index.node? start).isSome then .ok (index.reachable start) else .error ⟨start⟩

end GraphIndex

end SqlPipeline
