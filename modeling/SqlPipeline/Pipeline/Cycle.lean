import SqlPipeline.Pipeline.Traversal

/-!
# Cycles

The search for a cycle walks depth-first along the edges and remembers the way to where it stands.
An edge that leads back onto the way closes a cycle, and the first such edge ends the search. An
edge to an id that was met before and left again leads nowhere new.
-/

namespace SqlPipeline

namespace GraphIndex

/-- A place on the way: an id and the successors still to be tried from it. -/
structure Frame where
  id : String
  untried : List String

/-- The part of a way, given from its end to its beginning, from an id on it up to the end, in
order. -/
def wayFrom (id : String) (way : List Frame) : List String :=
  ((way.map Frame.id).takeWhile (· != id) ++ [id]).reverse

/-- How much the places on a way still have to do. -/
def workload : List Frame → Nat
  | [] => 0
  | frame :: before => frame.untried.length + 1 + workload before

/-- The cycle closed by the first edge that leads back onto the way. The way is given from its
end. -/
def searchCycle (index : GraphIndex) (unmet : List String) (way : List Frame) :
    Option (List String) :=
  match way with
  | [] => none
  | ⟨_, []⟩ :: before => index.searchCycle unmet before
  | ⟨id, next :: untried⟩ :: before =>
    let here := ⟨id, untried⟩ :: before
    if next ∈ here.map Frame.id then some (wayFrom next here ++ [next])
    else if next ∈ unmet then
      index.searchCycle (removeId next unmet) (⟨next, index.successors next⟩ :: here)
    else index.searchCycle unmet here
termination_by (unmet.length, workload way)
decreasing_by
  · exact Prod.Lex.right _ (by simp [workload])
  · exact Prod.Lex.left _ _ (length_removeId_lt (by assumption))
  · exact Prod.Lex.right _ (by simp [workload])

/-- The first cycle below an id, from an id on it back to the same id. -/
def cycle? (index : GraphIndex) (start : String) : Option (List String) :=
  index.searchCycle (removeId start index.ids) [⟨start, index.successors start⟩]

/-- Fails when there is a cycle below an id. -/
def checkCycles (index : GraphIndex) (start : String) : Except PipelineError Unit :=
  match index.cycle? start with
  | some ids => .error (.cyclic PipelineError.cycleMessage (some ids))
  | none => .ok ()

end GraphIndex

end SqlPipeline
