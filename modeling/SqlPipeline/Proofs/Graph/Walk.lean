import Mathlib.Logic.Relation
import SqlPipeline.Pipeline.Cycle

/-!
# Walks along kept edges

`Graph.Kept` says that an edge with both ends among the nodes leads from one id to another, and
`GraphIndex.Follows` says the same of an index. Walks are the transitive closures of these
relations. A cycle below an id is a walk from the id to some place and a walk from that place back
to it; an id below which every walk ends has no cycle below it.

An index is *closed* when every successor is the id of a node. The index of a graph always is, since
dangling edges are left out, so a search over the ids of the nodes misses no successor.
-/

namespace SqlPipeline

open Relation

namespace GraphIndex

/-- One id directly follows another. -/
def Follows (index : GraphIndex) (id next : String) : Prop :=
  next ∈ index.successors id

/-- Successors are ids of nodes. -/
def Closed (index : GraphIndex) : Prop :=
  ∀ id next, index.Follows id next → next ∈ index.ids

/-- Every walk below an id ends. -/
def EndsBelow (index : GraphIndex) (id : String) : Prop :=
  Acc (fun next id => index.Follows id next) id

/-- Some walk below an id leads back to where it has been. -/
def CycleBelow (index : GraphIndex) (start : String) : Prop :=
  ∃ id, ReflTransGen index.Follows start id ∧ TransGen index.Follows id id

theorem EndsBelow.of_follows {index : GraphIndex} {id next : String}
    (ends : index.EndsBelow id) (follows : index.Follows id next) : index.EndsBelow next :=
  ends.inv follows

theorem EndsBelow.of_walk {index : GraphIndex} {start id : String}
    (ends : index.EndsBelow start) (walk : ReflTransGen index.Follows start id) :
    index.EndsBelow id := by
  induction walk with
  | refl => exact ends
  | tail _ follows ih => exact ih.of_follows follows

theorem EndsBelow.not_closed_walk {index : GraphIndex} {id : String}
    (ends : index.EndsBelow id) : ¬TransGen index.Follows id id := by
  induction ends with
  | intro id _ ih =>
      intro walk
      rcases TransGen.head'_iff.mp walk with ⟨next, follows, rest⟩
      -- the closed walk can be entered one place later
      exact ih next follows (TransGen.tail' rest follows)

theorem EndsBelow.not_cycleBelow {index : GraphIndex} {start : String}
    (ends : index.EndsBelow start) : ¬index.CycleBelow start := by
  rintro ⟨id, walk, cycle⟩
  exact (ends.of_walk walk).not_closed_walk cycle

end GraphIndex

namespace Graph

/-- An edge between nodes of the graph leads from one id to another. -/
def Kept (graph : Graph) (id next : String) : Prop :=
  ∃ edge ∈ graph.edges, graph.connects edge = true ∧ edge.source = id ∧ edge.target = next

/-- A cycle of kept edges can be reached from an id. -/
def CycleBelow (graph : Graph) (start : String) : Prop :=
  ∃ id, ReflTransGen graph.Kept start id ∧ TransGen graph.Kept id id

theorem follows_index {graph : Graph} {id next : String} :
    graph.index.Follows id next ↔ graph.Kept id next := by
  simp only [GraphIndex.Follows, GraphIndex.successors, index, Kept, List.mem_map, List.mem_filter,
    beq_iff_eq]
  constructor
  · rintro ⟨edge, ⟨⟨member, kept⟩, source⟩, target⟩
    exact ⟨edge, member, kept, source, target⟩
  · rintro ⟨edge, member, kept, source, target⟩
    exact ⟨edge, ⟨⟨member, kept⟩, source⟩, target⟩

theorem follows_index_eq (graph : Graph) : graph.index.Follows = graph.Kept := by
  funext id next
  exact propext follows_index

theorem cycleBelow_index {graph : Graph} {start : String} :
    graph.index.CycleBelow start ↔ graph.CycleBelow start := by
  simp only [GraphIndex.CycleBelow, CycleBelow, follows_index_eq]

theorem mem_map_id_firstById {id : String} {nodes : List Node} :
    id ∈ (firstById nodes).map Node.id ↔ id ∈ nodes.map Node.id := by
  induction nodes with
  | nil => rfl
  | cons node rest ih =>
      simp only [firstById, List.map_cons, List.mem_cons, List.mem_map, List.mem_filter] at ih ⊢
      constructor
      · rintro (same | ⟨other, ⟨member, -⟩, named⟩)
        · exact Or.inl same
        · exact Or.inr (ih.mp ⟨other, member, named⟩)
      · rintro (same | member)
        · exact Or.inl same
        · rcases ih.mpr member with ⟨other, found, named⟩
          by_cases same : id = node.id
          · exact Or.inl same
          · exact Or.inr ⟨other, ⟨found, by simpa [named] using same⟩, named⟩

theorem find?_firstById (id : String) (nodes : List Node) :
    (firstById nodes).find? (fun node => node.id == id) = nodes.find? fun node => node.id == id := by
  induction nodes with
  | nil => rfl
  | cons node rest ih =>
      rw [firstById, List.find?_cons, List.find?_cons]
      by_cases same : node.id = id
      · simp [same]
      · rw [show (node.id == id) = false by simpa using same]
        simp only [List.find?_filter]
        -- a node that is left out for sharing the first id is not the one sought
        rw [← ih]
        congr 1
        funext other
        by_cases sought : other.id = id
        · simp [sought, Ne.symm same]
        · simp [sought]

theorem node?_index (graph : Graph) (id : String) : graph.index.node? id = graph.node? id :=
  find?_firstById id graph.nodes

theorem mem_ids_index {graph : Graph} {id : String} :
    id ∈ graph.index.ids ↔ id ∈ graph.nodes.map Node.id :=
  mem_map_id_firstById

theorem exists_node?_iff {graph : Graph} {id : String} :
    (∃ node, graph.node? id = some node) ↔ id ∈ graph.index.ids := by
  rw [mem_ids_index, ← Option.isSome_iff_exists, node?, List.find?_isSome]
  simp only [List.mem_map, beq_iff_eq]

theorem hasNode_iff_mem_ids {graph : Graph} {id : String} :
    graph.hasNode id = true ↔ id ∈ graph.index.ids := by
  rw [mem_ids_index]
  simp only [hasNode, List.any_eq_true, List.mem_map, beq_iff_eq]

theorem closed_index (graph : Graph) : graph.index.Closed := by
  intro id next follows
  rcases follows_index.mp follows with ⟨edge, _, kept, _, rfl⟩
  simp only [connects, Bool.and_eq_true] at kept
  exact hasNode_iff_mem_ids.mp kept.2

end Graph

end SqlPipeline
