import Mathlib.Data.List.Infix
import Mathlib.Data.List.Nodup
import SqlPipeline.Proofs.Graph.CycleSearch
import SqlPipeline.Proofs.Graph.Reachability

/-!
# Chains

The nodes of a chain stand in a row, and kept edges lead from each to the next and nowhere else. A
chain has no cycle, and all three searches over a graph come to the same on it: from the first node
the depth-first order is the row (`preorder_of_isChain`), and the other nodes are what can be
reached (`mem_reachable_of_isChain`). Neither the order in which a graph lists the nodes of a chain
nor edges that are drawn twice matter.
-/

namespace SqlPipeline

open Relation

theorem head?_of_pair {id next : String} {before rest : List String}
    (distinct : (before ++ id :: rest).Nodup) (pair : [id, next] <:+: before ++ id :: rest) :
    rest.head? = some next := by
  rcases pair with ⟨front, back, split⟩
  rcases List.nodup_append.mp distinct with ⟨-, behind, apart⟩
  have notBefore : id ∉ before := fun member => apart id member id List.mem_cons_self rfl
  rw [List.append_assoc, List.cons_append] at split
  have parts := (List.append_cons_inj_of_notMem notBefore (List.nodup_cons.mp behind).1).mp
    split.symm
  rw [parts.2.2]
  rfl

theorem idxOf_lt_of_pair {id next : String} {ids : List String} (distinct : ids.Nodup)
    (pair : [id, next] <:+: ids) : ids.idxOf id < ids.idxOf next := by
  rcases pair with ⟨before, after, rfl⟩
  rw [List.append_assoc] at distinct ⊢
  rcases List.nodup_append.mp distinct with ⟨-, behind, apart⟩
  have notBefore : ∀ other ∈ [id, next], other ∉ before := fun other member inBefore =>
    apart other inBefore other (List.mem_append_left _ member) rfl
  have differ : id ≠ next := by
    rintro rfl
    exact (List.nodup_cons.mp behind).1 List.mem_cons_self
  rw [List.idxOf_append_of_notMem (notBefore id (by simp)),
    List.idxOf_append_of_notMem (notBefore next (by simp))]
  simp [List.idxOf_cons_ne _ differ]

namespace GraphIndex

theorem Visits.of_forall_mem {index : GraphIndex} {met pending : List String}
    (old : ∀ id ∈ pending, id ∈ met) : index.Visits met pending [] := by
  induction pending with
  | nil => exact .done met
  | cons id later ih =>
      exact .skip (old id List.mem_cons_self) (ih fun other member => old other (by simp [member]))

end GraphIndex

namespace Graph

/-- A graph whose nodes stand in a row, with kept edges from each to the next and nowhere else. -/
structure IsChain (graph : Graph) (nodes : List Node) : Prop where
  perm : graph.nodes.Perm nodes
  distinct : (nodes.map Node.id).Nodup
  kept_iff : ∀ id next, graph.Kept id next ↔ [id, next] <:+: nodes.map Node.id

variable {graph : Graph} {nodes : List Node}

theorem not_cycleBelow_of_isChain (chain : graph.IsChain nodes) (start : String) :
    ¬graph.CycleBelow start := by
  rintro ⟨id, -, cycle⟩
  -- along an edge the place in the row grows
  have grows : ∀ {other}, TransGen graph.Kept id other →
      (nodes.map Node.id).idxOf id < (nodes.map Node.id).idxOf other := by
    intro other walk
    induction walk with
    | single follows => exact idxOf_lt_of_pair chain.distinct ((chain.kept_iff _ _).mp follows)
    | tail _ follows ih =>
        exact ih.trans (idxOf_lt_of_pair chain.distinct ((chain.kept_iff _ _).mp follows))
  exact (grows cycle).false

theorem eq_of_mem_successors (chain : graph.IsChain nodes) {before rest : List String} {id : String}
    (row : nodes.map Node.id = before ++ id :: rest) :
    ∀ next ∈ graph.index.successors id, rest.head? = some next := by
  intro next follows
  have distinct := chain.distinct
  have pair := (chain.kept_iff id next).mp (follows_index.mp follows)
  rw [row] at distinct pair
  exact head?_of_pair distinct pair

/-- Behind a node of a chain the rest of the row is visited, in order. -/
theorem visits_successors (chain : graph.IsChain nodes) (before : List String)
    {rest met : List String} {id : String} (row : nodes.map Node.id = before ++ id :: rest)
    (new : ∀ other ∈ rest, other ∉ met) :
    graph.index.Visits met (graph.index.successors id) rest := by
  induction rest generalizing before id met with
  | nil =>
      have nothing : graph.index.successors id = [] := by
        apply List.eq_nil_iff_forall_not_mem.mpr
        intro next follows
        cases eq_of_mem_successors chain row next follows
      rw [nothing]
      exact .done met
  | cons next rest ih =>
      have only : ∀ other ∈ graph.index.successors id, other = next := fun other follows =>
        (Option.some.inj (eq_of_mem_successors chain row other follows)).symm
      have follows : next ∈ graph.index.successors id := by
        apply follows_index.mpr
        rw [chain.kept_iff, row]
        exact ⟨before, rest, by simp⟩
      have distinct := chain.distinct
      rw [row] at distinct
      have notBehind : next ∉ rest :=
        (List.nodup_cons.mp (List.nodup_cons.mp (List.nodup_append.mp distinct).2.1).2).1
      have inner : graph.index.Visits (next :: met) (graph.index.successors next) rest := by
        refine ih (before ++ [id]) (by rw [row]; simp) fun other member => ?_
        rw [List.mem_cons, not_or]
        refine ⟨?_, new other (List.mem_cons_of_mem _ member)⟩
        rintro rfl
        exact notBehind member
      rcases successors : graph.index.successors id with _ | ⟨first, repeated⟩
      · rw [successors] at follows
        cases follows
      · rw [successors] at only
        obtain rfl := only first List.mem_cons_self
        have again : graph.index.Visits (rest ++ first :: met) repeated [] :=
          .of_forall_mem fun other member => by simp [only other (List.mem_cons_of_mem _ member)]
        simpa using GraphIndex.Visits.visit (new first List.mem_cons_self) inner again

variable {first : Node} {rest : List Node}

theorem preorder_of_isChain (chain : graph.IsChain (first :: rest)) :
    graph.index.preorder first.id = rest.map Node.id := by
  have distinct := chain.distinct
  rw [List.map_cons, List.nodup_cons] at distinct
  have visits : graph.index.Visits [first.id] (graph.index.successors first.id)
      (rest.map Node.id) := by
    refine visits_successors chain [] rfl fun other member => ?_
    rw [List.mem_singleton]
    rintro rfl
    exact distinct.1 member
  exact (GraphIndex.visits_preorder graph.closed_index first.id).unique visits

theorem mem_reachable_of_isChain (chain : graph.IsChain (first :: rest)) {id : String} :
    id ∈ graph.index.reachable first.id ↔ id ∈ rest.map Node.id := by
  rw [GraphIndex.mem_reachable graph.closed_index, ← preorder_of_isChain chain,
    GraphIndex.mem_preorder graph.closed_index]

/-- The node with the id of a node of a chain is that node. -/
theorem node?_of_isChain (chain : graph.IsChain nodes) {node : Node} (member : node ∈ nodes) :
    graph.node? node.id = some node := by
  have distinct : (graph.nodes.map Node.id).Nodup :=
    (chain.perm.map Node.id).nodup_iff.mpr chain.distinct
  have listed : node ∈ graph.nodes := chain.perm.mem_iff.mpr member
  rw [node?]
  rcases found : graph.nodes.find? (fun other => other.id == node.id) with _ | other
  · exact absurd (List.find?_eq_none.mp found node listed) (by simp)
  · have same : other.id = node.id := by simpa using List.find?_some found
    rw [found, List.inj_on_of_nodup_map distinct (List.mem_of_find?_eq_some found) listed same]

theorem filterMap_node?_of_isChain (chain : graph.IsChain (first :: rest)) :
    (rest.map Node.id).filterMap graph.node? = rest := by
  rw [List.filterMap_map, List.filterMap_congr (g := some), List.filterMap_some]
  intro node member
  exact node?_of_isChain chain (List.mem_cons_of_mem _ member)

/-- The only source in a chain. -/
theorem sources_of_isChain (chain : graph.IsChain (first :: rest)) (isSource : first.kind = .source)
    (noOther : ∀ node ∈ rest, node.kind ≠ .source) : graph.sources = [first] := by
  have row : (first :: rest).filter (fun node => node.kind == .source) = [first] := by
    rw [List.filter_cons_of_pos (by simpa using isSource), List.filter_eq_nil_iff.mpr]
    intro node member
    simpa using noOther node member
  have perm := chain.perm.filter fun node => node.kind == .source
  rw [row] at perm
  exact List.perm_singleton.mp perm

end Graph

end SqlPipeline
