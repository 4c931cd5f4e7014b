import Mathlib.Data.List.Perm.Basic
import SqlPipeline.Proofs.Graph.Reachability
import SqlPipeline.Proofs.Sql.Compilation

/-!
# What is visited is what can be reached

Two loops walk below an id. One answers what can be reached from it, breadth first, and may come
back to where it started. The other compiles, depth first, and reports each node that it takes up.
Whenever compilation succeeds they find the same ids (`reachableFrom_exact`), and both find them
once: the ids with some path of edges to them, the start left out.

`Graph.visited` is read off the reports, so it speaks of the run of compilation and not of the order
from which it is made.
-/

namespace SqlPipeline

open Relation

namespace GraphIndex

variable {index : GraphIndex}

/-- A traversal visits no id twice. -/
theorem nodup_explore (enqueue : List String → List String → List String)
    (unmet pending : List String) : (index.explore enqueue unmet pending).Nodup := by
  induction unmet, pending using explore.induct index enqueue with
  | case1 =>
      rw [explore]
      exact List.nodup_nil
  | case2 unmet first later new ih =>
      rw [explore, if_pos new, List.nodup_cons]
      exact ⟨fun again => (mem_removeId.mp (mem_explore again)).2 rfl, ih⟩
  | case3 unmet first later old ih =>
      rw [explore, if_neg old]
      exact ih

theorem nodup_reachable (index : GraphIndex) (start : String) : (index.reachable start).Nodup := by
  rw [reachable, (List.mergeSort_perm _ _).nodup_iff]
  exact (nodup_explore _ _ _).filter _

/-- What can be reached is at the end of a path of at least one edge, and not the start. -/
theorem mem_reachable_iff_transGen (closed : index.Closed) {start id : String} :
    id ∈ index.reachable start ↔ id ≠ start ∧ TransGen index.Follows start id := by
  rw [mem_reachable closed, reflTransGen_iff_eq_or_transGen]
  tauto

/-- The depth-first order holds what can be reached. -/
theorem preorder_perm_reachable (closed : index.Closed) (start : String) :
    (index.preorder start).Perm (index.reachable start) := by
  rw [List.perm_ext_iff_of_nodup (nodup_preorder closed start) (index.nodup_reachable start)]
  intro id
  rw [mem_preorder closed, mem_reachable closed]

end GraphIndex

/-- The id of the node that an event reports as taken up by compilation. -/
def Event.takenUp? (event : Event) : Option String :=
  if event.message = "Compiling node" then
    match event.details with
    | ("node", .str id) :: _ => some id
    | _ => none
  else none

namespace Draft

theorem filterMap_takenUp?_add (sourceAlias : String) (node : Node) (draft : Draft) :
    (add sourceAlias node draft).events.filterMap Event.takenUp? = [] := by
  rcases node with ⟨id, stage, position⟩
  cases stage with
  | filter filter =>
      rw [add, events_addFilter]
      split
      · simp [Event.takenUp?]
      · rfl
  | aggregate aggregate =>
      simp only [add, addAggregate]
      split
      · rw [Traced.events_bind_of_ok _ (Traced.outcome_tell _ _ _)]
        simp [Event.takenUp?]
      · rfl
  | misfit kind held apart =>
      simp only [add]
      cases held.missing? kind.clauseFields <;> rfl
  | _ => rfl

/-- Each node is reported once, in order. -/
theorem filterMap_takenUp?_addAll (sourceAlias : String) {nodes : List Node} (draft : Draft)
    (clear : nodes.findSome? obstacle? = none) :
    (addAll sourceAlias nodes draft).events.filterMap Event.takenUp? =
      nodes.map Node.id := by
  induction nodes generalizing draft with
  | nil => rfl
  | cons node rest ih =>
      have reported : Event.takenUp? ⟨.debug, "Compiling node",
          [("node", .str node.id), ("type", .str node.kind.label)]⟩ = some node.id := by
        simp [Event.takenUp?]
      rw [List.findSome?_eq_none_iff, List.forall_mem_cons, ← List.findSome?_eq_none_iff] at clear
      rw [events_addAll_cons clear.1, List.filterMap_cons_some reported, List.filterMap_append,
        filterMap_takenUp?_add, ih _ clear.2, List.nil_append, List.map_cons]

end Draft

namespace Graph

/-- The ids that compilation has visited in the end, by its own reports: the source, and each node
taken up. -/
def visited (settings : Settings) (graph : Graph) (source : Node) : List String :=
  source.id :: (graph.compile settings).events.filterMap Event.takenUp?

theorem filterMap_takenUp?_skippedEdges (graph : Graph) :
    graph.skippedEdges.filterMap Event.takenUp? = [] := by
  rw [List.filterMap_eq_nil_iff]
  intro event member
  rw [skippedEdges] at member
  rcases List.mem_map.mp member with ⟨edge, -, rfl⟩
  simp [Event.takenUp?]

theorem filterMap_takenUp?_findSource (graph : Graph) :
    graph.findSource.events.filterMap Event.takenUp? = [] := by
  unfold findSource
  split
  · rfl
  · rfl
  · rw [Traced.events_bind_of_ok _ (Traced.outcome_tell _ _ _)]
    simp [Event.takenUp?]

/-- The visited ids are those of the depth-first order. -/
theorem visited_eq {settings : Settings} {graph : Graph} {source : Node} {others : List Node}
    {base : String} (found : graph.sources = source :: others)
    (isBase : Draft.baseOf source = .ok base)
    (passed : graph.index.checkCycles source.id = .ok ()) (clear : graph.obstacle? source = none) :
    graph.visited settings source = source.id :: graph.index.preorder source.id := by
  have finished : Event.takenUp? ⟨.debug, "Compiled pipeline graph",
      [("nodes", .int ((graph.compiledNodes source).length + 1)),
        ("sql", .str (graph.finalDraft settings source base).sql)]⟩ = none := by
    simp [Event.takenUp?]
  rw [visited, events_compile settings found isBase passed clear]
  simp only [List.filterMap_append, filterMap_takenUp?_skippedEdges,
    filterMap_takenUp?_findSource, Draft.filterMap_takenUp?_addAll _ _ clear,
    List.filterMap_cons_none finished, List.filterMap_nil, List.nil_append, List.append_nil,
    map_id_compiledNodes]

theorem node?_eq_none_iff {graph : Graph} {id : String} :
    graph.index.node? id = none ↔ ∀ node ∈ graph.nodes, node.id ≠ id := by
  rw [node?_index, node?, List.find?_eq_none]
  simp only [beq_iff_eq, ne_eq]

theorem reachableFrom_eq_error_iff {graph : Graph} {id : String} :
    graph.index.reachableFrom id = .error ⟨id⟩ ↔ ∀ node ∈ graph.nodes, node.id ≠ id := by
  rw [← node?_eq_none_iff, GraphIndex.reachableFrom]
  cases graph.index.node? id <;> simp

theorem reachableFrom_of_mem {graph : Graph} {id : String}
    (known : ∃ node ∈ graph.nodes, node.id = id) :
    graph.index.reachableFrom id = .ok (graph.index.reachable id) := by
  have found : graph.index.node? id ≠ none := by
    rw [Ne, node?_eq_none_iff]
    push Not
    exact known
  rw [GraphIndex.reachableFrom, if_pos (Option.isSome_iff_ne_none.mpr found)]

/-- Asking what can be reached fails exactly for an id that no node has. Otherwise the answer is
what is at the end of a path of at least one edge, without the id itself, and each id once. Whenever
a graph is compiled, the ids visited are the source and what can be reached from it, and they are as
many as the last report says. -/
theorem reachableFrom_exact (graph : Graph) :
    (∀ id, graph.index.reachableFrom id = .error ⟨id⟩ ↔ ∀ node ∈ graph.nodes, node.id ≠ id) ∧
    (∀ id, (∃ node ∈ graph.nodes, node.id = id) →
      ∃ ids, graph.index.reachableFrom id = .ok ids ∧ ids.Nodup ∧
        ∀ other, other ∈ ids ↔ other ≠ id ∧ TransGen graph.Kept id other) ∧
    ∀ settings sql, (graph.compile settings).outcome = .ok sql →
      ∃ source others ids, graph.sources = source :: others ∧
        graph.index.reachableFrom source.id = .ok ids ∧
        (graph.visited settings source).Perm (source.id :: ids) ∧
        (graph.visited settings source).Nodup ∧
        (graph.compile settings).events.getLast? = some
          ⟨.debug, "Compiled pipeline graph",
            [("nodes", .int (graph.visited settings source).length), ("sql", .str sql)]⟩ := by
  refine ⟨fun id => reachableFrom_eq_error_iff, fun id known => ?_, ?_⟩
  · refine ⟨_, reachableFrom_of_mem known, graph.index.nodup_reachable id, fun other => ?_⟩
    rw [GraphIndex.mem_reachable_iff_transGen graph.closed_index, follows_index_eq]
  · intro settings sql compiled
    rcases exists_of_compile_ok compiled with
      ⟨source, others, base, found, isBase, passed, clear, rfl⟩
    have visited := @visited_eq settings _ _ _ _ found isBase passed clear
    have known : ∃ node ∈ graph.nodes, node.id = source.id := by
      have member : source ∈ graph.sources := by
        rw [found]
        exact List.mem_cons_self
      exact ⟨source, List.mem_of_mem_filter member, rfl⟩
    have perm := (GraphIndex.preorder_perm_reachable graph.closed_index source.id).cons source.id
    refine ⟨source, others, _, found, reachableFrom_of_mem known, ?_, ?_, ?_⟩
    · rw [visited]
      exact perm
    · rw [visited, List.nodup_cons]
      refine ⟨fun again => ?_, GraphIndex.nodup_preorder graph.closed_index source.id⟩
      exact ((GraphIndex.mem_preorder graph.closed_index).mp again).2 rfl
    · have counted : (graph.visited settings source).length =
          (graph.compiledNodes source).length + 1 := by
        rw [visited, ← map_id_compiledNodes, List.length_cons, List.length_map]
      rw [events_compile settings found isBase passed clear, counted, ← List.append_assoc,
        ← List.append_assoc, List.getLast?_concat]
      rfl

/-- The edges lead back to `s`, and the id of the source is taken by another node. -/
def returning : Graph where
  nodes :=
    [⟨"s", .lookup {}, {}⟩, ⟨"s", .source { table := some "t" }, {}⟩, ⟨"a", .lookup {}, {}⟩,
      ⟨"b", .target {}, {}⟩]
  edges :=
    [⟨"1", "s", "a", none, none⟩, ⟨"2", "a", "b", none, none⟩, ⟨"3", "b", "s", none, none⟩,
      ⟨"4", "b", "ghost", none, none⟩]

theorem reachableFrom_exact_returning :
    (∃ node ∈ returning.nodes, node.id = "a") ∧
    (∃ ids, returning.index.reachableFrom "a" = .ok ids ∧ ids.Nodup ∧
      ∀ other, other ∈ ids ↔ other ≠ "a" ∧ TransGen returning.Kept "a" other) ∧
    (diamond.compile {}).outcome = .ok "SELECT * FROM \"t\" AS source WHERE x < 5" ∧
    ∃ source others ids, diamond.sources = source :: others ∧
      diamond.index.reachableFrom source.id = .ok ids ∧
      (diamond.visited {} source).Perm (source.id :: ids) ∧
      (diamond.visited {} source).Nodup ∧
      (diamond.compile {}).events.getLast? = some
        ⟨.debug, "Compiled pipeline graph",
          [("nodes", .int (diamond.visited {} source).length),
            ("sql", .str "SELECT * FROM \"t\" AS source WHERE x < 5")]⟩ := by
  have known : ∃ node ∈ returning.nodes, node.id = "a" := ⟨_, .tail _ (.tail _ (.head _)), rfl⟩
  have compiled : (diamond.compile {}).outcome =
      .ok "SELECT * FROM \"t\" AS source WHERE x < 5" := by
    have nodes : diamond.compiledNodes ⟨"s", .source { table := some "t" }, {}⟩ =
        [⟨"l", .lookup {}, {}⟩, ⟨"m", .filter { conditions := [⟨"x", .less, .int 5⟩] }, {}⟩,
          ⟨"r", .transform {}, {}⟩] := by
      cbv
    have clear : diamond.obstacle? ⟨"s", .source { table := some "t" }, {}⟩ = none := by
      rw [obstacle?, nodes]
      decide
    rw [@outcome_compile_of_noCycle diamond _ _ "\"t\"" {} rfl rfl not_cycleBelow_diamond clear,
      finalDraft, nodes]
    rfl
  exact ⟨known, (reachableFrom_exact returning).2.1 "a" known, compiled,
    (reachableFrom_exact diamond).2.2 {} _ compiled⟩

end Graph

end SqlPipeline
