import Mathlib.Data.List.Nodup
import Mathlib.Logic.Relation
import SqlPipeline.Proofs.Graph.Agreement
import SqlPipeline.Proofs.Sql.Compilation

/-!
# Compilation depends on what can be reached

What compilation says of a graph is settled by the id and the payload of the first source, by the
successors of the ids that can be reached from it, and by the payloads of the nodes that these ids
stand for (`outcome_compile_of_alike`). The first source itself need not be the node that its id
stands for.

`Unnoticed` lists the changes of a graph that leave all of this alone. Nodes may be listed in
another order as long as the first source stays the first, and each id that can be reached stands
for the same node: where two nodes share such an id, their order does matter, as
`outcome_compile_twins` shows.
-/

namespace SqlPipeline

open Relation

namespace Draft

theorem extend_eq_of_stage_eq (sourceAlias : String) (draft : Draft) {node other : Node}
    (same : node.stage = other.stage) :
    draft.extend sourceAlias node = draft.extend sourceAlias other := by
  simp only [extend, columnsOf, clauseOf, filtersOf, aggregatesOf, same]

/-- What nodes add to a statement is told by their stages. -/
theorem foldl_extend_eq_of_stages (sourceAlias : String) {nodes others : List Node} (draft : Draft)
    (same : nodes.map Node.stage = others.map Node.stage) :
    nodes.foldl (extend sourceAlias) draft = others.foldl (extend sourceAlias) draft := by
  induction nodes generalizing others draft with
  | nil =>
      obtain rfl : others = [] := by simpa using same.symm
      rfl
  | cons node rest ih =>
      rcases others with _ | ⟨other, others⟩
      · simp at same
      · rw [List.map_cons, List.map_cons, List.cons.injEq] at same
        rw [List.foldl_cons, List.foldl_cons, extend_eq_of_stage_eq sourceAlias draft same.1]
        exact ih _ same.2

theorem findSome?_obstacle?_eq_of_stages {nodes others : List Node}
    (same : nodes.map Node.stage = others.map Node.stage) :
    nodes.findSome? obstacle? = others.findSome? obstacle? := by
  have byStage : obstacle? = (fun stage => obstacle? ⟨"", stage, {}⟩) ∘ Node.stage := rfl
  rw [byStage, ← List.findSome?_map, ← List.findSome?_map, same]

theorem baseOf_eq_of_stage_eq {node other : Node} (sameId : node.id = other.id)
    (sameStage : node.stage = other.stage) : baseOf node = baseOf other := by
  rw [baseOf, baseOf, sameId, sameStage]

end Draft

namespace Graph

/-- The source that compilation starts from: the first source node. -/
def firstSource? (graph : Graph) : Option Node :=
  graph.nodes.find? fun node => node.kind == .source

/-- Graphs that agree on the part below their first sources. -/
structure Alike (graph other : Graph) (source otherSource : Node) : Prop where
  isFirst : graph.firstSource? = some source
  isOther : other.firstSource? = some otherSource
  sameId : source.id = otherSource.id
  sameStage : source.stage = otherSource.stage
  sameSuccessors : ∀ id, ReflTransGen graph.Kept source.id id →
    graph.index.successors id = other.index.successors id
  sameStages : ∀ id, ReflTransGen graph.Kept source.id id → id ≠ source.id →
    (graph.node? id).map Node.stage = (other.node? id).map Node.stage

namespace Alike

variable {graph other : Graph} {source otherSource : Node}

theorem agreesBelow (alike : graph.Alike other source otherSource) :
    graph.index.AgreesBelow other.index source.id := by
  intro id walk
  rw [follows_index_eq] at walk
  exact alike.sameSuccessors id walk

theorem preorder_eq (alike : graph.Alike other source otherSource) :
    graph.index.preorder source.id = other.index.preorder otherSource.id := by
  rw [← alike.sameId]
  exact GraphIndex.preorder_eq_of_agreesBelow graph.closed_index other.closed_index
    alike.agreesBelow

theorem cycle?_eq (alike : graph.Alike other source otherSource) :
    graph.index.cycle? source.id = other.index.cycle? otherSource.id := by
  rw [← alike.sameId]
  exact GraphIndex.cycle?_eq_of_agreesBelow graph.closed_index other.closed_index
    alike.agreesBelow

/-- The nodes compiled have the same stages, in the same order. -/
theorem stages_compiledNodes (alike : graph.Alike other source otherSource) :
    (graph.compiledNodes source).map Node.stage =
      (other.compiledNodes otherSource).map Node.stage := by
  rw [compiledNodes, compiledNodes, ← alike.preorder_eq, List.map_filterMap, List.map_filterMap]
  apply List.filterMap_congr
  intro id member
  have reached := (GraphIndex.mem_preorder graph.closed_index).mp member
  rw [follows_index_eq] at reached
  rw [node?_index, node?_index]
  exact alike.sameStages id reached.1 reached.2

theorem finalDraft_eq (alike : graph.Alike other source otherSource) (settings : Settings)
    (base : String) :
    graph.finalDraft settings source base = other.finalDraft settings otherSource base :=
  Draft.foldl_extend_eq_of_stages _ _ alike.stages_compiledNodes

theorem obstacle?_eq (alike : graph.Alike other source otherSource) :
    graph.obstacle? source = other.obstacle? otherSource :=
  Draft.findSome?_obstacle?_eq_of_stages alike.stages_compiledNodes

end Alike

/-- Graphs that agree on the part below their first sources have the same outcome. -/
theorem outcome_compile_of_alike {graph other : Graph} {source otherSource : Node}
    (settings : Settings) (alike : graph.Alike other source otherSource) :
    (graph.compile settings).outcome = (other.compile settings).outcome := by
  rcases sources_of_find? alike.isFirst with ⟨later, found⟩
  rcases sources_of_find? alike.isOther with ⟨otherLater, otherFound⟩
  have sameBase := Draft.baseOf_eq_of_stage_eq alike.sameId alike.sameStage
  rcases isBase : Draft.baseOf source with error | base
  · rw [outcome_compile_of_unreadable settings found isBase,
      outcome_compile_of_unreadable settings otherFound (sameBase.symm.trans isBase)]
  · rw [outcome_compile_of_base settings found isBase,
      outcome_compile_of_base settings otherFound (sameBase.symm.trans isBase), alike.cycle?_eq,
      alike.obstacle?_eq, alike.finalDraft_eq]

/-- An id that can be reached from the first source. -/
def ReachedFromSource (graph : Graph) (id : String) : Prop :=
  ∃ source, graph.firstSource? = some source ∧ ReflTransGen graph.Kept source.id id

theorem reachedFromSource_iff {graph : Graph} {source : Node} {id : String}
    (first : graph.firstSource? = some source) :
    graph.ReachedFromSource id ↔ ReflTransGen graph.Kept source.id id := by
  simp [ReachedFromSource, first]

theorem reachedFromSource_of_kept {graph : Graph} {id next : String}
    (reached : graph.ReachedFromSource id) (kept : graph.Kept id next) :
    graph.ReachedFromSource next := by
  rcases reached with ⟨source, first, walk⟩
  exact ⟨source, first, walk.tail kept⟩

theorem sources_eq_nil_of_firstSource? {graph : Graph} (none : graph.firstSource? = none) :
    graph.sources = [] := by
  rw [sources, List.filter_eq_nil_iff]
  exact List.find?_eq_none.mp none

/-- The same outcome without naming the sources: neither graph may have one. -/
theorem outcome_compile_of_reached {graph other : Graph} (settings : Settings)
    (sameSource : graph.firstSource?.map (fun node => (node.id, node.stage)) =
      other.firstSource?.map fun node => (node.id, node.stage))
    (sameSuccessors : ∀ id, graph.ReachedFromSource id →
      graph.index.successors id = other.index.successors id)
    (sameStages : ∀ id, graph.ReachedFromSource id →
      (graph.node? id).map Node.stage = (other.node? id).map Node.stage) :
    (graph.compile settings).outcome = (other.compile settings).outcome := by
  rcases first : graph.firstSource? with _ | source <;>
    rcases otherFirst : other.firstSource? with _ | otherSource <;>
    rw [first, otherFirst] at sameSource
  · rw [outcome_compile_of_noSource settings (sources_eq_nil_of_firstSource? first),
      outcome_compile_of_noSource settings (sources_eq_nil_of_firstSource? otherFirst)]
  · cases sameSource
  · cases sameSource
  · simp only [Option.map_some, Option.some.injEq, Prod.mk.injEq] at sameSource
    exact outcome_compile_of_alike settings
      { isFirst := first
        isOther := otherFirst
        sameId := sameSource.1
        sameStage := sameSource.2
        sameSuccessors := fun id walk =>
          sameSuccessors id ((reachedFromSource_iff first).mpr walk)
        sameStages := fun id walk _ => sameStages id ((reachedFromSource_iff first).mpr walk) }

/-- Changes of a graph that compilation does not notice. -/
inductive Unnoticed : Graph → Graph → Prop where
  /-- An edge with an end that is no node is left out. -/
  | danglingEdge {nodes : List Node} {before after : List Edge} {edge : Edge}
      (dangles : (⟨nodes, before ++ edge :: after⟩ : Graph).connects edge = false) :
      Unnoticed ⟨nodes, before ++ edge :: after⟩ ⟨nodes, before ++ after⟩
  /-- An edge that cannot be reached is left out. -/
  | unreachedEdge {nodes : List Node} {before after : List Edge} {edge : Edge}
      (unreached : ¬ReachedFromSource ⟨nodes, before ++ edge :: after⟩ edge.source) :
      Unnoticed ⟨nodes, before ++ edge :: after⟩ ⟨nodes, before ++ after⟩
  /-- A node that cannot be reached is left out. -/
  | unreachedNode {before after : List Node} {node : Node} {edges : List Edge}
      (unreached : ¬ReachedFromSource ⟨before ++ node :: after, edges⟩ node.id) :
      Unnoticed ⟨before ++ node :: after, edges⟩ ⟨before ++ after, edges⟩
  /-- A node whose id was taken before is left out, unless it is the first source. -/
  | takenId {before after : List Node} {node : Node} {edges : List Edge}
      (taken : ∃ other ∈ before, other.id = node.id)
      (notFirst : node.kind = .source → ∃ other ∈ before, other.kind = .source) :
      Unnoticed ⟨before ++ node :: after, edges⟩ ⟨before ++ after, edges⟩
  /-- Nodes are listed in another order. -/
  | nodeOrder {nodes others : List Node} {edges : List Edge} (perm : nodes.Perm others)
      (sameSource : firstSource? ⟨nodes, edges⟩ = firstSource? ⟨others, edges⟩)
      (sameNode : ∀ id, ReachedFromSource ⟨nodes, edges⟩ id →
        node? ⟨nodes, edges⟩ id = node? ⟨others, edges⟩ id) :
      Unnoticed ⟨nodes, edges⟩ ⟨others, edges⟩
  /-- Edges with different sources are interleaved in another way. -/
  | interleaving {nodes : List Node} {edges others : List Edge}
      (sameOrder : ∀ id, edges.filter (fun edge => edge.source == id) =
        others.filter fun edge => edge.source == id) :
      Unnoticed ⟨nodes, edges⟩ ⟨nodes, others⟩
  /-- Nodes are placed elsewhere, and edges get other ids and handles. -/
  | layout {nodes others : List Node} {edges otherEdges : List Edge}
      (sameNodes : nodes.map (fun node => (node.id, node.stage)) =
        others.map fun node => (node.id, node.stage))
      (sameEdges : edges.map (fun edge => (edge.source, edge.target)) =
        otherEdges.map fun edge => (edge.source, edge.target)) :
      Unnoticed ⟨nodes, edges⟩ ⟨others, otherEdges⟩

theorem successors_index (graph : Graph) (id : String) :
    graph.index.successors id =
      ((graph.edges.filter fun edge => edge.source == id).filter graph.connects).map
        Edge.target := by
  rw [GraphIndex.successors, index, List.filter_filter, List.filter_filter]
  congr 2
  funext edge
  exact Bool.and_comm _ _

theorem hasNode_eq (graph : Graph) (id : String) :
    graph.hasNode id = (graph.node? id).isSome := by
  rw [Bool.eq_iff_iff, hasNode_iff_mem_ids, ← exists_node?_iff, Option.isSome_iff_exists]

/-- Edges are kept alike when the same ids are those of nodes. -/
theorem successors_eq_of_hasNode {nodes others : List Node} {edges : List Edge}
    (same : ∀ id, hasNode ⟨nodes, edges⟩ id = hasNode ⟨others, edges⟩ id) (id : String) :
    (index ⟨nodes, edges⟩).successors id = (index ⟨others, edges⟩).successors id := by
  have sameConnects : connects ⟨nodes, edges⟩ = connects ⟨others, edges⟩ := by
    funext edge
    rw [connects, connects, same, same]
  rw [successors_index, successors_index, sameConnects]

/-- A search does not see an element that fails the test or comes behind one that passes it. -/
theorem find?_append_cons {α : Type} {test : α → Bool} {before after : List α} {element : α}
    (hidden : test element = true → ∃ other ∈ before, test other = true) :
    (before ++ element :: after).find? test = (before ++ after).find? test := by
  rw [List.find?_append, List.find?_append]
  rcases found : before.find? test with _ | first
  · rw [List.find?_cons_of_neg]
    intro passes
    rcases hidden passes with ⟨other, member, alsoPasses⟩
    exact List.find?_eq_none.mp found other member alsoPasses
  · rw [Option.some_or, Option.some_or]

variable (settings : Settings)

theorem outcome_compile_danglingEdge {nodes : List Node} {before after : List Edge} {edge : Edge}
    (dangles : (⟨nodes, before ++ edge :: after⟩ : Graph).connects edge = false) :
    (compile settings ⟨nodes, before ++ edge :: after⟩).outcome =
      (compile settings ⟨nodes, before ++ after⟩).outcome := by
  have sameIndex : index ⟨nodes, before ++ edge :: after⟩ = index ⟨nodes, before ++ after⟩ := by
    rw [index, index, List.filter_append, List.filter_append,
      List.filter_cons_of_neg (by simp [dangles])]
    rfl
  apply outcome_compile_of_reached
  · rfl
  · intro id _
    rw [sameIndex]
  · intro id _
    rfl

theorem outcome_compile_unreachedEdge {nodes : List Node} {before after : List Edge} {edge : Edge}
    (unreached : ¬ReachedFromSource ⟨nodes, before ++ edge :: after⟩ edge.source) :
    (compile settings ⟨nodes, before ++ edge :: after⟩).outcome =
      (compile settings ⟨nodes, before ++ after⟩).outcome := by
  apply outcome_compile_of_reached
  · rfl
  · intro id reached
    have elsewhere : edge.source ≠ id := by
      rintro rfl
      exact unreached reached
    have sameEdges : (before ++ edge :: after).filter (fun edge => edge.source == id) =
        (before ++ after).filter fun edge => edge.source == id := by
      rw [List.filter_append, List.filter_append,
        List.filter_cons_of_neg (by simpa using elsewhere)]
    rw [successors_index, successors_index, sameEdges]
    rfl
  · intro id _
    rfl

theorem outcome_compile_unreachedNode {before after : List Node} {node : Node} {edges : List Edge}
    (unreached : ¬ReachedFromSource ⟨before ++ node :: after, edges⟩ node.id) :
    (compile settings ⟨before ++ node :: after, edges⟩).outcome =
      (compile settings ⟨before ++ after, edges⟩).outcome := by
  have sameNode : ∀ id, id ≠ node.id →
      node? ⟨before ++ node :: after, edges⟩ id = node? ⟨before ++ after, edges⟩ id := by
    intro id other
    apply find?_append_cons
    intro same
    exact absurd (eq_of_beq same).symm other
  apply outcome_compile_of_reached
  · congr 1
    apply find?_append_cons
    intro isSource
    by_contra none
    refine unreached ⟨node, ?_, ReflTransGen.refl⟩
    have noneBefore : before.find? (fun node => node.kind == .source) = .none := by
      simpa using none
    rw [firstSource?, List.find?_append, noneBefore, Option.none_or]
    exact List.find?_cons_of_pos isSource
  · intro id reached
    -- a kept edge that leaves a reached id leads to a reached id
    have sameConnects : ∀ edge ∈ edges.filter (fun edge => edge.source == id),
        connects ⟨before ++ node :: after, edges⟩ edge = connects ⟨before ++ after, edges⟩ edge := by
      intro edge member
      rcases List.mem_filter.mp member with ⟨listed, leaves⟩
      obtain rfl : edge.source = id := eq_of_beq leaves
      have otherSource : edge.source ≠ node.id := fun same => unreached (same ▸ reached)
      by_cases connected : connects ⟨before ++ node :: after, edges⟩ edge = true
      · have kept : Kept ⟨before ++ node :: after, edges⟩ edge.source edge.target :=
          ⟨edge, listed, connected, rfl, rfl⟩
        have otherTarget : edge.target ≠ node.id := fun same =>
          unreached (same ▸ reachedFromSource_of_kept reached kept)
        simp only [connects, hasNode_eq, sameNode _ otherSource, sameNode _ otherTarget]
      · have fewer : connects ⟨before ++ after, edges⟩ edge = true →
            connects ⟨before ++ node :: after, edges⟩ edge = true := by
          simp only [connects, hasNode, List.any_append, List.any_cons, Bool.and_eq_true,
            Bool.or_eq_true]
          tauto
        rw [Bool.eq_false_iff.mpr connected, Bool.eq_false_iff.mpr fun other =>
          connected (fewer other)]
    rw [successors_index, successors_index, List.filter_congr sameConnects]
  · intro id reached
    rw [sameNode]
    rintro rfl
    exact unreached reached

theorem outcome_compile_takenId {before after : List Node} {node : Node} {edges : List Edge}
    (taken : ∃ other ∈ before, other.id = node.id)
    (notFirst : node.kind = .source → ∃ other ∈ before, other.kind = .source) :
    (compile settings ⟨before ++ node :: after, edges⟩).outcome =
      (compile settings ⟨before ++ after, edges⟩).outcome := by
  have sameNode : ∀ id,
      node? ⟨before ++ node :: after, edges⟩ id = node? ⟨before ++ after, edges⟩ id := by
    intro id
    apply find?_append_cons
    intro named
    simpa only [← eq_of_beq named, beq_iff_eq] using taken
  apply outcome_compile_of_reached
  · congr 1
    apply find?_append_cons
    simpa only [beq_iff_eq] using notFirst
  · intro id _
    apply successors_eq_of_hasNode
    intro id
    rw [hasNode_eq, hasNode_eq, sameNode]
  · intro id _
    rw [sameNode]

theorem outcome_compile_nodeOrder {nodes others : List Node} {edges : List Edge}
    (perm : nodes.Perm others)
    (sameSource : firstSource? ⟨nodes, edges⟩ = firstSource? ⟨others, edges⟩)
    (sameNode : ∀ id, ReachedFromSource ⟨nodes, edges⟩ id →
      node? ⟨nodes, edges⟩ id = node? ⟨others, edges⟩ id) :
    (compile settings ⟨nodes, edges⟩).outcome = (compile settings ⟨others, edges⟩).outcome := by
  apply outcome_compile_of_reached
  · rw [sameSource]
  · intro id _
    apply successors_eq_of_hasNode
    intro id
    exact perm.any_eq
  · intro id reached
    rw [sameNode id reached]

theorem outcome_compile_interleaving {nodes : List Node} {edges others : List Edge}
    (sameOrder : ∀ id, edges.filter (fun edge => edge.source == id) =
      others.filter fun edge => edge.source == id) :
    (compile settings ⟨nodes, edges⟩).outcome = (compile settings ⟨nodes, others⟩).outcome := by
  apply outcome_compile_of_reached
  · rfl
  · intro id _
    rw [successors_index, successors_index, sameOrder]
    rfl
  · intro id _
    rfl

/-- The nodes with an id and the edges matter only as ids with stages and as pairs of ids. -/
theorem outcome_compile_layout {nodes others : List Node} {edges otherEdges : List Edge}
    (sameNodes : nodes.map (fun node => (node.id, node.stage)) =
      others.map fun node => (node.id, node.stage))
    (sameEdges : edges.map (fun edge => (edge.source, edge.target)) =
      otherEdges.map fun edge => (edge.source, edge.target)) :
    (compile settings ⟨nodes, edges⟩).outcome = (compile settings ⟨others, otherEdges⟩).outcome := by
  have sameFind : ∀ test : String × Stage → Bool,
      (nodes.find? fun node => test (node.id, node.stage)).map (fun node => (node.id, node.stage)) =
        (others.find? fun node => test (node.id, node.stage)).map
          fun node => (node.id, node.stage) := by
    intro test
    have found := congrArg (List.find? test) sameNodes
    rwa [List.find?_map, List.find?_map] at found
  have sameHasNode : ∀ id, hasNode ⟨nodes, edges⟩ id = hasNode ⟨others, otherEdges⟩ id := by
    intro id
    have found := congrArg Option.isSome (sameFind fun pair => pair.1 == id)
    rw [Option.isSome_map, Option.isSome_map] at found
    rw [hasNode_eq, hasNode_eq]
    exact found
  apply outcome_compile_of_reached
  · exact sameFind fun pair => pair.2.kind == .source
  · intro id _
    have kept := congrArg
      (fun pairs => ((pairs.filter fun ends => ends.1 == id).filter fun ends =>
        hasNode ⟨nodes, edges⟩ ends.1 && hasNode ⟨nodes, edges⟩ ends.2).map Prod.snd) sameEdges
    simpa [successors_index, connects, List.filter_map, Function.comp_def, sameHasNode] using kept
  · intro id _
    have found := congrArg (Option.map Prod.snd) (sameFind fun pair => pair.1 == id)
    rwa [Option.map_map, Option.map_map] at found

theorem outcome_compile_of_unnoticed {graph other : Graph} (unnoticed : Unnoticed graph other) :
    (graph.compile settings).outcome = (other.compile settings).outcome := by
  cases unnoticed with
  | danglingEdge dangles => exact outcome_compile_danglingEdge settings dangles
  | unreachedEdge unreached => exact outcome_compile_unreachedEdge settings unreached
  | unreachedNode unreached => exact outcome_compile_unreachedNode settings unreached
  | takenId taken notFirst => exact outcome_compile_takenId settings taken notFirst
  | nodeOrder perm sameSource sameNode =>
      exact outcome_compile_nodeOrder settings perm sameSource sameNode
  | interleaving sameOrder => exact outcome_compile_interleaving settings sameOrder
  | layout sameNodes sameEdges => exact outcome_compile_layout settings sameNodes sameEdges

/-- Graphs that agree on the part below their first sources have the same outcome, and so do graphs
that differ by any number of changes to the rest. -/
theorem outcome_compile_congr :
    (∀ (graph other : Graph) (source otherSource : Node), graph.Alike other source otherSource →
      (graph.compile settings).outcome = (other.compile settings).outcome) ∧
    ∀ graph other : Graph, EqvGen Unnoticed graph other →
      (graph.compile settings).outcome = (other.compile settings).outcome := by
  constructor
  · intro graph other source otherSource alike
    exact outcome_compile_of_alike settings alike
  · intro graph other changes
    induction changes with
    | rel graph other unnoticed => exact outcome_compile_of_unnoticed settings unnoticed
    | refl graph => rfl
    | symm graph other _ ih => exact ih.symm
    | trans graph between other _ _ first second => exact first.trans second

/-- A source and a filter behind it. -/
def tidy : Graph where
  nodes := [⟨"s", .source { table := some "t" }, {}⟩, ⟨"f", .filter ⟨[⟨"x", .equal, .int 5⟩]⟩, {}⟩]
  edges := [⟨"1", "s", "f", none, none⟩]

/-- The same with a node that cannot be reached, a node whose id is taken, and an edge too many. -/
def cluttered : Graph where
  nodes :=
    [⟨"u", .lookup {}, {}⟩, ⟨"s", .source { table := some "t" }, {}⟩,
      ⟨"f", .filter ⟨[⟨"x", .equal, .int 5⟩]⟩, {}⟩, ⟨"f", .join {}, {}⟩]
  edges :=
    [⟨"1", "u", "f", none, none⟩, ⟨"2", "s", "f", none, none⟩, ⟨"3", "f", "ghost", none, none⟩]

theorem eq_of_reached_cluttered {id : String} (walk : ReflTransGen cluttered.Kept "s" id) :
    id = "s" ∨ id = "f" := by
  by_cases same : id = "s"
  · exact Or.inl same
  · have order : cluttered.index.preorder "s" = ["f"] := by cbv
    rw [← follows_index_eq] at walk
    have member := (GraphIndex.mem_preorder cluttered.closed_index).mpr ⟨walk, same⟩
    rw [order] at member
    exact Or.inr (List.mem_singleton.mp member)

theorem alike_cluttered_tidy :
    cluttered.Alike tidy ⟨"s", .source { table := some "t" }, {}⟩
      ⟨"s", .source { table := some "t" }, {}⟩ where
  isFirst := rfl
  isOther := rfl
  sameId := rfl
  sameStage := rfl
  sameSuccessors := by
    intro id walk
    rcases eq_of_reached_cluttered walk with rfl | rfl <;> cbv
  sameStages := by
    intro id walk _
    rcases eq_of_reached_cluttered walk with rfl | rfl <;> rfl

theorem unnoticed_cluttered :
    Unnoticed cluttered ⟨cluttered.nodes, cluttered.edges.take 2 ++ []⟩ :=
  @Unnoticed.danglingEdge cluttered.nodes (cluttered.edges.take 2) []
    ⟨"3", "f", "ghost", none, none⟩ rfl

theorem outcome_compile_tidy :
    (tidy.compile {}).outcome = .ok "SELECT * FROM \"t\" AS source WHERE x = 5" := by
  have found : tidy.sources = [⟨"s", .source { table := some "t" }, {}⟩] := rfl
  have order : tidy.compiledNodes ⟨"s", .source { table := some "t" }, {}⟩ =
      [⟨"f", .filter ⟨[⟨"x", .equal, .int 5⟩]⟩, {}⟩] := by
    cbv
  have noCycle : tidy.index.cycle? "s" = none := by cbv
  have clear : tidy.obstacle? ⟨"s", .source { table := some "t" }, {}⟩ = none := by
    rw [obstacle?, order]
    rfl
  rw [outcome_compile_of_base {} found rfl, noCycle, clear, finalDraft, order]
  rfl

theorem outcome_compile_cluttered :
    (cluttered.compile {}).outcome = (tidy.compile {}).outcome ∧
      (cluttered.compile {}).outcome =
        (compile {} ⟨cluttered.nodes, cluttered.edges.take 2 ++ []⟩).outcome ∧
      (tidy.compile {}).outcome = .ok "SELECT * FROM \"t\" AS source WHERE x = 5" :=
  ⟨(outcome_compile_congr {}).1 _ _ _ _ alike_cluttered_tidy,
    (outcome_compile_congr {}).2 _ _ (.rel _ _ unnoticed_cluttered), outcome_compile_tidy⟩

/-- Two filters with one id behind a source, in a given order. -/
def twins (first second : String) : Graph where
  nodes :=
    [⟨"s", .source { table := some "t" }, {}⟩, ⟨"f", .filter ⟨[⟨first, .isNull, .null⟩]⟩, {}⟩,
      ⟨"f", .filter ⟨[⟨second, .isNull, .null⟩]⟩, {}⟩]
  edges := [⟨"1", "s", "f", none, none⟩]

theorem cycle?_twins (first second : String) : (twins first second).index.cycle? "s" = none := by
  cbv

theorem compiledNodes_twins (first second : String) :
    (twins first second).compiledNodes ⟨"s", .source { table := some "t" }, {}⟩ =
      [⟨"f", .filter ⟨[⟨first, .isNull, .null⟩]⟩, {}⟩] := by
  cbv

theorem outcome_compile_of_twins (first second : String) :
    ((twins first second).compile {}).outcome =
      .ok ("SELECT * FROM \"t\" AS source WHERE " ++ first ++ " IS NULL") := by
  have found : (twins first second).sources = [⟨"s", .source { table := some "t" }, {}⟩] := rfl
  have clear : (twins first second).obstacle? ⟨"s", .source { table := some "t" }, {}⟩ = none := by
    rw [obstacle?, compiledNodes_twins]
    rfl
  rw [outcome_compile_of_base {} found rfl, cycle?_twins, clear, finalDraft, compiledNodes_twins]
  apply congrArg Except.ok
  apply String.toList_inj.mp
  simp [Draft.sql_extend, Draft.select, Draft.columnsOf, Draft.clauseOf, Draft.sql_selectAll,
    Draft.filterClause, Condition.toSql, Operator.testsNull, Operator.symbol, quoteIdentifier]

/-- The order of nodes matters when two of them share an id that can be reached. -/
theorem outcome_compile_twins :
    (twins "x" "y").nodes.Perm (twins "y" "x").nodes ∧
      (twins "x" "y").edges = (twins "y" "x").edges ∧
      (twins "x" "y").firstSource? = (twins "y" "x").firstSource? ∧
      ((twins "x" "y").compile {}).outcome ≠ ((twins "y" "x").compile {}).outcome := by
  refine ⟨.cons _ (.swap _ _ _), rfl, rfl, ?_⟩
  rw [outcome_compile_of_twins, outcome_compile_of_twins]
  decide

end Graph

end SqlPipeline
