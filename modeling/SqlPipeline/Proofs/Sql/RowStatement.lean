import SqlPipeline.Proofs.Graph.Chain
import SqlPipeline.Proofs.Sql.SelectList
import SqlPipeline.Proofs.Sql.RecoveredShape

/-!
# The statement of a row of stages

Compilation visits the nodes of a chain in their order (`outcome_compile_of_isChain`). When these are
a source, possibly a filter, possibly an aggregate and targets, the statement has one select list,
one filter clause and one grouping at most, and `rowSql` writes it down. Recovered graphs are such
rows (`outcome_compile_row`).
-/

namespace SqlPipeline

namespace Draft

/-- The select list of a row: the star stands in for an empty one. -/
def selection (grouped : Option Aggregate) : String :=
  match (grouped.map selectList).getD [] with
  | [] => "*"
  | columns => ", ".intercalate columns

/-- The clauses of a row. -/
def clauses (conditions : List Condition) (grouped : Option Aggregate) : String :=
  (if conditions.isEmpty then "" else filterClause conditions) ++
    (grouped.map groupingClause).getD ""

/-- The statement of a row over a relation. -/
def rowSql (base sourceAlias : String) (conditions : List Condition) (grouped : Option Aggregate) :
    String :=
  "SELECT " ++ selection grouped ++ " FROM " ++ base ++ " AS " ++ sourceAlias ++
    clauses conditions grouped

theorem select_star (grouped : Option Aggregate) (rest : String) :
    select ((grouped.map selectList).getD []) ("SELECT *" ++ rest) =
      "SELECT " ++ selection grouped ++ rest := by
  rw [selection]
  rcases (grouped.map selectList).getD [] with _ | ⟨first, others⟩
  · rw [select, List.isEmpty_nil, if_pos rfl]
    rfl
  · rw [select, List.isEmpty_cons, if_neg Bool.false_ne_true]
    exact replaceStar_of_star _ _

variable {base sourceAlias : String}

theorem textOf_append_target (nodes : List Node) {node : Node} (isTarget : node.kind = .target) :
    textOf base sourceAlias (nodes ++ [node]) = textOf base sourceAlias nodes := by
  rcases node with ⟨id, stage, position⟩
  rw [textOf_concat]
  cases stage with
  | target payload => simp [columnsOf, clauseOf, select]
  | misfit kind held apart => simp [columnsOf, clauseOf, select]
  | _ => cases isTarget

/-- Targets add nothing. -/
theorem textOf_append_targets {nodes targets : List Node}
    (isTarget : ∀ node ∈ targets, node.kind = .target) :
    textOf base sourceAlias (nodes ++ targets) = textOf base sourceAlias nodes := by
  induction targets generalizing nodes with
  | nil => rw [List.append_nil]
  | cons node targets ih =>
      rw [List.append_cons, ih fun other member => isTarget other (List.mem_cons_of_mem _ member),
        textOf_append_target nodes (isTarget node List.mem_cons_self)]

/-- The nodes of a row behind its source: a filter, which may be missing when there are no
conditions, an aggregate if there is one, and targets. -/
inductive RowNodes (conditions : List Condition) (grouped : Option Aggregate) : List Node → Prop where
  | mk {filters groups targets : List Node}
      (isFilter : filters.map Node.stage = [.filter ⟨conditions⟩] ∨ filters = [] ∧ conditions = [])
      (isGroup : groups.map Node.stage = (grouped.map Stage.aggregate).toList)
      (isTarget : ∀ node ∈ targets, node.kind = .target) :
      RowNodes conditions grouped (filters ++ groups ++ targets)

/-- Only the conditions of a row can be in the way of its statement. -/
theorem obstacle?_rowNodes {conditions : List Condition} {grouped : Option Aggregate}
    {nodes : List Node} (isRow : RowNodes conditions grouped nodes) :
    nodes.findSome? obstacle? =
      if conditions.all Condition.isWritable then none else some .numberTooLong := by
  rcases isRow with @⟨filters, groups, targets, isFilter, isGroup, isTarget⟩
  have inFilters : filters.findSome? obstacle? =
      if conditions.all Condition.isWritable then none else some .numberTooLong := by
    rcases isFilter with single | ⟨rfl, rfl⟩
    · rcases List.map_eq_singleton_iff.mp single with ⟨⟨id, stage, position⟩, rfl, isFilter⟩
      obtain rfl : stage = .filter ⟨conditions⟩ := isFilter
      rw [List.findSome?_singleton]
      rfl
    · rfl
  have inGroups : groups.findSome? obstacle? = none := by
    rw [List.findSome?_eq_none_iff]
    intro node member
    have stage := List.mem_map_of_mem (f := Node.stage) member
    rw [isGroup, Option.mem_toList, Option.map_eq_some_iff] at stage
    rcases stage with ⟨aggregate, -, same⟩
    rw [obstacle?, ← same]
  have inTargets : targets.findSome? obstacle? = none := by
    rw [List.findSome?_eq_none_iff]
    rintro ⟨id, stage, position⟩ member
    have kind := isTarget _ member
    cases stage with
    | target payload => rfl
    | misfit =>
        cases kind
        rfl
    | _ => cases kind
  rw [List.findSome?_append, List.findSome?_append, inFilters, inGroups, inTargets, Option.or_none,
    Option.or_none]

theorem textOf_filters {conditions : List Condition} {filters : List Node}
    (isFilter : filters.map Node.stage = [.filter ⟨conditions⟩] ∨ filters = [] ∧ conditions = []) :
    textOf base sourceAlias filters = "SELECT *" ++ (" FROM " ++ base ++ " AS " ++ sourceAlias ++
      if conditions.isEmpty then "" else filterClause conditions) := by
  rcases isFilter with single | ⟨rfl, rfl⟩
  · rcases List.map_eq_singleton_iff.mp single with ⟨⟨id, stage, position⟩, rfl, isFilter⟩
    obtain rfl : stage = .filter ⟨conditions⟩ := isFilter
    rw [← List.nil_append [_], textOf_concat]
    simp [textOf, columnsOf, clauseOf, select, ← String.append_assoc]
  · simp [textOf, ← String.append_assoc]

theorem textOf_rowNodes {conditions : List Condition} {grouped : Option Aggregate}
    {nodes : List Node} (isRow : RowNodes conditions grouped nodes) :
    textOf base sourceAlias nodes = rowSql base sourceAlias conditions grouped := by
  rcases isRow with @⟨filters, groups, targets, isFilter, isGroup, isTarget⟩
  rw [textOf_append_targets isTarget, rowSql, clauses]
  cases grouped with
  | none =>
      obtain rfl : groups = [] := by simpa using isGroup
      rw [List.append_nil, textOf_filters isFilter]
      simp [selection, ← String.append_assoc]
  | some aggregate =>
      rcases List.map_eq_singleton_iff.mp isGroup with ⟨⟨id, stage, position⟩, rfl, isAggregate⟩
      obtain rfl : stage = .aggregate aggregate := isAggregate
      have selected := select_star (some aggregate) (" FROM " ++ base ++ " AS " ++ sourceAlias ++
        if conditions.isEmpty then "" else filterClause conditions)
      rw [Option.map_some, Option.getD_some] at selected
      rw [textOf_concat, textOf_filters isFilter]
      simp only [columnsOf, clauseOf]
      rw [selected]
      simp only [Option.map_some, Option.getD_some, String.append_assoc]

end Draft

namespace Graph

/-- Compilation of a chain visits its nodes in order, as long as nothing is in the way. -/
theorem outcome_compile_of_isChain {graph : Graph} {first : Node} {rest : List Node} {base : String}
    (settings : Settings) (chain : graph.IsChain (first :: rest))
    (noOther : ∀ node ∈ rest, node.kind ≠ .source) (isSource : first.kind = .source)
    (isBase : Draft.baseOf first = .ok base) :
    (graph.compile settings).outcome = match rest.findSome? Draft.obstacle? with
      | some error => .error error
      | none => .ok (Draft.textOf base settings.sourceAlias rest) := by
  have noCycle : graph.index.cycle? first.id = none :=
    (GraphIndex.cycle?_eq_none_iff graph.closed_index first.id).mpr
      (by rw [cycleBelow_index]; exact not_cycleBelow_of_isChain chain _)
  rw [outcome_compile_of_base settings (sources_of_isChain chain isSource noOther) isBase, noCycle,
    obstacle?, finalDraft, compiledNodes_of_isChain chain]
  rfl

theorem kind_ne_source_of_rowNodes {conditions : List Condition} {grouped : Option Aggregate}
    {nodes : List Node} (isRow : Draft.RowNodes conditions grouped nodes) :
    ∀ node ∈ nodes, node.kind ≠ .source := by
  rcases isRow with @⟨filters, groups, targets, isFilter, isGroup, isTarget⟩
  intro node member
  rcases List.mem_append.mp member with front | inTargets
  · rcases List.mem_append.mp front with inFilters | inGroups
    · rcases isFilter with single | ⟨rfl, -⟩
      · have stage := List.mem_map_of_mem (f := Node.stage) inFilters
        rw [single] at stage
        rw [Node.kind, List.mem_singleton.mp stage]
        exact StageKind.noConfusion
      · cases inFilters
    · have stage := List.mem_map_of_mem (f := Node.stage) inGroups
      rw [isGroup, Option.mem_toList, Option.map_eq_some_iff] at stage
      rcases stage with ⟨aggregate, -, same⟩
      rw [Node.kind, ← same]
      exact StageKind.noConfusion
  · rw [isTarget node inTargets]
    exact StageKind.noConfusion

/-- The statement of a row of stages, as long as its conditions can be written. -/
theorem outcome_compile_of_rowNodes {graph : Graph} {first : Node} {rest : List Node} {base : String}
    {conditions : List Condition} {grouped : Option Aggregate} (settings : Settings)
    (chain : graph.IsChain (first :: rest)) (isSource : first.kind = .source)
    (isRow : Draft.RowNodes conditions grouped rest) (isBase : Draft.baseOf first = .ok base) :
    (graph.compile settings).outcome =
      if conditions.all Condition.isWritable then
        .ok (Draft.rowSql base settings.sourceAlias conditions grouped)
      else .error .numberTooLong := by
  rw [outcome_compile_of_isChain settings chain (kind_ne_source_of_rowNodes isRow) isSource isBase,
    Draft.textOf_rowNodes isRow, Draft.obstacle?_rowNodes isRow]
  cases conditions.all Condition.isWritable <;> rfl

theorem rowNodes_of_stages {settings : Settings} {conditions : List Condition}
    {grouped : Option Aggregate} {nodes : List Node}
    (stages : nodes.map Node.stage = Recovery.behindSource settings conditions grouped) :
    Draft.RowNodes conditions grouped nodes := by
  rcases List.map_eq_append_iff.mp stages with ⟨front, targets, rfl, isFront, isTarget⟩
  rcases List.map_eq_append_iff.mp isFront with ⟨filters, groups, rfl, isFilter, isGroup⟩
  rcases List.map_eq_singleton_iff.mp isTarget with ⟨target, rfl, targetStage⟩
  refine .mk ?_ isGroup ?_
  · cases conditions with
    | nil => exact Or.inr ⟨List.map_eq_nil_iff.mp isFilter, rfl⟩
    | cons condition others => exact Or.inl isFilter
  · intro node member
    rw [List.mem_singleton.mp member, Node.kind, targetStage]
    rfl

/-- The statement of a recovered graph. -/
theorem outcome_compile_row (settings : Settings) {payload : Source} {base : String}
    {conditions : List Condition} (grouped : Option Aggregate)
    (writable : ∀ condition ∈ conditions, condition.isWritable = true)
    (isBase : Draft.baseRelation "source-0" payload = .ok base) :
    ((chain settings (Recovery.row settings payload conditions grouped)).compile settings).outcome =
      .ok (Draft.rowSql base settings.sourceAlias conditions grouped) := by
  have isRow := rowNodes_of_stages
    (map_stage_chainNodes settings 1 (Recovery.behindSource settings conditions grouped))
  have isFirst : Draft.baseOf (sourceNode settings payload) = .ok base := isBase
  exact (outcome_compile_of_rowNodes settings (isChain_chain settings _) rfl isRow isFirst).trans
    (if_pos (List.all_eq_true.mpr writable))

end Graph

end SqlPipeline
