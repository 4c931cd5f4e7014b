import SqlPipeline.Proofs.Sql.Compilation
import SqlPipeline.Proofs.Sql.Number
import SqlPipeline.Proofs.Sql.RecoveredChain
import SqlPipeline.Proofs.Text.Pattern

/-!
# The shape of a recovered graph

Recovery returns the empty graph for a text that mentions no table, and otherwise a row of stages: a
source, a filter if there are conditions, an aggregate if there is something to aggregate, and a
target (`exists_of_recover`). Whatever the text, the nodes are numbered in order, edges lead from
each node to the next and nowhere else, and so all searches over the graph run through the row
(`recover_shape`).
-/

namespace SqlPipeline

open Text

/-- Whether a text mentions a table: the word `FROM`, not as the end of a longer word, blanks, and a
character that can belong to a reference. -/
def MentionsTable (sql : List Char) : Prop :=
  ∃ before word blanks c after,
    sql = before ++ word ++ blanks ++ c :: after ∧ insideAfter false before = false ∧
      Spells "FROM".toList word ∧ Piece.blanks.Matches blanks ∧ Clause.inReference c = true

theorem exists_reference?_iff {text : List Char} :
    (∃ reference, Clause.reference? text = some reference) ↔ ∃ blanks c after,
      text = blanks ++ c :: after ∧ Piece.blanks.Matches blanks ∧ Clause.inReference c = true := by
  constructor
  · rintro ⟨reference, found⟩
    unfold Clause.reference? at found
    split at found
    · next rest skipped =>
      rcases exists_of_skipBlanks? skipped with ⟨blanks, rfl, isRun⟩
      rcases rest with _ | ⟨c, after⟩
      · cases found
      · refine ⟨blanks, c, after, rfl, isRun, ?_⟩
        by_contra outside
        rw [List.takeWhile_cons_of_neg outside] at found
        cases found
    · cases found
  · rintro ⟨blanks, c, after, rfl, isRun, inside⟩
    have solid : isBlank c = false := by
      rw [Clause.inReference] at inside
      simp only [Bool.and_eq_true, Bool.not_eq_true'] at inside
      exact inside.1.1.1
    refine ⟨c :: after.takeWhile Clause.inReference, ?_⟩
    rw [Clause.reference?, skipBlanks?_append isRun solid]
    simp only [List.takeWhile_cons_of_pos inside]

/-- A reference to a table is found in the texts that mention a table. -/
theorem exists_table?_iff {sql : List Char} :
    (∃ reference, Clause.table? sql = some reference) ↔ MentionsTable sql := by
  have known : (∃ reference, Clause.table? sql = some reference) ↔
      ∃ after ∈ afterKeyword "FROM".toList false sql,
        ∃ reference, Clause.reference? after = some reference := by
    simp only [← Option.isSome_iff_exists, Clause.table?, List.findSome?_isSome_iff]
  rw [known]
  constructor
  · rintro ⟨behind, member, found⟩
    rcases (mem_afterKeyword_iff (by decide)).mp member with ⟨before, word, rfl, outside, spells⟩
    rcases exists_reference?_iff.mp found with ⟨blanks, c, after, rfl, isRun, inside⟩
    exact ⟨before, word, blanks, c, after, by simp, outside, spells, isRun, inside⟩
  · rintro ⟨before, word, blanks, c, after, rfl, outside, spells, isRun, inside⟩
    refine ⟨blanks ++ c :: after, ?_, ?_⟩
    · rw [mem_afterKeyword_iff (by decide)]
      exact ⟨before, word, by simp, outside, spells⟩
    · exact exists_reference?_iff.mpr ⟨blanks, c, after, rfl, isRun, inside⟩

/-- A whole number that is read on the right of an operator is short enough to be written. -/
theorem length_of_ofText {op : Option Operator} {text : List Char} {number : Int}
    (read : Literal.ofText op text = .ok (.int number)) :
    (Nat.toDigits 10 number.natAbs).length ≤ maxWholeDigits := by
  unfold Literal.ofText at read
  split at read
  · cases read
  · split at read
    · cases read
    · next isNumber =>
      cases read
      exact length_of_ofNumber isNumber
    · dsimp only at read
      split at read
      · cases read
      · split at read
        · cases read
        · unfold readByOperator at read
          split at read
          · split at read
            · cases read
            · split at read <;> cases read
          · cases read

theorem short_of_readFragment {fragment : List Char} {condition : Condition}
    (read : readFragment fragment = .ok (some condition)) : condition.Short := by
  unfold readFragment at read
  split at read
  · cases read
  · next op place _ =>
    dsimp only at read
    rcases isValue : Literal.ofText (some op)
      (trim (fragment.drop (place + op.symbol.length))) with error | value
    · rw [isValue] at read
      cases read
    · rw [isValue] at read
      cases read
      rintro number rfl
      exact length_of_ofText isValue

theorem short_of_readFragments {fragments : List (List Char)} {conditions : List Condition}
    (read : (readFragments fragments).outcome = .ok conditions) :
    ∀ condition ∈ conditions, condition.Short := by
  induction fragments generalizing conditions with
  | nil =>
      cases read
      simp
  | cons fragment rest ih =>
      rcases Traced.outcome_bind_eq_ok_iff.mp read with ⟨condition?, isFragment, read⟩
      cases condition? with
      | none =>
          rcases Traced.outcome_bind_eq_ok_iff.mp read with ⟨_, -, read⟩
          exact ih read
      | some condition =>
          rcases Traced.outcome_bind_eq_ok_iff.mp read with ⟨others, isRest, read⟩
          cases read
          exact List.forall_mem_cons.mpr ⟨short_of_readFragment isFragment, ih isRest⟩

namespace Recovery

/-- The stages behind the source of a recovered graph: a filter without conditions is left out. -/
def behindSource (settings : Settings) (conditions : List Condition) (grouped : Option Aggregate) :
    List Stage :=
  (if conditions.isEmpty then [] else [.filter ⟨conditions⟩]) ++
    (grouped.map Stage.aggregate).toList ++
    [.target { loadStrategy := some settings.targetLoadStrategy }]

/-- The stages of a recovered graph. -/
def row (settings : Settings) (payload : Source) (conditions : List Condition)
    (grouped : Option Aggregate) : List Stage :=
  .source payload :: behindSource settings conditions grouped

variable {settings : Settings}

theorem exists_of_filter {sql : List Char} {stages : List Stage}
    (recovered : (filter sql).outcome = .ok stages) :
    ∃ conditions : List Condition,
      stages = if conditions.isEmpty then [] else [.filter ⟨conditions⟩] := by
  unfold filter at recovered
  split at recovered
  · cases recovered
    exact ⟨[], rfl⟩
  · rcases Traced.outcome_bind_eq_ok_iff.mp recovered with ⟨conditions, -, found⟩
    refine ⟨conditions, ?_⟩
    unfold filterOf at found
    split at found
    · next none =>
      cases found
      rw [if_pos none]
    · next some =>
      cases found
      rw [if_neg some]

/-- The conditions of a recovered filter can be written. -/
theorem isWritable_of_filter {sql : List Char} {conditions : List Condition}
    (recovered : (filter sql).outcome =
      .ok (if conditions.isEmpty then [] else [.filter ⟨conditions⟩])) :
    ∀ condition ∈ conditions, condition.isWritable = true := by
  intro condition member
  have nonempty : conditions.isEmpty = false := List.isEmpty_eq_false_iff_exists_mem.mpr ⟨_, member⟩
  rw [nonempty, if_neg Bool.false_ne_true] at recovered
  unfold filter at recovered
  split at recovered
  · cases recovered
  · rcases Traced.outcome_bind_eq_ok_iff.mp recovered with ⟨found, isFound, stages⟩
    unfold filterOf at stages
    split at stages
    · cases stages
    · cases stages
      exact Condition.isWritable_iff.mpr (.inr (short_of_readFragments isFound condition member))

theorem exists_of_aggregate {sql : List Char} {stages : List Stage}
    (recovered : (aggregate sql).outcome = .ok stages) :
    ∃ grouped : Option Aggregate, stages = (grouped.map Stage.aggregate).toList := by
  unfold aggregate at recovered
  dsimp only at recovered
  split at recovered
  · rcases Traced.outcome_bind_eq_ok_iff.mp recovered with ⟨aggregations, -, found⟩
    cases found
    exact ⟨some _, rfl⟩
  · cases recovered
    exact ⟨none, rfl⟩

/-- The stages that are found, and how those between the source and the target were. -/
theorem exists_parts_of_stages {sql : String} {reference : List Char} {found : List Stage}
    (recovered : (stages settings sql reference).outcome = .ok found) :
    ∃ conditions grouped,
      (filter sql.toList).outcome =
          .ok (if conditions.isEmpty then [] else [.filter ⟨conditions⟩]) ∧
        (aggregate sql.toList).outcome = .ok (grouped.map Stage.aggregate).toList ∧
        found = row settings (source sql (tableName reference)) conditions grouped := by
  unfold stages at recovered
  rcases Traced.outcome_bind_eq_ok_iff.mp recovered with ⟨_, -, recovered⟩
  rcases Traced.outcome_bind_eq_ok_iff.mp recovered with ⟨filterStage, isFilter, recovered⟩
  rcases Traced.outcome_bind_eq_ok_iff.mp recovered with ⟨aggregateStage, isAggregate, recovered⟩
  cases recovered
  rcases exists_of_filter isFilter with ⟨conditions, rfl⟩
  rcases exists_of_aggregate isAggregate with ⟨grouped, rfl⟩
  exact ⟨conditions, grouped, isFilter, isAggregate, rfl⟩

end Recovery

variable {settings : Settings} {sql : String} {graph : Graph}

theorem eq_empty_of_recover (recovered : (recover settings sql).outcome = .ok graph)
    (noTable : Clause.table? sql.toList = none) : graph = {} := by
  rw [recover, noTable] at recovered
  cases recovered
  rfl

/-- What is recovered from a text that mentions a table, and the parts that make it up. -/
theorem exists_parts_of_recover (recovered : (recover settings sql).outcome = .ok graph)
    {reference : List Char} (table : Clause.table? sql.toList = some reference) :
    ∃ conditions grouped,
      (Recovery.filter sql.toList).outcome =
          .ok (if conditions.isEmpty then [] else [.filter ⟨conditions⟩]) ∧
        (Recovery.aggregate sql.toList).outcome = .ok (grouped.map Stage.aggregate).toList ∧
        graph = .chain settings (Recovery.row settings
          (Recovery.source sql (Recovery.tableName reference)) conditions grouped) := by
  rw [recover, table] at recovered
  rcases Traced.outcome_bind_eq_ok_iff.mp recovered with ⟨stages, isRow, recovered⟩
  cases recovered
  rcases Recovery.exists_parts_of_stages isRow with
    ⟨conditions, grouped, isFilter, isAggregate, rfl⟩
  exact ⟨conditions, grouped, isFilter, isAggregate, rfl⟩

/-- What is recovered from a text that mentions a table. -/
theorem exists_of_recover (recovered : (recover settings sql).outcome = .ok graph)
    {reference : List Char} (table : Clause.table? sql.toList = some reference) :
    ∃ conditions grouped, graph = .chain settings (Recovery.row settings
      (Recovery.source sql (Recovery.tableName reference)) conditions grouped) := by
  rcases exists_parts_of_recover recovered table with ⟨conditions, grouped, -, -, isRow⟩
  exact ⟨conditions, grouped, isRow⟩

/-- The parts of a recovered graph make up the graph. -/
theorem outcome_recover_row {reference : List Char} {conditions : List Condition}
    {grouped : Option Aggregate} (table : Clause.table? sql.toList = some reference)
    (isFilter : (Recovery.filter sql.toList).outcome =
      .ok (if conditions.isEmpty then [] else [.filter ⟨conditions⟩]))
    (isAggregate : (Recovery.aggregate sql.toList).outcome =
      .ok (grouped.map Stage.aggregate).toList) :
    (recover settings sql).outcome = .ok (.chain settings (Recovery.row settings
      (Recovery.source sql (Recovery.tableName reference)) conditions grouped)) := by
  rw [recover, table]
  apply Traced.outcome_bind_of_ok _
  rw [Recovery.stages, Traced.outcome_bind_of_ok _ (Traced.outcome_tell _ _ _),
    Traced.outcome_bind_of_ok _ isFilter, Traced.outcome_bind_of_ok _ isAggregate]
  rfl

/-- A statement without filter, grouping and calls becomes a source and a target. -/
theorem outcome_recover_bare {reference selection : List Char}
    (table : Clause.table? sql.toList = some reference)
    (noFilter : Clause.filter? sql.toList = none) (noGrouping : Clause.grouping? sql.toList = none)
    (selectList : Clause.selectList? sql.toList = some selection)
    (noCall : Aggregates.occurIn selection = false) :
    (recover settings sql).outcome = .ok (.chain settings (Recovery.row settings
      (Recovery.source sql (Recovery.tableName reference)) [] none)) := by
  apply outcome_recover_row table
  · rw [Recovery.filter, noFilter]
    rfl
  · rw [Recovery.aggregate, noGrouping, selectList, Option.getD_some, noCall]
    rfl

namespace Graph

/-- A source and a target, and between them possibly a filter, possibly an aggregate. -/
def rowKinds : List (List StageKind) :=
  [[.source, .target], [.source, .filter, .target], [.source, .aggregate, .target],
    [.source, .filter, .aggregate, .target]]

/-- A graph that is a row of stages, numbered and placed as the settings say. -/
structure IsRow (settings : Settings) (graph : Graph) : Prop where
  kinds : graph.nodes.map Node.kind ∈ rowKinds
  node : ∀ (place : Nat) (node : Node), graph.nodes[place]? = some node →
    node.id = node.kind.label ++ "-" ++ toString place ∧
      node.position = settings.positionFor node.kind
  edgeCount : graph.edges.length + 1 = graph.nodes.length
  edge : ∀ (place : Nat) (edge : Edge), graph.edges[place]? = some edge → ∃ node next,
    graph.nodes[place]? = some node ∧ graph.nodes[place + 1]? = some next ∧
      edge = { id := "edge-" ++ toString place, source := node.id, target := next.id }
  conditions : ∀ node ∈ graph.nodes, ∀ payload, node.stage = .filter payload →
    payload.conditions ≠ []
  loadStrategy : ∀ node ∈ graph.nodes, ∀ payload, node.stage = .target payload →
    payload.loadStrategy = some settings.targetLoadStrategy

/-- All searches over a graph run through its nodes in the order in which they are listed. -/
structure RunsInOrder (graph : Graph) (first : Node) (rest : List Node) : Prop where
  listed : graph.nodes = first :: rest
  distinct : (graph.nodes.map Node.id).Nodup
  noCycle : graph.index.checkCycles first.id = .ok ()
  reached : ∃ ids, graph.index.reachableFrom first.id = .ok ids ∧
    ∀ id, id ∈ ids ↔ id ∈ rest.map Node.id
  isSource : graph.findSource.outcome = .ok first
  visited : graph.compiledNodes first = rest

theorem checkCycles_of_isChain {nodes : List Node} (chain : graph.IsChain nodes) (start : String) :
    graph.index.checkCycles start = .ok () := by
  have noCycle : graph.index.cycle? start = none := by
    rw [GraphIndex.cycle?_eq_none_iff graph.closed_index, cycleBelow_index]
    exact not_cycleBelow_of_isChain chain start
  rw [GraphIndex.checkCycles, noCycle]

theorem compiledNodes_of_isChain {first : Node} {rest : List Node}
    (chain : graph.IsChain (first :: rest)) : graph.compiledNodes first = rest := by
  rw [compiledNodes, preorder_of_isChain chain,
    show graph.index.node? = graph.node? from funext graph.node?_index,
    filterMap_node?_of_isChain chain]

/-- A chain that lists its nodes in its order and has no source but the first runs in order. -/
theorem runsInOrder_of_isChain {first : Node} {rest : List Node}
    (listed : graph.nodes = first :: rest) (chain : graph.IsChain (first :: rest))
    (isSource : first.kind = .source)
    (noOther : ∀ node ∈ rest, node.kind ≠ .source) : graph.RunsInOrder first rest where
  listed := listed
  distinct := by
    rw [listed]
    exact chain.distinct
  noCycle := checkCycles_of_isChain chain first.id
  reached := by
    have known : graph.node? first.id = some first := node?_of_isChain chain List.mem_cons_self
    refine ⟨graph.index.reachable first.id, ?_, fun id => mem_reachable_of_isChain chain⟩
    rw [GraphIndex.reachableFrom, node?_index, known]
    rfl
  isSource := outcome_findSource (sources_of_isChain chain isSource noOther)
  visited := compiledNodes_of_isChain chain

theorem stage_mem_of_mem_chainNodes {first : Nat} {stages : List Stage} {node : Node}
    (member : node ∈ chainNodes settings first stages) : node.stage ∈ stages := by
  rw [← map_stage_chainNodes settings first stages]
  exact List.mem_map_of_mem member

section Row

variable {payload : Source} {conditions : List Condition} {grouped : Option Aggregate}

theorem kinds_row :
    (Recovery.row settings payload conditions grouped).map Stage.kind ∈ rowKinds := by
  rcases conditions with _ | ⟨first, rest⟩ <;> rcases grouped with _ | grouped <;>
    simp [Recovery.row, Recovery.behindSource, Stage.kind, rowKinds]

/-- What may stand behind the source of a row. -/
theorem cases_of_mem_behindSource {stage : Stage}
    (member : stage ∈ Recovery.behindSource settings conditions grouped) :
    (conditions ≠ [] ∧ stage = .filter ⟨conditions⟩) ∨
      (∃ aggregate, stage = .aggregate aggregate) ∨
      stage = .target { loadStrategy := some settings.targetLoadStrategy } := by
  rcases List.mem_append.mp member with front | isTarget
  · rcases List.mem_append.mp front with isFilter | isAggregate
    · split at isFilter
      · cases isFilter
      · next some => exact Or.inl ⟨by simpa using some, List.mem_singleton.mp isFilter⟩
    · rcases Option.map_eq_some_iff.mp (Option.mem_toList.mp isAggregate) with ⟨aggregate, -, same⟩
      exact Or.inr (Or.inl ⟨aggregate, same.symm⟩)
  · exact Or.inr (Or.inr (List.mem_singleton.mp isTarget))

theorem cases_of_mem_chain {node : Node}
    (member : node ∈ chainNodes settings 0 (Recovery.row settings payload conditions grouped)) :
    node.stage = .source payload ∨ (conditions ≠ [] ∧ node.stage = .filter ⟨conditions⟩) ∨
      (∃ aggregate, node.stage = .aggregate aggregate) ∨
      node.stage = .target { loadStrategy := some settings.targetLoadStrategy } :=
  (List.mem_cons.mp (stage_mem_of_mem_chainNodes member)).imp_right cases_of_mem_behindSource

theorem isRow_chain :
    IsRow settings (chain settings (Recovery.row settings payload conditions grouped)) where
  kinds := by
    have kinds : ((chainNodes settings 0 (Recovery.row settings payload conditions grouped)).map
        Node.stage).map Stage.kind ∈ rowKinds := by
      rw [map_stage_chainNodes]
      exact kinds_row
    rwa [List.map_map] at kinds
  node := by
    intro place node found
    have known := getElem?_chainNodes settings 0
      (Recovery.row settings payload conditions grouped) place
    rw [chain] at found
    rw [found] at known
    rcases Option.map_eq_some_iff.mp known.symm with ⟨stage, -, rfl⟩
    rw [Nat.zero_add]
    exact ⟨rfl, rfl⟩
  edgeCount := by
    rw [chain]
    exact congrArg (· + 1) (length_chainEdges 0 _ _)
  edge := by
    intro place edge found
    rw [chain, getElem?_chainEdges] at found
    rcases Option.bind_eq_some_iff.mp found with ⟨node, isNode, found⟩
    rcases Option.map_eq_some_iff.mp found with ⟨next, isNext, rfl⟩
    exact ⟨node, next, isNode, isNext, by rw [Nat.zero_add]⟩
  conditions := by
    intro node member filter isFilter
    have cases := cases_of_mem_chain member
    rw [isFilter] at cases
    rcases cases with same | ⟨some, same⟩ | ⟨aggregate, same⟩ | same
    · cases same
    · cases same
      exact some
    · cases same
    · cases same
  loadStrategy := by
    intro node member target isTarget
    have cases := cases_of_mem_chain member
    rw [isTarget] at cases
    rcases cases with same | ⟨some, same⟩ | ⟨aggregate, same⟩ | same
    · cases same
    · cases same
    · cases same
    · cases same
      rfl

/-- The first node of a row. -/
def sourceNode (settings : Settings) (payload : Source) : Node :=
  ⟨"source-0", .source payload, settings.positionFor .source⟩

/-- The filter of a row. -/
def filterNode (settings : Settings) (conditions : List Condition) : Node :=
  ⟨"filter-1", .filter ⟨conditions⟩, settings.positionFor .filter⟩

theorem filters_row :
    (chain settings (Recovery.row settings payload conditions grouped)).nodes.filter
        (fun node => node.kind == .filter) =
      if conditions.isEmpty then [] else [filterNode settings conditions] := by
  rcases conditions with _ | ⟨first, rest⟩ <;> rcases grouped with _ | grouped <;> rfl

/-- A row has one filter, or none when there are no conditions. -/
theorem mem_filters_row_iff {node : Node} :
    node ∈ (chain settings (Recovery.row settings payload conditions grouped)).nodes ∧
        node.kind = .filter ↔ conditions ≠ [] ∧ node = filterNode settings conditions := by
  have known : node ∈ (chain settings
      (Recovery.row settings payload conditions grouped)).nodes.filter
        (fun node => node.kind == .filter) ↔
      node ∈ if conditions.isEmpty then [] else [filterNode settings conditions] := by
    rw [filters_row]
  cases conditions with
  | nil => simpa using known
  | cons first rest => simpa using known

theorem runsInOrder_chain :
    (chain settings (Recovery.row settings payload conditions grouped)).RunsInOrder
      (sourceNode settings payload)
      (chainNodes settings 1 (Recovery.behindSource settings conditions grouped)) := by
  refine runsInOrder_of_isChain rfl (isChain_chain settings _) rfl ?_
  intro node member
  rw [Node.kind]
  rcases cases_of_mem_behindSource (stage_mem_of_mem_chainNodes member) with
    ⟨-, same⟩ | ⟨aggregate, same⟩ | same <;>
    simp [same, Stage.kind]

end Row

end Graph

/-- The shape of a recovered graph. -/
theorem recover_shape (recovered : (recover settings sql).outcome = .ok graph) :
    (graph.isEmpty = true ↔ ¬MentionsTable sql.toList) ∧
      (MentionsTable sql.toList → graph.IsRow settings ∧
        ∃ first rest, graph.RunsInOrder first rest) := by
  rw [← exists_table?_iff]
  rcases table : Clause.table? sql.toList with _ | reference
  · obtain rfl := eq_empty_of_recover recovered table
    simp [Graph.isEmpty]
  · rcases exists_of_recover recovered table with ⟨conditions, grouped, rfl⟩
    constructor
    · simp [Graph.isEmpty, Graph.chain, Recovery.row, Graph.chainNodes]
    · intro _
      exact ⟨Graph.isRow_chain, _, _, Graph.runsInOrder_chain⟩

/-- Settings under which recovered stages stand below one another and rows are appended. -/
def pile : Settings where
  sourceAlias := "src"
  targetLoadStrategy := .append
  stagePositions := .overDefaults [(.filter, .ofFloats 100 500), (.target, .ofFloats 100 1100)]

/-- A statement with a filter and a grouping. -/
def ordersByRegion : String :=
  "SELECT region, COUNT(id) AS orders FROM shop.items WHERE total > 5 GROUP BY region"

/-- The stages of the statement. -/
def ordersStages : List Stage :=
  Recovery.row pile
    { table := some "items", schema := some "shop", query := some ordersByRegion }
    [⟨"total", .greater, .int 5⟩] (some ⟨some ["region"], [⟨"id", .count, some "orders"⟩]⟩)

theorem outcome_filter_ordersByRegion :
    (Recovery.filter ordersByRegion.toList).outcome =
      .ok [.filter ⟨[⟨"total", .greater, .int 5⟩]⟩] := by
  have body : Clause.filter? ordersByRegion.toList = some "total > 5".toList := by decide +kernel
  have pieces : fragments (Clause.trimBody "total > 5".toList) = ["total > 5".toList] := by
    decide +kernel
  rw [Recovery.filter, body]
  dsimp only
  rw [readConditions, pieces]
  rfl

theorem outcome_aggregate_ordersByRegion :
    (Recovery.aggregate ordersByRegion.toList).outcome =
      .ok [.aggregate ⟨some ["region"], [⟨"id", .count, some "orders"⟩]⟩] := by
  have grouping : Clause.grouping? ordersByRegion.toList = some "region".toList := by
    decide +kernel
  have selectList : Clause.selectList? ordersByRegion.toList =
      some "region, COUNT(id) AS orders".toList := by
    decide +kernel
  have calls : Aggregates.calls "region, COUNT(id) AS orders".toList =
      [⟨"COUNT".toList, "id".toList, some "orders".toList⟩] := by
    decide +kernel
  rw [Recovery.aggregate, grouping, selectList, Option.getD_some, Option.isSome_some,
    Bool.true_or, if_pos rfl, Recovery.aggregateOf, Aggregates.ofSelectList, calls]
  rfl

theorem table?_ordersByRegion :
    Clause.table? ordersByRegion.toList = some "shop.items".toList := by
  decide +kernel

theorem outcome_recover_ordersByRegion :
    (recover pile ordersByRegion).outcome = .ok (.chain pile ordersStages) := by
  have source : Recovery.source ordersByRegion (Recovery.tableName "shop.items".toList) =
      { table := some "items", schema := some "shop", query := some ordersByRegion } := by
    rfl
  rw [ordersStages, ← source]
  exact outcome_recover_row table?_ordersByRegion outcome_filter_ordersByRegion
    outcome_aggregate_ordersByRegion

theorem recover_shape_ordersByRegion :
    (recover pile ordersByRegion).outcome = .ok (.chain pile ordersStages) ∧
      (Graph.chain pile ordersStages).IsRow pile ∧
        ∃ first rest, (Graph.chain pile ordersStages).RunsInOrder first rest :=
  ⟨outcome_recover_ordersByRegion, (recover_shape outcome_recover_ordersByRegion).2
    (exists_table?_iff.mp ⟨_, table?_ordersByRegion⟩)⟩

end SqlPipeline
