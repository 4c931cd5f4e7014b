import SqlPipeline.Proofs.Sql.Fragments
import SqlPipeline.Proofs.Sql.ListItems
import SqlPipeline.Proofs.Sql.RecoveredShape
import SqlPipeline.Proofs.Text.Pieces

/-!
# The grouping columns of a recovered graph

A recovered aggregate has no grouping columns when its statement does not group, and at least one
when it does: cutting a text at its commas always leaves a piece (`groupBy_of_aggregate`). No column
holds a quotation mark. But a piece of blanks and quotation marks becomes a column without a name,
and it is only these pieces that do (`recover_groupsByNames_iff`). Nothing but a semicolon behind
`GROUP BY` is enough for that, and so is a comma too many.
-/

namespace SqlPipeline

open Text Clause

/-- Whether the grouping columns of an aggregate, if it has any, are real: there is one at least,
they have names without quotation marks, and so no item that the aggregate selects is empty. -/
structure Aggregate.GroupsByNames (aggregate : Aggregate) : Prop where
  columns : ∀ columns, aggregate.groupBy = some columns →
    columns ≠ [] ∧ ∀ column ∈ columns, column ≠ "" ∧ '"' ∉ column.toList
  selected : "" ∉ Draft.selectList aggregate

/-- Whether a piece of a grouping names no column: there is nothing in it but quotation marks with
blanks around them. -/
def Nameless (piece : List Char) : Prop :=
  ∃ front marks back, piece = front ++ (marks ++ back) ∧ AllBlank front ∧ (∀ c ∈ marks, c = '"') ∧
    AllBlank back

theorem without_eq_nil_iff {unwanted : Char} {text : List Char} :
    without unwanted text = [] ↔ ∀ c ∈ text, c = unwanted := by
  simp [without]

/-- A piece names no column exactly when nothing is left of it without blanks around it and without
quotation marks. -/
theorem without_trim_eq_nil_iff {piece : List Char} :
    without '"' (trim piece) = [] ↔ Nameless piece := by
  rw [without_eq_nil_iff]
  constructor
  · intro onlyMarks
    rcases exists_of_trim piece with ⟨front, back, split, blankFront, blankBack⟩
    exact ⟨front, trim piece, back, split, blankFront, onlyMarks, blankBack⟩
  · rintro ⟨front, marks, back, rfl, blankFront, onlyMarks, blankBack⟩ c member
    rw [← List.append_assoc, trim_append_of_allBlank blankBack, trim,
      trimLeft, List.dropWhile_append_of_pos blankFront] at member
    exact onlyMarks c (mem_of_mem_trim member)

namespace Recovery

theorem groupingColumns_ne_nil (body : List Char) : groupingColumns body ≠ [] := by
  rw [groupingColumns, Ne, List.map_eq_nil_iff]
  exact splitOn_ne_nil _ _

theorem mark_not_mem_groupingColumns {body : List Char} {column : String}
    (member : column ∈ groupingColumns body) : '"' ∉ column.toList := by
  rcases List.mem_map.mp member with ⟨piece, -, rfl⟩
  simp [mem_without_iff]

/-- A column without a name comes from a piece without one. -/
theorem empty_mem_groupingColumns_iff {body : List Char} :
    "" ∈ groupingColumns body ↔ ∃ piece ∈ splitOn ',' (trimBody body), Nameless piece := by
  have known (piece : List Char) :
      String.ofList (without '"' (trim piece)) = "" ↔ Nameless piece := by
    rw [← without_trim_eq_nil_iff, String.ofList_eq_empty_iff]
  simp only [groupingColumns, List.mem_map, known]

/-- A recovered aggregate groups exactly when its statement does, and by the columns found there. -/
theorem groupBy_of_aggregate {sql : List Char} {grouped : Option Aggregate}
    (found : (aggregate sql).outcome = .ok (grouped.map Stage.aggregate).toList) :
    grouped.bind Aggregate.groupBy = (grouping? sql).map groupingColumns := by
  unfold aggregate at found
  dsimp only at found
  split at found
  · rcases Traced.outcome_bind_eq_ok_iff.mp found with ⟨aggregations, -, stage⟩
    rcases grouped with _ | grouped
    · cases stage
    · cases stage
      rcases grouping? sql with _ | body
      · rfl
      · have some : (groupingColumns body).isEmpty = false :=
          List.isEmpty_eq_false_iff.mpr (groupingColumns_ne_nil body)
        simp [some]
  · next plain =>
    rcases grouping : grouping? sql with _ | body
    · rcases grouped with _ | grouped
      · rfl
      · cases found
    · simp [grouping] at plain

end Recovery

/-- The graph of a statement that only groups. -/
theorem outcome_recover_grouping {settings : Settings} {sql : String}
    {reference selection body : List Char} (table : table? sql.toList = some reference)
    (noFilter : filter? sql.toList = none) (grouping : grouping? sql.toList = some body)
    (selectList : selectList? sql.toList = some selection)
    (noCall : Aggregates.calls selection = []) :
    (recover settings sql).outcome = .ok (.chain settings (Recovery.row settings
      (Recovery.source sql (Recovery.tableName reference)) []
      (some ⟨some (Recovery.groupingColumns body), []⟩))) := by
  apply outcome_recover_row table
  · rw [Recovery.filter, noFilter]
    rfl
  · have some : (Recovery.groupingColumns body).isEmpty = false :=
      List.isEmpty_eq_false_iff.mpr (Recovery.groupingColumns_ne_nil body)
    rw [Recovery.aggregate, grouping, selectList, Option.getD_some, Option.isSome_some,
      Bool.true_or, if_pos rfl, Recovery.aggregateOf, Aggregates.ofSelectList, noCall]
    simp only [Option.map_some, Option.getD_some, some]
    rfl

theorem Draft.aggregateColumn_ne_empty (aggregation : Aggregation) :
    Draft.aggregateColumn aggregation ≠ "" := by
  intro empty
  have inside : '(' ∈ (Draft.aggregateColumn aggregation).toList := by
    simp [Draft.aggregateColumn]
  rw [empty] at inside
  cases inside

/-- What an aggregate selects is named when its grouping columns are. -/
theorem Draft.empty_mem_selectList_iff {aggregate : Aggregate} :
    "" ∈ Draft.selectList aggregate ↔ "" ∈ aggregate.groupBy.getD [] := by
  simp [Draft.selectList, Draft.aggregateColumn_ne_empty]

/-- The aggregate among the stages of a row. -/
theorem Graph.exists_aggregate_row_iff {settings : Settings} {payload : Source}
    {conditions : List Condition} {grouped : Option Aggregate} {aggregate : Aggregate} :
    (∃ node ∈ (chain settings (Recovery.row settings payload conditions grouped)).nodes,
      node.stage = .aggregate aggregate) ↔ grouped = some aggregate := by
  have stages : (∃ node ∈ (chain settings (Recovery.row settings payload conditions grouped)).nodes,
      node.stage = .aggregate aggregate) ↔
      .aggregate aggregate ∈ Recovery.row settings payload conditions grouped := by
    rw [← List.mem_map, chain, map_stage_chainNodes]
  rw [stages]
  rcases conditions with _ | ⟨first, rest⟩ <;> rcases grouped with _ | grouped <;>
    simp [Recovery.row, Recovery.behindSource, eq_comm]

variable {settings : Settings} {sql : String} {graph : Graph}

/-- The aggregate of a recovered graph groups as the statement says. -/
theorem groupBy_of_recover (recovered : (recover settings sql).outcome = .ok graph)
    {aggregate : Aggregate}
    (isAggregate : ∃ node ∈ graph.nodes, node.stage = .aggregate aggregate) :
    MentionsTable sql.toList ∧
      aggregate.groupBy = (grouping? sql.toList).map Recovery.groupingColumns := by
  rcases table : table? sql.toList with _ | reference
  · rw [eq_empty_of_recover recovered table] at isAggregate
    rcases isAggregate with ⟨_, member, -⟩
    cases member
  · refine ⟨exists_table?_iff.mp ⟨reference, table⟩, ?_⟩
    rcases exists_parts_of_recover recovered table with ⟨conditions, grouped, -, found, rfl⟩
    rw [Graph.exists_aggregate_row_iff.mp isAggregate] at found
    exact Recovery.groupBy_of_aggregate found

/-- A statement that mentions a table and groups has an aggregate in its graph. -/
theorem exists_aggregate_of_recover (recovered : (recover settings sql).outcome = .ok graph)
    (mentions : MentionsTable sql.toList) {body : List Char}
    (grouping : grouping? sql.toList = some body) :
    ∃ aggregate, (∃ node ∈ graph.nodes, node.stage = .aggregate aggregate) ∧
      aggregate.groupBy = some (Recovery.groupingColumns body) := by
  rcases exists_table?_iff.mpr mentions with ⟨reference, table⟩
  rcases exists_parts_of_recover recovered table with ⟨conditions, grouped, -, found, rfl⟩
  have groups := Recovery.groupBy_of_aggregate found
  rw [grouping, Option.map_some, Option.bind_eq_some_iff] at groups
  rcases groups with ⟨aggregate, isGrouped, groups⟩
  exact ⟨aggregate, Graph.exists_aggregate_row_iff.mpr isGrouped, groups⟩

/-- Unless it has no grouping columns, a recovered aggregate has some, without quotation marks. -/
theorem unmarked_of_recover (recovered : (recover settings sql).outcome = .ok graph)
    {aggregate : Aggregate}
    (isAggregate : ∃ node ∈ graph.nodes, node.stage = .aggregate aggregate)
    {columns : List String} (groups : aggregate.groupBy = some columns) :
    columns ≠ [] ∧ ∀ column ∈ columns, '"' ∉ column.toList := by
  rw [(groupBy_of_recover recovered isAggregate).2] at groups
  rcases Option.map_eq_some_iff.mp groups with ⟨body, -, rfl⟩
  exact ⟨Recovery.groupingColumns_ne_nil body,
    fun column => Recovery.mark_not_mem_groupingColumns⟩

/-- What is asked of a recovered aggregate comes down to that no column is without a name. -/
theorem groupsByNames_iff_of_recover (recovered : (recover settings sql).outcome = .ok graph)
    {aggregate : Aggregate}
    (isAggregate : ∃ node ∈ graph.nodes, node.stage = .aggregate aggregate) :
    aggregate.GroupsByNames ↔ "" ∉ aggregate.groupBy.getD [] := by
  rw [← Draft.empty_mem_selectList_iff]
  refine ⟨Aggregate.GroupsByNames.selected, fun selected => ⟨?_, selected⟩⟩
  intro columns groups
  rw [Draft.empty_mem_selectList_iff, groups, Option.getD_some] at selected
  rcases unmarked_of_recover recovered isAggregate groups with ⟨nonempty, unmarked⟩
  refine ⟨nonempty, fun column member => ⟨?_, unmarked column member⟩⟩
  rintro rfl
  exact selected member

/-- A recovered aggregate groups by a non-empty list of columns without quotation marks, if it
groups. All these columns have names exactly when no piece between the commas of the grouping is
nameless, in a statement that mentions a table. -/
theorem recover_groupsByNames_iff (recovered : (recover settings sql).outcome = .ok graph) :
    (∀ node ∈ graph.nodes, ∀ aggregate, node.stage = .aggregate aggregate →
      ∀ columns, aggregate.groupBy = some columns →
        columns ≠ [] ∧ ∀ column ∈ columns, '"' ∉ column.toList) ∧
    ((∀ node ∈ graph.nodes, ∀ aggregate, node.stage = .aggregate aggregate →
        aggregate.GroupsByNames) ↔
      (MentionsTable sql.toList → ∀ body, grouping? sql.toList = some body →
        ∀ piece ∈ splitOn ',' (trimBody body), ¬Nameless piece)) := by
  refine ⟨?_, ?_, ?_⟩
  · intro node member aggregate isAggregate columns groups
    exact unmarked_of_recover recovered ⟨node, member, isAggregate⟩ groups
  · intro named mentions body grouping piece isPiece nameless
    rcases exists_aggregate_of_recover recovered mentions grouping with
      ⟨aggregate, ⟨node, member, isAggregate⟩, groups⟩
    have empty : "" ∈ Recovery.groupingColumns body :=
      Recovery.empty_mem_groupingColumns_iff.mpr ⟨piece, isPiece, nameless⟩
    exact (((named node member aggregate isAggregate).columns _ groups).2 "" empty).1 rfl
  · intro noneNameless node member aggregate isAggregate
    have found : ∃ node ∈ graph.nodes, node.stage = .aggregate aggregate :=
      ⟨node, member, isAggregate⟩
    rcases groupBy_of_recover recovered found with ⟨mentions, groups⟩
    rw [groupsByNames_iff_of_recover recovered found, groups]
    rcases grouping : grouping? sql.toList with _ | body
    · simp
    · intro empty
      rcases Recovery.empty_mem_groupingColumns_iff.mp empty with ⟨piece, isPiece, nameless⟩
      exact noneNameless mentions body grouping piece isPiece nameless

/-- A statement that groups by two columns, one in quotation marks. -/
def groupedByMarked : String := "SELECT a FROM t GROUP BY \"a\", b ;\n"

theorem calls_a : Aggregates.calls ['a'] = [] := by
  have none : Aggregates.call? ['a'] = none := rfl
  rw [Aggregates.calls_of_call?_none none, Aggregates.calls_nil]

theorem recover_groupsByNames_marked :
    (recover {} groupedByMarked).outcome = .ok (.chain {} (Recovery.row {} { table := some "t" } []
        (some ⟨some ["a", "b"], []⟩))) ∧
      ∀ node ∈ (Graph.chain {} (Recovery.row {} { table := some "t" } []
        (some ⟨some ["a", "b"], []⟩))).nodes, ∀ aggregate, node.stage = .aggregate aggregate →
          aggregate.GroupsByNames := by
  have grouping : grouping? groupedByMarked.toList = some "\"a\", b ;".toList := by decide +kernel
  have recovered := @outcome_recover_grouping {} groupedByMarked ['t'] ['a'] _ (by decide +kernel)
    (by decide +kernel) grouping (by decide +kernel) calls_a
  refine ⟨recovered, (recover_groupsByNames_iff recovered).2.mpr ?_⟩
  intro _ body isBody
  rw [grouping] at isBody
  cases isBody
  simp only [← without_trim_eq_nil_iff]
  decide

/-- A statement with nothing but a semicolon behind `GROUP BY`. -/
def groupedByNothing : String := "SELECT a FROM t GROUP BY ;"

/-- The semicolon is taken away, and what is left is a column without a name. -/
theorem not_groupsByNames_semicolon :
    ∃ graph, (recover {} groupedByNothing).outcome = .ok graph ∧ ∃ node ∈ graph.nodes,
      ∃ aggregate, node.stage = .aggregate aggregate ∧ ¬aggregate.GroupsByNames := by
  have recovered := @outcome_recover_grouping {} groupedByNothing ['t'] ['a'] [';']
    (by decide +kernel) (by decide +kernel) (by decide +kernel) (by decide +kernel) calls_a
  have found : ∃ node ∈ (Graph.chain {} (Recovery.row {} { table := some "t" } []
      (some ⟨some [""], []⟩))).nodes, node.stage = .aggregate ⟨some [""], []⟩ :=
    Graph.exists_aggregate_row_iff.mpr rfl
  rcases found with ⟨node, member, isAggregate⟩
  refine ⟨_, recovered, node, member, _, isAggregate, fun named => ?_⟩
  exact named.selected List.mem_cons_self

end SqlPipeline
