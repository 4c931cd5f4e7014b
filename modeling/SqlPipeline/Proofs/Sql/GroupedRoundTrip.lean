import SqlPipeline.Proofs.Sql.RoundTrip

/-!
# From a grouped pipeline to its statement and back

A chain of a table, possibly a filter, and an aggregate is compiled to a statement whose select list,
filter and grouping are cut out of the text by separate searches. None of them is misled by the
others, however many names and calls there are, so the stages come back as they were, with two
additions: every aggregation has the alias under which it was selected, and a statement that calls
functions is the query of the source (`recover_compile_grouped`).
-/

namespace SqlPipeline

open Text

namespace Graph

/-- A chain of a source, possibly of a filter, and of an aggregate. -/
inductive IsGroupedPipeline (graph : Graph) (payload : Source) (aggregate : Aggregate) :
    List Condition → Prop where
  | unfiltered {source last : Node} (chain : graph.IsChain [source, last])
      (isSource : source.stage = .source payload) (isLast : last.stage = .aggregate aggregate) :
      IsGroupedPipeline graph payload aggregate []
  | filtered {source filter last : Node} {conditions : List Condition}
      (chain : graph.IsChain [source, filter, last]) (isSource : source.stage = .source payload)
      (isFilter : filter.stage = .filter ⟨conditions⟩) (isLast : last.stage = .aggregate aggregate) :
      IsGroupedPipeline graph payload aggregate conditions

variable {graph : Graph} {payload : Source} {aggregate : Aggregate} {conditions : List Condition}

/-- A grouped pipeline is a row. -/
theorem IsGroupedPipeline.exists_row
    (pipeline : graph.IsGroupedPipeline payload aggregate conditions) :
    ∃ source rest, graph.IsChain (source :: rest) ∧ source.stage = .source payload ∧
      Draft.RowNodes conditions (some aggregate) rest := by
  cases pipeline with
  | @unfiltered source last chain isSource isLast =>
      have isGroup : [last].map Node.stage = [.aggregate aggregate] := by
        rw [List.map_singleton, isLast]
      exact ⟨source, [last], chain, isSource,
        @Draft.RowNodes.mk [] (some aggregate) [] [last] [] (Or.inr ⟨rfl, rfl⟩) isGroup (by simp)⟩
  | @filtered source filter last conditions chain isSource isFilter isLast =>
      have isFilters : [filter].map Node.stage = [.filter ⟨conditions⟩] := by
        rw [List.map_singleton, isFilter]
      have isGroup : [last].map Node.stage = [.aggregate aggregate] := by
        rw [List.map_singleton, isLast]
      exact ⟨source, [filter, last], chain, isSource,
        @Draft.RowNodes.mk conditions (some aggregate) [filter] [last] [] (Or.inl isFilters) isGroup
          (by simp)⟩

/-- The statement of a grouped pipeline. -/
theorem outcome_compile_of_isGroupedPipeline {name : String} (settings : Settings)
    (pipeline : graph.IsGroupedPipeline payload aggregate conditions)
    (plainTable : PlainTable payload) (table : payload.table = some name)
    (legible : ∀ condition ∈ conditions, condition.Legible) :
    (graph.compile settings).outcome = .ok (Draft.rowSql (tableReference payload.schema name)
      settings.sourceAlias conditions (some aggregate)) := by
  rcases pipeline.exists_row with ⟨source, rest, chain, isSource, isRow⟩
  have isKind : source.kind = .source := by
    rw [Node.kind, isSource]
    rfl
  have isBase : Draft.baseOf source = .ok (tableReference payload.schema name) := by
    rw [Draft.baseOf, isSource]
    exact baseRelation_of_plainTable source.id plainTable table
  have writable : conditions.all Condition.isWritable = true :=
    List.all_eq_true.mpr fun condition member => (legible condition member).isWritable
  rw [outcome_compile_of_rowNodes settings chain isKind isRow isBase, if_pos writable]

end Graph

/-- The table, the conditions, the grouping and the aggregations of a grouped pipeline come back from
its statement. -/
theorem recover_compile_grouped {graph : Graph} {payload : Source} {conditions : List Condition}
    {aggregate : Aggregate} (pipeline : graph.IsGroupedPipeline payload aggregate conditions)
    (plainTable : PlainTable payload) (legible : ∀ condition ∈ conditions, condition.Legible)
    (plainAggregate : aggregate.Plain) :
    ∃ sql, (graph.compile {}).outcome = .ok sql ∧
      (recover {} sql).outcome = .ok (.chain {} (Recovery.row {}
        { table := payload.table
          schema := payload.schema
          query := if aggregate.aggregations.isEmpty then none else some sql }
        conditions
        (some { groupBy := if aggregate.columns.isEmpty then none else some aggregate.columns
                aggregations := aggregate.aggregations.map Aggregation.named }))) := by
  rcases plainTable.table with ⟨name, table, -⟩
  have apart : ¬EndsInWhere ({} : Settings).sourceAlias.toList := not_endsInWhere (by decide)
  have row : PlainRow {} payload conditions (some aggregate) :=
    { table := plainTable
      sourceAlias := by decide
      legible := legible
      aggregate := by
        rintro other same
        rwa [← Option.some.inj same]
      apart := fun _ => apart }
  exact ⟨_, Graph.outcome_compile_of_isGroupedPipeline {} pipeline plainTable table legible,
    row.outcome_recover_rowSql table rfl⟩

/-- A grouping with an aggregation of each kind: one without an alias, one with. -/
def sales : Aggregate where
  groupBy := some ["region"]
  aggregations := [⟨"total", .sum, none⟩, ⟨"id", .count, some "orders"⟩]

theorem plain_sales : sales.Plain where
  columns := by
    intro name member
    obtain rfl := List.mem_singleton.mp member
    exact ⟨⟨by decide, by decide⟩, by decide, by decide, by decide⟩
  aggregations := by
    intro aggregation member
    simp only [sales, List.mem_cons, List.not_mem_nil, or_false] at member
    rcases member with rfl | rfl
    · exact ⟨⟨⟨by decide, by decide⟩, by decide, by decide, by decide⟩, by simp⟩
    · refine ⟨⟨⟨by decide, by decide⟩, by decide, by decide, by decide⟩, ?_⟩
      rintro name same
      obtain rfl : "orders" = name := Option.some.inj same
      exact ⟨⟨by decide, by decide⟩, by decide, by decide, by decide⟩
  nonempty := by simp [sales]

/-- The sales of a shop. -/
def salesByRegion : Graph :=
  .chain {} [.source items, .filter ⟨itemConditions⟩, .aggregate sales]

theorem isGroupedPipeline_salesByRegion :
    salesByRegion.IsGroupedPipeline items sales itemConditions :=
  .filtered (Graph.isChain_chain {} _) rfl rfl rfl

/-- The statement for the sales. -/
def salesSql : String :=
  "SELECT region, SUM(total) AS sum_total, COUNT(id) AS orders FROM \"shop\".\"items\" AS source" ++
    " WHERE note = 'it''s 5 p.m.' AND total >= -5 AND item.paid != TRUE GROUP BY region"

theorem recover_compile_grouped_sales :
    (salesByRegion.compile {}).outcome = .ok salesSql ∧
      (recover {} salesSql).outcome = .ok (.chain {}
        [.source { table := some "items", schema := some "shop", query := some salesSql },
          .filter ⟨itemConditions⟩,
          .aggregate ⟨some ["region"], [⟨"total", .sum, some "sum_total"⟩,
            ⟨"id", .count, some "orders"⟩]⟩,
          .target { loadStrategy := some .truncate }]) := by
  have table : items.table = some "items" := rfl
  have legible : ∀ condition ∈ itemConditions, condition.Legible := fun condition member =>
    (plain_itemConditions condition member).legible
  have compiled : (salesByRegion.compile {}).outcome = .ok salesSql := by
    rw [Graph.outcome_compile_of_isGroupedPipeline {} isGroupedPipeline_salesByRegion
      plainTable_items table legible]
    rfl
  rcases recover_compile_grouped isGroupedPipeline_salesByRegion plainTable_items legible
    plain_sales with ⟨sql, isSql, recovered⟩
  obtain rfl : salesSql = sql := Except.ok.inj (compiled.symm.trans isSql)
  exact ⟨compiled, recovered⟩

end SqlPipeline
