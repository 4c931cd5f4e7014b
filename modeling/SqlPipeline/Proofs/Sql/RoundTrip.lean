import SqlPipeline.Proofs.Sql.RowRecovery

/-!
# From a table pipeline to its statement and back

A source of a table and a filter of plain conditions are compiled to a statement from which the same
table and the same conditions are recovered, and the recovered chain is compiled to the same
statement (`recover_compile`). The alias may be any identifier that does not end in a word `WHERE`.
An identifier may hold characters that belong to no word, such as a middle dot, so an alias can end
in that word without being it, as `dottedAlias` does.
-/

namespace SqlPipeline

open Text Clause

namespace Graph

/-- A graph of one source, and possibly of one filter that an edge leads to from the source. Other
edges dangle or repeat that one. -/
inductive IsTablePipeline (graph : Graph) (source : Node) : List Condition → Prop where
  | alone (nodes : graph.nodes = [source]) (noEdge : ∀ id next, ¬graph.Kept id next) :
      IsTablePipeline graph source []
  | filtered {filter : Node} {conditions : List Condition}
      (nodes : graph.nodes = [source, filter] ∨ graph.nodes = [filter, source])
      (stage : filter.stage = .filter ⟨conditions⟩) (distinct : filter.id ≠ source.id)
      (reached : graph.Kept source.id filter.id)
      (noOther : ∀ id next, graph.Kept id next → id = source.id ∧ next = filter.id) :
      IsTablePipeline graph source conditions

/-- The stages of a pipeline over one table as recovery gives them. -/
def tableStages (settings : Settings) (payload : Source) (conditions : List Condition) :
    List Stage :=
  .source payload :: (if conditions.isEmpty then [] else [.filter ⟨conditions⟩]) ++
    [.target { loadStrategy := some settings.targetLoadStrategy }]

theorem row_none (settings : Settings) (payload : Source) (conditions : List Condition) :
    Recovery.row settings payload conditions none = tableStages settings payload conditions := by
  simp [Recovery.row, Recovery.behindSource, tableStages]

theorem infix_pair_iff {id next first second : String} :
    [id, next] <:+: [first, second] ↔ id = first ∧ next = second := by
  constructor
  · intro pair
    have same := pair.eq_of_length rfl
    exact ⟨(List.cons.inj same).1, (List.cons.inj (List.cons.inj same).2).1⟩
  · rintro ⟨rfl, rfl⟩
    exact List.infix_rfl

/-- A pipeline over one table is a row. -/
theorem IsTablePipeline.exists_row {graph : Graph} {source : Node} {conditions : List Condition}
    (pipeline : graph.IsTablePipeline source conditions) :
    ∃ rest, graph.IsChain (source :: rest) ∧ Draft.RowNodes conditions none rest := by
  cases pipeline with
  | alone nodes noEdge =>
      refine ⟨[], ⟨?_, by simp, ?_⟩, ?_⟩
      · rw [nodes]
      · intro id next
        refine ⟨fun kept => absurd kept (noEdge id next), fun pair => ?_⟩
        exact absurd pair.length_le (by simp)
      · exact @Draft.RowNodes.mk [] none [] [] [] (Or.inr ⟨rfl, rfl⟩) rfl (by simp)
  | @filtered filter conditions nodes stage distinct reached noOther =>
      refine ⟨[filter], ⟨?_, ?_, ?_⟩, ?_⟩
      · rcases nodes with nodes | nodes
        · rw [nodes]
        · rw [nodes]
          exact List.Perm.swap _ _ _
      · simpa using Ne.symm distinct
      · intro id next
        rw [List.map_cons, List.map_cons, List.map_nil, infix_pair_iff]
        refine ⟨noOther id next, ?_⟩
        rintro ⟨rfl, rfl⟩
        exact reached
      · have isFilter : [filter].map Node.stage = [.filter ⟨conditions⟩] := by
          rw [List.map_singleton, stage]
        exact @Draft.RowNodes.mk conditions none [filter] [] [] (Or.inl isFilter) rfl (by simp)

/-- The statement of a pipeline over one table, as long as its conditions can be written. -/
theorem outcome_compile_of_isTablePipeline {graph : Graph} {source : Node}
    {conditions : List Condition} {base : String} (settings : Settings)
    (pipeline : graph.IsTablePipeline source conditions) (isSource : source.kind = .source)
    (isBase : Draft.baseOf source = .ok base) :
    (graph.compile settings).outcome =
      if conditions.all Condition.isWritable then
        .ok (Draft.rowSql base settings.sourceAlias conditions none)
      else .error .numberTooLong := by
  rcases pipeline.exists_row with ⟨rest, chain, isRow⟩
  exact outcome_compile_of_rowNodes settings chain isSource isRow isBase

end Graph

/-- A graph is read back as the given table and conditions when the chain of these is recovered from
its statement, and the chain has the same statement. -/
def ReadBack (settings : Settings) (graph : Graph) (payload : Source) (conditions : List Condition) :
    Prop :=
  ∃ sql, (graph.compile settings).outcome = .ok sql ∧
    (recover settings sql).outcome = .ok (.chain settings (Graph.tableStages settings
      { table := payload.table, schema := payload.schema } conditions)) ∧
    ((Graph.chain settings (Graph.tableStages settings
      { table := payload.table, schema := payload.schema } conditions)).compile settings).outcome =
        .ok sql

/-- A pipeline over one table with plain conditions is read back. -/
theorem recover_compile {settings : Settings} {graph : Graph} {source : Node} {payload : Source}
    {conditions : List Condition}
    (isIdentifier : isIdentifier settings.sourceAlias.toList = true)
    (pipeline : graph.IsTablePipeline source conditions) (stage : source.stage = .source payload)
    (plainTable : PlainTable payload) (plain : ∀ condition ∈ conditions, condition.Plain)
    (apart : conditions ≠ [] → ¬EndsInWhere settings.sourceAlias.toList) :
    ReadBack settings graph payload conditions := by
  rcases plainTable.table with ⟨name, table, -⟩
  have isSource : source.kind = .source := by
    rw [Node.kind, stage]
    rfl
  have isBase : Draft.baseOf source = .ok (tableReference payload.schema name) := by
    rw [Draft.baseOf, stage]
    exact baseRelation_of_plainTable source.id plainTable table
  have plainRecovered : PlainTable { table := payload.table, schema := payload.schema } :=
    ⟨rfl, plainTable.table, plainTable.schema⟩
  have row : PlainRow settings payload conditions none :=
    ⟨plainTable, isIdentifier, fun condition member => (plain condition member).legible, by simp,
      by simpa using apart⟩
  have recovered := row.outcome_recover_rowSql table rfl
  have writable : ∀ condition ∈ conditions, condition.isWritable = true :=
    fun condition member => (plain condition member).legible.isWritable
  have compiled := Graph.outcome_compile_of_isTablePipeline settings pipeline isSource isBase
  rw [if_pos (List.all_eq_true.mpr writable)] at compiled
  have recompiled := Graph.outcome_compile_row settings none writable
    (baseRelation_of_plainTable "source-0" plainRecovered table)
  rw [Option.map_none, Graph.row_none] at recovered
  rw [Graph.row_none] at recompiled
  exact ⟨_, compiled, recovered, recompiled⟩

/-- A source and a filter behind it. -/
def filteredTable (payload : Source) (conditions : List Condition) : Graph where
  nodes := [⟨"s", .source payload, {}⟩, ⟨"f", .filter ⟨conditions⟩, {}⟩]
  edges := [⟨"e", "s", "f", none, none⟩]

theorem isTablePipeline_filteredTable (payload : Source) (conditions : List Condition) :
    (filteredTable payload conditions).IsTablePipeline ⟨"s", .source payload, {}⟩ conditions := by
  have distinct : "f" ≠ "s" := by decide
  refine .filtered (Or.inl rfl) rfl distinct ⟨_, List.mem_singleton.mpr rfl, rfl, rfl, rfl⟩ ?_
  rintro id next ⟨edge, member, -, rfl, rfl⟩
  obtain rfl := List.mem_singleton.mp member
  exact ⟨rfl, rfl⟩

theorem not_endsInWhere {name : List Char}
    (noSuffix : ¬"WHERE".toList <:+ name.map Char.toUpper) : ¬EndsInWhere name := by
  rintro ⟨before, word, rfl, capitals, -⟩
  refine noSuffix ⟨before.map Char.toUpper, ?_⟩
  rw [List.map_append, capitals]

/-- A table in a schema. -/
def items : Source := { table := some "items", schema := some "shop" }

/-- A condition of each kind. -/
def itemConditions : List Condition :=
  [⟨"note", .equal, .str "it's 5 p.m."⟩, ⟨"total", .greaterEqual, .int (-5)⟩,
    ⟨"item.paid", .notEqual, .bool true⟩]

theorem plainTable_items : PlainTable items where
  noQuery := rfl
  table := ⟨"items", rfl, by decide, by decide⟩
  schema := by
    rintro name same
    obtain rfl : "shop" = name := Option.some.inj same
    exact ⟨by decide, by decide⟩

theorem plainText_note : PlainText "it's 5 p.m.".toList where
  signs := by decide
  clauses := by
    intro pattern known
    simp only [clausePatterns, List.mem_cons, List.not_mem_nil, or_false] at known
    rcases known with rfl | rfl | rfl | rfl | rfl
    · exact not_occurs_of_missing 'A' (.tail _ (.head _)) (by decide) (by decide)
    · exact not_occurs_of_missing 'O' (.tail _ (.head _)) (by decide) (by decide)
    · exact not_occurs_of_missing 'G' (.head _) (by decide) (by decide)
    · exact not_occurs_of_missing 'O' (.tail _ (.head _)) (by decide) (by decide)
    · exact not_occurs_of_missing 'H' (.tail _ (.head _)) (by decide) (by decide)

theorem plain_itemConditions : ∀ condition ∈ itemConditions, condition.Plain := by
  intro condition member
  simp only [itemConditions, List.mem_cons, List.not_mem_nil, or_false] at member
  rcases member with rfl | rfl | rfl
  · exact ⟨⟨by decide, by decide, by decide⟩, by decide, .str plainText_note⟩
  · exact ⟨⟨by decide, by decide, by decide⟩, by decide, .int (by decide)⟩
  · exact ⟨⟨by decide, by decide, by decide⟩, by decide, .bool true⟩

theorem recover_compile_items :
    ((filteredTable items itemConditions).compile {}).outcome =
        .ok ("SELECT * FROM \"shop\".\"items\" AS source WHERE note = 'it''s 5 p.m.'" ++
          " AND total >= -5 AND item.paid != TRUE") ∧
      ReadBack {} (filteredTable items itemConditions) items itemConditions := by
  have pipeline := isTablePipeline_filteredTable items itemConditions
  have isBase : Draft.baseOf ⟨"s", .source items, {}⟩ = .ok "\"shop\".\"items\"" := rfl
  constructor
  · rw [Graph.outcome_compile_of_isTablePipeline {} pipeline rfl isBase]
    rfl
  · exact recover_compile (by decide) pipeline rfl plainTable_items plain_itemConditions fun _ =>
      not_endsInWhere (by decide)

/-- An alias that ends in the word for a filter behind a middle dot. -/
def dottedAlias : Settings := { sourceAlias := "a·where" }

/-- A table without a schema. -/
def numbers : Source := { table := some "t" }

/-- One condition. -/
def isOne : Condition := ⟨"x", .equal, .int 1⟩

theorem plainTable_numbers : PlainTable numbers where
  noQuery := rfl
  table := ⟨"t", rfl, by decide, by decide⟩
  schema := by
    rintro name same
    cases same

theorem plain_isOne : isOne.Plain :=
  ⟨⟨by decide, by decide, by decide⟩, by decide, .int (by decide)⟩

/-- A filter that starts with its own keyword takes the keyword for a part of the column. -/
theorem outcome_filter_whereIsOne {sql : List Char}
    (body : filter? sql = some "WHERE x = 1".toList) :
    (Recovery.filter sql).outcome = .ok [.filter ⟨[⟨"WHERE x", .equal, .int 1⟩]⟩] := by
  have trimmed : trimBody "WHERE x = 1".toList = "WHERE x = 1".toList := by
    decide
  have pieces : fragments "WHERE x = 1".toList = ["WHERE x = 1".toList] :=
    fragments_of_absent (by decide +kernel) (by decide) (by decide)
  have read : (readConditions "WHERE x = 1".toList).outcome =
      .ok [⟨"WHERE x", .equal, .int 1⟩] := by
    rw [readConditions, pieces]
    rfl
  rw [Recovery.filter, body]
  simp only [trimmed]
  rw [Traced.outcome_bind_of_ok _ read]
  rfl

/-- The filter is taken to start inside the alias. -/
theorem filter_dottedAlias :
    (Recovery.filter "SELECT * FROM \"t\" AS a·where WHERE x = 1".toList).outcome =
      .ok [.filter ⟨[⟨"WHERE x", .equal, .int 1⟩]⟩] :=
  outcome_filter_whereIsOne (by decide +kernel)

theorem outcome_compile_dottedAlias :
    ((filteredTable numbers [isOne]).compile dottedAlias).outcome =
      .ok "SELECT * FROM \"t\" AS a·where WHERE x = 1" := by
  have isBase : Draft.baseOf ⟨"s", .source numbers, {}⟩ = .ok "\"t\"" := rfl
  rw [Graph.outcome_compile_of_isTablePipeline dottedAlias
    (isTablePipeline_filteredTable numbers [isOne]) rfl isBase]
  rfl

/-- Recovery takes the end of the alias for the beginning of the column. -/
theorem outcome_recover_dottedAlias :
    (recover dottedAlias "SELECT * FROM \"t\" AS a·where WHERE x = 1").outcome =
      .ok (.chain dottedAlias
        (Graph.tableStages dottedAlias numbers [⟨"WHERE x", .equal, .int 1⟩])) := by
  have table : table? "SELECT * FROM \"t\" AS a·where WHERE x = 1".toList =
      some ['"', 't', '"'] := by
    decide +kernel
  have grouping : grouping? "SELECT * FROM \"t\" AS a·where WHERE x = 1".toList = none := by
    decide +kernel
  have selectList : selectList? "SELECT * FROM \"t\" AS a·where WHERE x = 1".toList =
      some ['*'] := rfl
  have noCall : Aggregates.occurIn ['*'] = false := by decide
  have aggregate : (Recovery.aggregate
      "SELECT * FROM \"t\" AS a·where WHERE x = 1".toList).outcome = .ok [] := by
    rw [Recovery.aggregate, grouping, selectList, Option.getD_some, noCall]
    rfl
  rw [recover, table]
  apply Traced.outcome_bind_of_ok _
  rw [Recovery.stages, Traced.outcome_bind_of_ok _ (Traced.outcome_tell _ _ _),
    Traced.outcome_bind_of_ok _ filter_dottedAlias, Traced.outcome_bind_of_ok _ aggregate]
  rfl

/-- With such an alias a plain condition is not read back. -/
theorem not_readBack_dottedAlias :
    isIdentifier dottedAlias.sourceAlias.toList = true ∧
      dottedAlias.sourceAlias.toList.map Char.toLower ≠ "where".toList ∧
      (filteredTable numbers [isOne]).IsTablePipeline ⟨"s", .source numbers, {}⟩ [isOne] ∧
      PlainTable numbers ∧ isOne.Plain ∧
      ¬ReadBack dottedAlias (filteredTable numbers [isOne]) numbers [isOne] := by
  refine ⟨by decide +kernel, by decide, isTablePipeline_filteredTable numbers [isOne],
    plainTable_numbers, plain_isOne, ?_⟩
  rintro ⟨sql, compiled, recovered, -⟩
  rw [outcome_compile_dottedAlias] at compiled
  rw [← Except.ok.inj compiled, outcome_recover_dottedAlias] at recovered
  have stages := congrArg (fun graph : Graph => graph.nodes.map Node.stage)
    (Except.ok.inj recovered)
  have filters : Stage.filter ⟨[⟨"WHERE x", .equal, .int 1⟩]⟩ = Stage.filter ⟨[isOne]⟩ :=
    (List.cons.inj (List.cons.inj stages).2).1
  have columns : "WHERE x" = "x" := by
    injection filters with filters
    injection filters with conditions
    exact congrArg Condition.column (List.cons.inj conditions).1
  exact absurd columns (by decide)

end SqlPipeline
