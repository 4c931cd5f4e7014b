import SqlPipeline.Proofs.Sql.NumericFilter

/-!
# Changing the alias

The alias of the base relation is written between the table and the filter, and recovery looks for
the filter by its keyword alone. For a table and conditions that compare columns with whole numbers,
what is recovered depends on the alias in one way only: whether it ends in the word `WHERE`
(`readAlike_iff`). Such an alias is an identifier like any other, and it takes the place of the
keyword: with the alias `where`, the column that is read back is called `WHERE x`
(`not_readAlike_reservedAlias`).
-/

namespace SqlPipeline

open Text Clause

/-- A statement is read back as the given table and conditions. -/
def ReadsAs (settings : Settings) (sql : String) (payload : Source) (found : List Condition) :
    Prop :=
  (recover settings sql).outcome = .ok (.chain settings (Graph.tableStages settings
    { table := payload.table, schema := payload.schema } found))

/-- Changing the settings does not change the table and the conditions that are read back from the
statement of a graph; a number that is too long is in the way of the statement under either. -/
structure ReadAlike (first second : Settings) (graph : Graph) (payload : Source)
    (conditions : List Condition) : Prop where
  read : (∀ condition ∈ conditions, condition.Short) →
    ∃ firstSql secondSql, (graph.compile first).outcome = .ok firstSql ∧
      (graph.compile second).outcome = .ok secondSql ∧
      (∀ found, ReadsAs first firstSql payload found ↔ ReadsAs second secondSql payload found) ∧
      ∃ found, ReadsAs first firstSql payload found
  refused : (∃ condition ∈ conditions, ¬condition.Short) →
    (graph.compile first).outcome = .error .numberTooLong ∧
      (graph.compile second).outcome = .error .numberTooLong

variable {conditions : List Condition}

section Rows

variable {settings : Settings} {payload : Source} {name sql : String}

theorem numeric_rowParts (isIdentifier : isIdentifier settings.sourceAlias.toList = true)
    (plainTable : PlainTable payload) (table : payload.table = some name)
    (nonempty : conditions ≠ []) (numeric : ∀ condition ∈ conditions, condition.ComparesNumber) :
    (rowParts settings payload.schema name conditions none).Numeric where
  framed := ⟨⟨[], item_star⟩, isReference_of_plainTable plainTable table, isIdentifier⟩
  nonempty := nonempty
  numeric := numeric
  noGrouping := rfl

theorem tableStages_injective {found other : List Condition}
    (same : Graph.chain settings (Graph.tableStages settings payload found) =
      Graph.chain settings (Graph.tableStages settings payload other)) : found = other := by
  have stages := congrArg (fun graph : Graph => graph.nodes.map Node.stage) same
  simp only [Graph.chain, Graph.map_stage_chainNodes, Graph.tableStages] at stages
  have behind := (List.cons.inj (List.append_cancel_right stages)).2
  cases found with
  | nil =>
      cases other with
      | nil => rfl
      | cons => simp at behind
  | cons =>
      cases other with
      | nil => simp at behind
      | cons => simpa using behind

/-- Apart from the filter, the statement is read back as it is meant. -/
theorem readsAs_iff (plainTable : PlainTable payload) (table : payload.table = some name)
    (numeric : (rowParts settings payload.schema name conditions none).Numeric)
    (isSql : sql = Draft.rowSql (tableReference payload.schema name) settings.sourceAlias conditions
      none) (found : List Condition) :
    ReadsAs settings sql payload found ↔
      (Recovery.filter (rowParts settings payload.schema name conditions none).text).outcome =
        .ok (if found.isEmpty then [] else [.filter ⟨found⟩]) := by
  have text : sql.toList = (rowParts settings payload.schema name conditions none).text := by
    rw [isSql, toList_rowSql]
  have isTable := numeric.framed.table?_text
  have isAggregate : (Recovery.aggregate sql.toList).outcome = .ok [] := by
    have noCall : Aggregates.occurIn ['*'] = false := by decide
    have selected : selectList? (rowParts settings payload.schema name conditions none).text =
        some ['*'] := numeric.framed.selectList?_text
    rw [text, Recovery.aggregate, numeric.grouping?_text, selected, Option.getD_some, noCall]
    rfl
  have noParenthesis : sql.toList.contains '(' = false := by
    rw [text, List.contains_eq_mem, decide_eq_false_iff_not]
    intro member
    have selected : '(' ∈ ['*'] := numeric.framed.parenthesis_mem_selected
      numeric.parenthesis_not_mem_clauses member
    exact absurd selected (by decide)
  have source : Recovery.source sql
      (Recovery.tableName (tableReference payload.schema name).toList) =
        { table := payload.table, schema := payload.schema } := by
    rw [source_tableReference sql plainTable table, noParenthesis]
    rfl
  rw [← text] at isTable ⊢
  have reads {found : List Condition} (isFilter : (Recovery.filter sql.toList).outcome =
      .ok (if found.isEmpty then [] else [.filter ⟨found⟩])) :
      ReadsAs settings sql payload found := by
    have recovered := @outcome_recover_row settings sql _ found none isTable isFilter isAggregate
    rw [Graph.row_none] at recovered
    rw [ReadsAs, ← source]
    exact recovered
  refine ⟨fun readsAs => ?_, reads⟩
  -- the filter stage that was read is that of some conditions, and the graph tells which
  have succeeds : (Recovery.filter sql.toList).Succeeds := by
    have known := (recover_succeeds_iff settings sql).mp ⟨_, readsAs⟩
    rw [isTable] at known
    exact Recovery.filter_succeeds_iff.mpr (known.resolve_left (by simp)).1
  rcases succeeds with ⟨stages, isFilter⟩
  rcases Recovery.exists_of_filter isFilter with ⟨other, rfl⟩
  have readsOther := reads isFilter
  rw [ReadsAs] at readsAs readsOther
  rw [readsAs] at readsOther
  rw [tableStages_injective (Except.ok.inj readsOther)]
  exact isFilter

end Rows

theorem isWritable_iff_short {condition : Condition} (numeric : condition.ComparesNumber) :
    condition.isWritable = true ↔ condition.Short := by
  have compares : condition.op.testsNull = false := by
    have listed : ∀ op ∈ comparisons, op.testsNull = false := by decide
    exact listed condition.op numeric.op
  simp [Condition.isWritable_iff, compares]

/-- What is read back depends on the alias only through its end. -/
theorem readAlike_of_iff {first second : Settings} {graph : Graph} {source : Node}
    {payload : Source} (firstAccepted : isIdentifier first.sourceAlias.toList = true)
    (secondAccepted : isIdentifier second.sourceAlias.toList = true)
    (alike : EndsInWhere first.sourceAlias.toList ↔ EndsInWhere second.sourceAlias.toList)
    (pipeline : graph.IsTablePipeline source conditions) (stage : source.stage = .source payload)
    (plainTable : PlainTable payload) (nonempty : conditions ≠ [])
    (numeric : ∀ condition ∈ conditions, condition.ComparesNumber) :
    ReadAlike first second graph payload conditions := by
  rcases plainTable.table with ⟨name, table, -⟩
  have isSource : source.kind = .source := by
    rw [Node.kind, stage]
    rfl
  have isBase : Draft.baseOf source = .ok (tableReference payload.schema name) := by
    rw [Draft.baseOf, stage]
    exact baseRelation_of_plainTable source.id plainTable table
  have firstParts := numeric_rowParts firstAccepted plainTable table nonempty numeric
  have secondParts := numeric_rowParts secondAccepted plainTable table nonempty numeric
  have firstReads := readsAs_iff plainTable table firstParts rfl
  have secondReads := readsAs_iff plainTable table secondParts rfl
  have sameFilter : Recovery.filter (rowParts first payload.schema name conditions none).text =
      Recovery.filter (rowParts second payload.schema name conditions none).text := by
    rw [Recovery.filter, Recovery.filter, firstParts.filter?_text_congr secondParts rfl alike]
  have compiled := fun settings : Settings =>
    Graph.outcome_compile_of_isTablePipeline settings pipeline isSource isBase
  constructor
  · intro short
    have writable : conditions.all Condition.isWritable = true := List.all_eq_true.mpr
      fun condition member =>
        (isWritable_iff_short (numeric condition member)).mpr (short condition member)
    rcases firstParts.filter_succeeds short with ⟨stages, isFilter⟩
    rcases Recovery.exists_of_filter isFilter with ⟨found, rfl⟩
    refine ⟨_, _, (compiled first).trans (if_pos writable),
      (compiled second).trans (if_pos writable), fun found => ?_, found,
      (firstReads found).mpr isFilter⟩
    rw [firstReads, secondReads, sameFilter]
  · rintro ⟨condition, member, long⟩
    have notWritable : ¬conditions.all Condition.isWritable = true := fun writable =>
      long ((isWritable_iff_short (numeric condition member)).mp
        (List.all_eq_true.mp writable condition member))
    exact ⟨(compiled first).trans (if_neg notWritable),
      (compiled second).trans (if_neg notWritable)⟩

theorem comparesNumber_isOne : ∀ condition ∈ [isOne], condition.ComparesNumber := by
  intro condition member
  obtain rfl := List.mem_singleton.mp member
  exact ⟨⟨by decide, by decide⟩, by decide, 1, rfl⟩

theorem short_isOne : ∀ condition ∈ [isOne], condition.Short := by
  intro condition member
  obtain rfl := List.mem_singleton.mp member
  rintro number same
  cases same
  decide

/-- One condition tells whether an alias ends in the word for a filter. -/
theorem readsAs_isOne_iff {settings : Settings} {sql : String}
    (accepted : isIdentifier settings.sourceAlias.toList = true)
    (compiled : ((filteredTable numbers [isOne]).compile settings).outcome = .ok sql) :
    ReadsAs settings sql numbers [isOne] ↔ ¬EndsInWhere settings.sourceAlias.toList := by
  have pipeline := isTablePipeline_filteredTable numbers [isOne]
  constructor
  · intro readsAs ends
    have isBase : Draft.baseOf ⟨"s", .source numbers, {}⟩ = .ok "\"t\"" := rfl
    rw [Graph.outcome_compile_of_isTablePipeline settings pipeline rfl isBase] at compiled
    have parts := numeric_rowParts accepted plainTable_numbers rfl (by simp) comparesNumber_isOne
    rw [readsAs_iff plainTable_numbers rfl parts (Except.ok.inj compiled).symm] at readsAs
    have clauses : (rowParts settings none "t" [isOne] none).clauses = " WHERE x = 1".toList := rfl
    have isBody : bodyAfterBlanks? endsFilter " WHERE x = 1".toList =
        some "WHERE x = 1".toList := by
      decide +kernel
    rw [← clauses] at isBody
    rw [outcome_filter_whereIsOne (parts.framed.filter?_text_of_endsInWhere ends isBody)] at readsAs
    have filters := (List.cons.inj (Except.ok.inj readsAs)).1
    injection filters with filters
    injection filters with conditions
    exact absurd (congrArg Condition.column (List.cons.inj conditions).1) (by decide)
  · intro apart
    have plain : ∀ condition ∈ [isOne], condition.Plain := by
      intro condition member
      obtain rfl := List.mem_singleton.mp member
      exact plain_isOne
    rcases recover_compile accepted pipeline rfl plainTable_numbers plain fun _ => apart with
      ⟨text, compiledText, recovered, -⟩
    obtain rfl : sql = text := Except.ok.inj (compiled.symm.trans compiledText)
    exact recovered

/-- Changing an alias never changes what is read back exactly when both aliases end in the word for
a filter, or neither does. -/
theorem readAlike_iff {first second : Settings}
    (firstAccepted : isIdentifier first.sourceAlias.toList = true)
    (secondAccepted : isIdentifier second.sourceAlias.toList = true) :
    (∀ (graph : Graph) (source : Node) (payload : Source) (conditions : List Condition),
      graph.IsTablePipeline source conditions → source.stage = .source payload →
        PlainTable payload → conditions ≠ [] →
          (∀ condition ∈ conditions, condition.ComparesNumber) →
            ReadAlike first second graph payload conditions) ↔
      (EndsInWhere first.sourceAlias.toList ↔ EndsInWhere second.sourceAlias.toList) := by
  constructor
  · intro always
    have alike := always _ _ _ _ (isTablePipeline_filteredTable numbers [isOne]) rfl
      plainTable_numbers (by simp) comparesNumber_isOne
    rcases alike.read short_isOne with ⟨firstSql, secondSql, compiled, compiledSecond, same, -⟩
    have known := same [isOne]
    rw [readsAs_isOne_iff firstAccepted compiled,
      readsAs_isOne_iff secondAccepted compiledSecond] at known
    exact not_iff_not.mp known
  · intro alike graph source payload conditions pipeline stage plainTable nonempty numeric
    exact readAlike_of_iff firstAccepted secondAccepted alike pipeline stage plainTable nonempty
      numeric

/-- A short alias. -/
def shortAlias : Settings := { sourceAlias := "src" }

theorem not_endsInWhere_source : ¬EndsInWhere ({} : Settings).sourceAlias.toList :=
  not_endsInWhere (by decide)

theorem readAlike_shortAlias :
    isIdentifier ({} : Settings).sourceAlias.toList = true ∧
      isIdentifier shortAlias.sourceAlias.toList = true ∧
      ReadAlike {} shortAlias (filteredTable numbers [isOne]) numbers [isOne] := by
  have neither : EndsInWhere ({} : Settings).sourceAlias.toList ↔
      EndsInWhere shortAlias.sourceAlias.toList :=
    iff_of_false not_endsInWhere_source (not_endsInWhere (by decide))
  exact ⟨by decide, by decide, (readAlike_iff (by decide) (by decide)).mpr neither _ _ _ _
    (isTablePipeline_filteredTable numbers [isOne]) rfl plainTable_numbers (by simp)
    comparesNumber_isOne⟩

/-- The word for a filter as an alias. -/
def reservedAlias : Settings := { sourceAlias := "where" }

theorem endsInWhere_reservedAlias : EndsInWhere reservedAlias.sourceAlias.toList :=
  ⟨[], "where".toList, rfl, by decide, by simp⟩

/-- An accepted alias can change what is read back. -/
theorem not_readAlike_reservedAlias :
    ¬∀ (first second : Settings), isIdentifier first.sourceAlias.toList = true →
      isIdentifier second.sourceAlias.toList = true →
        second = { first with sourceAlias := second.sourceAlias } →
          ∀ (graph : Graph) (source : Node) (payload : Source) (conditions : List Condition),
            graph.IsTablePipeline source conditions → source.stage = .source payload →
              PlainTable payload → conditions ≠ [] →
                (∀ condition ∈ conditions, condition.ComparesNumber) →
                  ReadAlike first second graph payload conditions := by
  intro always
  have alike := always {} reservedAlias (by decide) (by decide) rfl _ _ _ _
    (isTablePipeline_filteredTable numbers [isOne]) rfl plainTable_numbers (by simp)
    comparesNumber_isOne
  rcases alike.read short_isOne with ⟨firstSql, secondSql, compiled, compiledSecond, same, -⟩
  have known := same [isOne]
  rw [readsAs_isOne_iff (by decide) compiled, readsAs_isOne_iff (by decide) compiledSecond] at known
  exact known.mp not_endsInWhere_source endsInWhere_reservedAlias

end SqlPipeline
