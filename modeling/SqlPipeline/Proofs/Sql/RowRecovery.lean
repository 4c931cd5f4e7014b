import SqlPipeline.Proofs.Sql.PlainStages

/-!
# Rows that are read back

The statement of a plain row over a table is read back as that row (`outcome_recover_rowSql`), with
two differences. An aggregation without an alias comes back with the one under which it was selected,
and a statement that calls functions comes back as the query of the source, as its parentheses are
taken for those of a sub-query.
-/

namespace SqlPipeline

open Text Clause Aggregates

/-- A row over a table that is read back. -/
structure PlainRow (settings : Settings) (payload : Source) (conditions : List Condition)
    (grouped : Option Aggregate) : Prop where
  table : PlainTable payload
  sourceAlias : isIdentifier settings.sourceAlias.toList = true
  legible : ∀ condition ∈ conditions, condition.Legible
  aggregate : ∀ aggregate, grouped = some aggregate → aggregate.Plain
  apart : conditions ≠ [] ∨ grouped ≠ none → ¬EndsInWhere settings.sourceAlias.toList

/-- The parts of the statement of a row over a table. -/
def rowParts (settings : Settings) (schema : Option String) (table : String)
    (conditions : List Condition) (grouped : Option Aggregate) : Parts where
  selected := (Draft.selection grouped).toList
  reference := (tableReference schema table).toList
  sourceAlias := settings.sourceAlias.toList
  conditions := conditions
  columns := ((grouped.map Aggregate.columns).getD []).map String.toList

/-- The source that is read back. Calls of functions are taken for sub-queries. -/
def recoveredSource (sql : String) (payload : Source) (grouped : Option Aggregate) : Source where
  table := payload.table
  schema := payload.schema
  query := if ((grouped.map Aggregate.aggregations).getD []).isEmpty then none else some sql

/-- What is read back can be written. -/
theorem Condition.Legible.isWritable {condition : Condition} (legible : condition.Legible) :
    condition.isWritable = true := by
  refine Condition.isWritable_iff.mpr (.inr fun number isNumber => ?_)
  have plain := legible.value
  rw [isNumber] at plain
  cases plain with
  | int few => exact few

theorem toList_filterClause (conditions : List Condition) :
    (if conditions.isEmpty then "" else Draft.filterClause conditions).toList =
      filterText conditions := by
  cases conditions with
  | nil => rfl
  | cons first rest =>
      rw [List.isEmpty_cons, if_neg Bool.false_ne_true, filterText_cons, Draft.filterClause,
        String.toList_append, String.toList_intercalate, List.map_map]
      rfl

theorem toList_groupingClause (aggregate : Aggregate) :
    (Draft.groupingClause aggregate).toList = groupText (aggregate.columns.map String.toList) := by
  rw [Draft.groupingClause, Aggregate.columns]
  cases aggregate.groupBy.getD [] with
  | nil => rfl
  | cons first rest =>
      rw [List.map_cons, groupText_cons, String.toList_append, String.toList_intercalate]
      rfl

theorem toList_clauses (conditions : List Condition) (grouped : Option Aggregate) :
    (Draft.clauses conditions grouped).toList = filterText conditions ++
      groupText (((grouped.map Aggregate.columns).getD []).map String.toList) := by
  rw [Draft.clauses, String.toList_append, toList_filterClause]
  cases grouped with
  | none => rfl
  | some aggregate =>
      rw [Option.map_some, Option.getD_some, toList_groupingClause]
      rfl

theorem toList_rowSql (settings : Settings) (schema : Option String) (table : String)
    (conditions : List Condition) (grouped : Option Aggregate) :
    (Draft.rowSql (tableReference schema table) settings.sourceAlias conditions grouped).toList =
      (rowParts settings schema table conditions grouped).text := by
  have assoc : ∀ a b c d e f g : List Char,
      a ++ b ++ c ++ d ++ e ++ f ++ g = a ++ (b ++ (c ++ (d ++ (e ++ (f ++ g))))) := by
    simp only [List.append_assoc, implies_true]
  rw [Draft.rowSql]
  simp only [String.toList_append, toList_clauses]
  exact assoc _ _ _ _ _ _ _

/-- The columns of the grouping are read back. -/
theorem groupingColumns_columns {columns : List String}
    (bare : ∀ name ∈ columns, BareName name.toList) :
    ((if (columns.map String.toList).isEmpty then none
      else some (listed (columns.map String.toList))).map Recovery.groupingColumns).getD [] =
        columns := by
  cases columns with
  | nil => rfl
  | cons first rest =>
      have plain : ∀ name ∈ first.toList :: rest.map String.toList, PlainName name := by
        rw [← List.map_cons, List.forall_mem_map]
        exact fun name member => (bare name member).plain
      have read := groupingColumns_listed plain
      rw [← List.map_cons, List.map_map] at read
      simpa [Function.comp_def] using read

namespace PlainRow

variable {settings : Settings} {payload : Source} {name sql : String} {conditions : List Condition}
  {grouped : Option Aggregate}

theorem exists_item (row : PlainRow settings payload conditions grouped) :
    ∃ found, Item (Draft.selection grouped).toList found := by
  cases grouped with
  | none => exact ⟨[], item_star⟩
  | some aggregate => exact ⟨_, (row.aggregate aggregate rfl).item_selection⟩

/-- The parts of the statement of a plain row are told apart again. -/
theorem plain_rowParts (row : PlainRow settings payload conditions grouped)
    (table : payload.table = some name) :
    (rowParts settings payload.schema name conditions grouped).Plain where
  selected := row.exists_item
  reference := isReference_of_plainTable row.table table
  sourceAlias := row.sourceAlias
  conditions := row.legible
  columns := by
    cases grouped with
    | none => simp [rowParts]
    | some aggregate =>
        intro text member
        rcases List.mem_map.mp member with ⟨column, known, rfl⟩
        exact (row.aggregate aggregate rfl).columns column known
  apart := by
    intro someClause
    apply row.apart
    by_contra neither
    rw [not_or, not_not, not_not] at neither
    obtain ⟨rfl, rfl⟩ := neither
    exact someClause rfl

/-- The conditions are read back. -/
theorem outcome_filter (row : PlainRow settings payload conditions grouped)
    (table : payload.table = some name) :
    (Recovery.filter (rowParts settings payload.schema name conditions grouped).text).outcome =
      .ok (if conditions.isEmpty then [] else [.filter ⟨conditions⟩]) := by
  rw [Recovery.filter, (row.plain_rowParts table).filter?_text]
  have legible := row.legible
  cases conditions with
  | nil => rfl
  | cons first rest =>
      simp only [rowParts, List.isEmpty_cons, Bool.false_eq_true, if_false,
        trimBody_filterBody legible]
      rw [Traced.outcome_bind_of_ok _ (readConditions_filterBody legible)]
      rfl

/-- The aggregate is read back. -/
theorem outcome_aggregate (row : PlainRow settings payload conditions grouped)
    (table : payload.table = some name) :
    (Recovery.aggregate (rowParts settings payload.schema name conditions grouped).text).outcome =
      .ok ((grouped.map Aggregate.named).map Stage.aggregate).toList := by
  have parts := row.plain_rowParts table
  cases grouped with
  | none =>
      have noCall : occurIn ['*'] = false := by decide
      have noGrouping : grouping? (rowParts settings payload.schema name conditions none).text =
          none := parts.grouping?_text
      have selected : selectList? (rowParts settings payload.schema name conditions none).text =
          some ['*'] := parts.framed.selectList?_text
      rw [Recovery.aggregate, noGrouping, selected, Option.getD_some, noCall]
      rfl
  | some aggregate =>
      have plain := row.aggregate aggregate rfl
      have grouping : grouping? (rowParts settings payload.schema name conditions
          (some aggregate)).text =
            if (aggregate.columns.map String.toList).isEmpty then none
              else some (listed (aggregate.columns.map String.toList)) := parts.grouping?_text
      have selected : selectList? (rowParts settings payload.schema name conditions
          (some aggregate)).text =
            some (Draft.selection (some aggregate)).toList := parts.framed.selectList?_text
      have aggregates : ((if (aggregate.columns.map String.toList).isEmpty then none
          else some (listed (aggregate.columns.map String.toList))).isSome ||
            occurIn (Draft.selection (some aggregate)).toList) = true := by
        by_cases none : aggregate.columns = []
        · rw [plain.occurIn_selection none, Bool.or_true]
        · simp [none]
      rw [Recovery.aggregate, grouping, selected, Option.getD_some, if_pos aggregates,
        Recovery.aggregateOf, plain.ofSelectList_selection, groupingColumns_columns plain.columns]
      rfl

/-- The source is read back. -/
theorem source_eq (row : PlainRow settings payload conditions grouped)
    (table : payload.table = some name)
    (text : sql.toList = (rowParts settings payload.schema name conditions grouped).text) :
    Recovery.source sql (Recovery.tableName (tableReference payload.schema name).toList) =
      recoveredSource sql payload grouped := by
  have parts := row.plain_rowParts table
  rw [source_tableReference sql row.table table, recoveredSource, text]
  congr 1
  have noQuery (noParenthesis : '(' ∉ (Draft.selection grouped).toList) :
      (rowParts settings payload.schema name conditions grouped).text.contains '(' = false := by
    rw [List.contains_eq_mem, decide_eq_false_iff_not]
    exact fun member => noParenthesis (parts.parenthesis_mem_selected member)
  cases grouped with
  | none =>
      rw [noQuery (by decide)]
      rfl
  | some aggregate =>
      have plain := row.aggregate aggregate rfl
      rw [Option.map_some, Option.getD_some]
      by_cases calls : aggregate.aggregations = []
      · rw [noQuery (plain.parenthesis_not_mem_selection calls), calls]
        rfl
      · have opening := plain.parenthesis_mem_selection calls (Or.inl rfl)
        have closing := plain.parenthesis_mem_selection calls (Or.inr rfl)
        have inText : ∀ sign ∈ (Draft.selection (some aggregate)).toList,
            sign ∈ (rowParts settings payload.schema name conditions (some aggregate)).text :=
          fun sign member => Parts.mem_text_of_mem_selected member
        simp [inText _ opening, inText _ closing, calls]

/-- The statement of a plain row is read back as the row. -/
theorem outcome_recover_rowSql (row : PlainRow settings payload conditions grouped)
    (table : payload.table = some name)
    (isSql : sql = Draft.rowSql (tableReference payload.schema name) settings.sourceAlias conditions
      grouped) :
    (recover settings sql).outcome = .ok (.chain settings (Recovery.row settings
      (recoveredSource sql payload grouped) conditions (grouped.map Aggregate.named))) := by
  have text : sql.toList = (rowParts settings payload.schema name conditions grouped).text := by
    rw [isSql, toList_rowSql]
  have found := (row.plain_rowParts table).framed.table?_text
  have isFilter := row.outcome_filter table
  have isAggregate := row.outcome_aggregate table
  rw [← text] at found isFilter isAggregate
  rw [outcome_recover_row found isFilter isAggregate]
  congr 3
  exact row.source_eq table text

end PlainRow

end SqlPipeline
