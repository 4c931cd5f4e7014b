import SqlPipeline.Proofs.Sql.RowStatement
import SqlPipeline.Proofs.Sql.TableStatement

/-!
# Tables and aggregates that are read back

The reference to a plain table is read back as the table and its schema (`source_tableReference`).
The select list of a plain aggregate is an item, and the calls in it are those of its aggregations;
they are read back in order, each with the alias under which it was selected
(`Aggregate.Plain.ofSelectList_selection`).
-/

namespace SqlPipeline

open Text Clause Aggregates

/-- A source that reads a table, in a schema or in none. -/
structure PlainTable (payload : Source) : Prop where
  noQuery : payload.query.getD "" = ""
  table : ∃ name, payload.table = some name ∧ PlainName name.toList
  schema : ∀ name, payload.schema = some name → PlainName name.toList

theorem PlainTable.plainName {payload : Source} {name : String} (plain : PlainTable payload)
    (table : payload.table = some name) : PlainName name.toList := by
  rcases plain.table with ⟨other, same, plainName⟩
  rw [Option.some.inj (table.symm.trans same)]
  exact plainName

/-- The reference to a table. -/
def tableReference (schema : Option String) (table : String) : String :=
  match schema with
  | some schema => quoteIdentifier schema ++ "." ++ quoteIdentifier table
  | none => quoteIdentifier table

theorem baseRelation_of_plainTable (id : String) {payload : Source} {name : String}
    (plain : PlainTable payload) (table : payload.table = some name) :
    Draft.baseRelation id payload = .ok (tableReference payload.schema name) := by
  have plainName := plain.plainName table
  have noQuery : filled? payload.query = none := Graph.filled?_eq_none_iff.mpr plain.noQuery
  rcases schema : payload.schema with _ | schemaName
  · rw [Draft.baseRelation, noQuery, table, filled?_of_ne_empty plainName.ne_empty, schema]
    rfl
  · rw [Draft.baseRelation, noQuery, table, filled?_of_ne_empty plainName.ne_empty, schema,
      filled?_of_ne_empty (plain.schema schemaName schema).ne_empty]
    rfl

theorem toList_quoteIdentifier (name : String) :
    (quoteIdentifier name).toList = '"' :: (name.toList ++ ['"']) := by
  simp only [quoteIdentifier, String.toList_append, List.append_assoc]
  rfl

theorem toList_tableReference_none (table : String) :
    (tableReference none table).toList = '"' :: (table.toList ++ ['"']) :=
  toList_quoteIdentifier table

theorem toList_tableReference_some (schema table : String) :
    (tableReference (some schema) table).toList =
      '"' :: (schema.toList ++ ['"']) ++ '.' :: '"' :: (table.toList ++ ['"']) := by
  rw [tableReference, String.toList_append, String.toList_append, toList_quoteIdentifier,
    toList_quoteIdentifier, List.append_assoc]
  rfl

theorem isReference_of_plainTable {payload : Source} {name : String} (plain : PlainTable payload)
    (table : payload.table = some name) :
    IsReference (tableReference payload.schema name).toList := by
  have plainName := plain.plainName table
  have ofName : ∀ {c : Char}, (c.isAlphanum = true ∨ c = '_') →
      (c.isAlphanum = true ∨ c = '_' ∨ c = '"' ∨ c = '.') := fun isName =>
    isName.imp_right Or.inl
  rcases schema : payload.schema with _ | schemaName
  · rw [toList_tableReference_none]
    refine ⟨rfl, by simp [List.getLast?_cons], ?_⟩
    intro c member
    simp only [List.mem_cons, List.mem_append, List.not_mem_nil, or_false] at member
    rcases member with rfl | inName | rfl
    · simp
    · exact ofName (plainName.characters c inName)
    · simp
  · have plainSchema := plain.schema schemaName schema
    rw [toList_tableReference_some]
    refine ⟨rfl, by simp [List.getLast?_append, List.getLast?_cons], ?_⟩
    intro c member
    simp only [List.mem_cons, List.mem_append, List.not_mem_nil, or_false] at member
    rcases member with (rfl | inSchema | rfl) | rfl | rfl | inName | rfl
    · simp
    · exact ofName (plainSchema.characters c inSchema)
    · simp
    · simp
    · simp
    · exact ofName (plainName.characters c inName)
    · simp

/-- A quoted name without its marks. -/
theorem without_quoted {name : List Char} (absent : '"' ∉ name) :
    without '"' ('"' :: (name ++ ['"'])) = name := by
  have kept := without_of_not_mem absent
  rw [without] at kept ⊢
  simp [kept]

/-- The source that is recovered reads the same table, and has the statement for a query if there
are parentheses in it. -/
theorem source_tableReference {payload : Source} {name : String} (sql : String)
    (plain : PlainTable payload) (table : payload.table = some name) :
    Recovery.source sql (Recovery.tableName (tableReference payload.schema name).toList) =
      { table := payload.table
        schema := payload.schema
        query :=
          if sql.toList.contains '(' && sql.toList.contains ')' then some sql else none } := by
  have plainName := plain.plainName table
  have trimmed := trim_of_solid_word (isReference_of_plainTable plain table).solid
  rw [Recovery.tableName, trimmed, Recovery.source, table]
  rcases schema : payload.schema with _ | schemaName
  · rw [toList_tableReference_none, without_quoted (plainName.not_mem (by decide)),
      without_of_not_mem (plainName.not_mem (by decide)),
      splitOn_of_not_mem (plainName.not_mem (by decide))]
    simp
  · have plainSchema := plain.schema schemaName schema
    have marksGone : without '"' (tableReference (some schemaName) name).toList =
        schemaName.toList ++ '.' :: name.toList := by
      have front := without_quoted (plainSchema.not_mem (by decide) : '"' ∉ schemaName.toList)
      have back := without_quoted (plainName.not_mem (by decide) : '"' ∉ name.toList)
      rw [without] at front back ⊢
      rw [toList_tableReference_some, List.filter_append, front,
        List.filter_cons_of_pos (by decide), back]
    have noApostrophe : '\'' ∉ schemaName.toList ++ '.' :: name.toList := by
      have inSchema : '\'' ∉ schemaName.toList := plainSchema.not_mem (by decide)
      have inName : '\'' ∉ name.toList := plainName.not_mem (by decide)
      simp [inSchema, inName]
    rw [marksGone, without_of_not_mem noApostrophe,
      splitOn_append (plainSchema.not_mem (by decide)),
      splitOn_of_not_mem (plainName.not_mem (by decide))]
    simp

namespace Aggregation

/-- The name under which an aggregated column is selected. -/
def columnName (aggregation : Aggregation) : String :=
  (filled? aggregation.columnAlias).getD (aggregation.function.name ++ "_" ++ aggregation.column)

/-- An aggregation with the alias under which it is selected. -/
def named (aggregation : Aggregation) : Aggregation :=
  { aggregation with columnAlias := some aggregation.columnName }

/-- The call of an aggregation. -/
def call (aggregation : Aggregation) : Call where
  name := aggregation.function.capitals.toList
  column := aggregation.column.toList
  columnAlias := some aggregation.columnName.toList

/-- The call of an aggregation as it is written. -/
def text (aggregation : Aggregation) : List Char :=
  callText aggregation.function aggregation.column.toList aggregation.columnName.toList

/-- An aggregation of a bare column, under a bare alias or none. -/
structure Plain (aggregation : Aggregation) : Prop where
  column : BareName aggregation.column.toList
  columnAlias : ∀ name, aggregation.columnAlias = some name → BareName name.toList

variable {aggregation : Aggregation}

/-- A name made of a function and a column is not a keyword. -/
theorem bareName_default (function : AggregateFunction) {column : String}
    (plain : PlainName column.toList) :
    BareName (function.name ++ "_" ++ column).toList := by
  have text : (function.name ++ "_" ++ column).toList =
      function.name.toList ++ '_' :: column.toList := by
    rw [String.toList_append, String.toList_append, List.append_assoc]
    rfl
  have underscore : '_' ∈ (function.name.toList ++ '_' :: column.toList).map Char.toUpper :=
    List.mem_map.mpr ⟨'_', by simp, rfl⟩
  rw [text]
  refine ⟨⟨by simp, ?_⟩, ?_, ?_, ?_⟩
  · intro c member
    rcases List.mem_append.mp member with inFunction | inRest
    · have letters : ∀ c ∈ function.name.toList, c.isAlphanum = true := by
        cases function <;> decide
      exact Or.inl (letters c inFunction)
    · rcases List.mem_cons.mp inRest with rfl | inColumn
      · exact Or.inr rfl
      · exact plain.characters c inColumn
  · intro isFrom
    rw [isFrom] at underscore
    exact absurd underscore (by decide)
  · intro isWhere
    rw [isWhere] at underscore
    exact absurd underscore (by decide)
  · rintro ⟨rest, having⟩
    cases function <;> cases having

theorem bareName_columnName (plain : aggregation.Plain) :
    BareName aggregation.columnName.toList := by
  rw [columnName]
  rcases given : aggregation.columnAlias with _ | name
  · exact bareName_default aggregation.function plain.column.plain
  · have bare := plain.columnAlias name given
    rw [filled?_of_ne_empty bare.plain.ne_empty]
    exact bare

theorem toList_aggregateColumn (aggregation : Aggregation) :
    (Draft.aggregateColumn aggregation).toList = aggregation.text := by
  have assoc : ∀ a b c d e : List Char, a ++ b ++ c ++ d ++ e = a ++ (b ++ (c ++ (d ++ e))) := by
    simp only [List.append_assoc, implies_true]
  rw [Draft.aggregateColumn]
  simp only [String.toList_append]
  exact assoc _ _ _ _ _

theorem item_text (plain : aggregation.Plain) : Item aggregation.text [aggregation.call] :=
  item_callText aggregation.function plain.column (bareName_columnName plain)

/-- A call means the aggregation that it was written for. -/
theorem toAggregation_call (aggregation : Aggregation) :
    aggregation.call.toAggregation = .ok aggregation.named := by
  have lowered : String.ofList (aggregation.function.capitals.toList.map Char.toLower) =
      aggregation.function.name := by
    rw [toLower_capitals, String.ofList_toList]
  simp [call, named, Call.toAggregation, Call.function, Value.readChoice, Value.heldText?, lowered,
    ofLabel?_name, Checked.under]

theorem mapM_toAggregation (aggregations : List Aggregation) :
    (aggregations.map call).mapM Call.toAggregation = .ok (aggregations.map named) := by
  induction aggregations with
  | nil => rfl
  | cons aggregation rest ih =>
      rw [List.map_cons, List.mapM_cons, toAggregation_call, ih]
      rfl

end Aggregation

namespace Aggregate

/-- The columns of a grouping. -/
def columns (aggregate : Aggregate) : List String :=
  aggregate.groupBy.getD []

/-- An aggregate as recovery gives it: an empty list of columns is none, and every aggregation has
an alias. -/
def named (aggregate : Aggregate) : Aggregate where
  groupBy := if aggregate.columns.isEmpty then none else some aggregate.columns
  aggregations := aggregate.aggregations.map Aggregation.named

/-- An aggregate of bare columns, under bare aliases, that selects something. -/
structure Plain (aggregate : Aggregate) : Prop where
  columns : ∀ name ∈ aggregate.columns, BareName name.toList
  aggregations : ∀ aggregation ∈ aggregate.aggregations, aggregation.Plain
  nonempty : aggregate.columns ≠ [] ∨ aggregate.aggregations ≠ []

/-- The items of the select list, with the calls in them. -/
def items (aggregate : Aggregate) : List (List Char × List Call) :=
  aggregate.columns.map (fun name => (name.toList, [])) ++
    aggregate.aggregations.map fun aggregation => (aggregation.text, [aggregation.call])

variable {aggregate : Aggregate}

theorem toList_selectList (aggregate : Aggregate) :
    (Draft.selectList aggregate).map String.toList = aggregate.items.map Prod.fst := by
  simp only [Draft.selectList, items, columns, List.map_append, List.map_map, Function.comp_def,
    Aggregation.toList_aggregateColumn]

theorem calls_items (aggregate : Aggregate) :
    aggregate.items.flatMap Prod.snd = aggregate.aggregations.map Aggregation.call := by
  have noCall : aggregate.columns.flatMap (fun _ => ([] : List Call)) = [] :=
    List.flatMap_eq_nil_iff.mpr fun _ _ => rfl
  rw [items, List.flatMap_append, List.flatMap_map, List.flatMap_map, noCall, List.nil_append,
    List.map_eq_flatMap]

theorem Plain.items_ne_nil (plain : aggregate.Plain) : aggregate.items ≠ [] := by
  rcases plain.nonempty with some | some <;> simp [items, some]

/-- The select list of an aggregate as it is written. -/
theorem Plain.toList_selection (plain : aggregate.Plain) :
    (Draft.selection (some aggregate)).toList = listed (aggregate.items.map Prod.fst) := by
  have texts := toList_selectList aggregate
  have some := plain.items_ne_nil
  rw [Draft.selection, Option.map_some, Option.getD_some]
  rcases selected : Draft.selectList aggregate with _ | ⟨first, rest⟩
  · rw [selected] at texts
    exact absurd (List.map_eq_nil_iff.mp texts.symm) some
  · rw [← texts, selected, listed]
    exact String.toList_intercalate

theorem Plain.item_selection (plain : aggregate.Plain) :
    Item (Draft.selection (some aggregate)).toList
      (aggregate.aggregations.map Aggregation.call) := by
  rw [plain.toList_selection, ← calls_items]
  refine item_listed plain.items_ne_nil fun item member => ?_
  rcases List.mem_append.mp member with inColumns | inAggregations
  · rcases List.mem_map.mp inColumns with ⟨name, known, rfl⟩
    exact (plain.columns name known).item
  · rcases List.mem_map.mp inAggregations with ⟨aggregation, known, rfl⟩
    exact Aggregation.item_text (plain.aggregations aggregation known)

/-- The aggregations are read back from the select list, in order. -/
theorem Plain.ofSelectList_selection (plain : aggregate.Plain) :
    ofSelectList (Draft.selection (some aggregate)).toList =
      .ok (aggregate.aggregations.map Aggregation.named) := by
  have reads := plain.item_selection.reads [] (Or.inl rfl)
  rw [List.append_nil, calls_nil, List.append_nil] at reads
  rw [ofSelectList, reads, Aggregation.mapM_toAggregation]

/-- Without a grouping the calls alone show that something is aggregated. -/
theorem Plain.occurIn_selection (plain : aggregate.Plain) (noColumns : aggregate.columns = []) :
    occurIn (Draft.selection (some aggregate)).toList = true := by
  rw [plain.toList_selection, items, noColumns]
  rcases some : aggregate.aggregations with _ | ⟨first, rest⟩
  · exact absurd some (plain.nonempty.resolve_left (by simp [noColumns]))
  · rcases exists_listed_eq_append first.text
      ((rest.map fun aggregation => (aggregation.text, [aggregation.call])).map Prod.fst) with
      ⟨tail, text, -⟩
    rw [List.map_nil, List.nil_append, List.map_cons, List.map_cons, text]
    exact occurIn_callText _ _ _ _

theorem Plain.parenthesis_not_mem_selection (plain : aggregate.Plain)
    (noCall : aggregate.aggregations = []) :
    '(' ∉ (Draft.selection (some aggregate)).toList := by
  rw [plain.toList_selection, items, noCall, List.map_nil, List.append_nil, List.map_map]
  apply parenthesis_not_mem_listed
  intro text member
  rcases List.mem_map.mp member with ⟨name, known, rfl⟩
  exact (plain.columns name known).plain

theorem Plain.parenthesis_mem_selection (plain : aggregate.Plain)
    (calls : aggregate.aggregations ≠ []) {sign : Char} (isSign : sign = '(' ∨ sign = ')') :
    sign ∈ (Draft.selection (some aggregate)).toList := by
  rcases List.exists_mem_of_ne_nil _ calls with ⟨aggregation, known⟩
  have listed : aggregation.text ∈ aggregate.items.map Prod.fst := by
    simp only [items, List.map_append, List.map_map, List.mem_append]
    exact Or.inr (List.mem_map.mpr ⟨aggregation, known, rfl⟩)
  have inCall : sign ∈ aggregation.text := by
    rcases isSign with rfl | rfl <;> simp [Aggregation.text, callText]
  rw [plain.toList_selection]
  exact mem_listed listed inCall

end Aggregate

end SqlPipeline
