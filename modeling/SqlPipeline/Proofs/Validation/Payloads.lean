import SqlPipeline.Proofs.Validation.Records
import SqlPipeline.Validation.Payload

/-!
# Payloads are read as they were written

Each payload reads back as itself, under either spelling and with or without its nulls. The one
condition concerns the free settings of a transform: their keys have to be texts, and no key may
come twice, as in everything that was read (`named_of_readMapping`).
-/

namespace SqlPipeline

open Value (readText readOptional readList readChoice readMapping readLiteral)

namespace Mapping

/-- A mapping whose keys are texts, no text coming twice. -/
structure Named (entries : Mapping) : Prop where
  textual : ∀ entry ∈ entries, ∃ name, entry.1 = .str name
  distinct : Distinct entries

theorem distinct_named (fields : List (String × Value)) : Distinct (named fields) :=
  distinct_ofEntries _

theorem mem_put {α : Type} {key : Key} {value : α} {entries : List (Key × α)} {entry : Key × α}
    (member : entry ∈ put key value entries) :
    entry.1 = key ∨ ∃ old ∈ entries, entry.1 = old.1 := by
  induction entries with
  | nil =>
      rw [put, List.mem_singleton] at member
      exact Or.inl (by rw [member])
  | cons first rest ih =>
      rw [put] at member
      split at member
      · rcases List.mem_cons.mp member with rfl | behind
        · exact Or.inr ⟨first, List.mem_cons_self, rfl⟩
        · exact Or.inr ⟨entry, List.mem_cons_of_mem _ behind, rfl⟩
      · rcases List.mem_cons.mp member with rfl | behind
        · exact Or.inr ⟨first, List.mem_cons_self, rfl⟩
        · refine (ih behind).imp_right ?_
          rintro ⟨old, inRest, same⟩
          exact ⟨old, List.mem_cons_of_mem _ inRest, same⟩

theorem textual_written {earlier later : Mapping}
    (textual : ∀ entry ∈ earlier, ∃ name, entry.1 = .str name)
    (textualLater : ∀ entry ∈ later, ∃ name, entry.1 = .str name) :
    ∀ entry ∈ written earlier later, ∃ name, entry.1 = .str name := by
  induction later generalizing earlier with
  | nil => exact textual
  | cons first rest ih =>
      refine ih ?_ fun entry member => textualLater entry (List.mem_cons_of_mem _ member)
      intro entry member
      rcases mem_put member with same | ⟨old, inEarlier, same⟩
      · rw [same]
        exact textualLater first List.mem_cons_self
      · rw [same]
        exact textual old inEarlier

theorem textual_named (fields : List (String × Value)) :
    ∀ entry ∈ named fields, ∃ name, entry.1 = .str name := by
  rw [named, ofEntries_eq_written]
  apply textual_written (by simp)
  intro entry member
  rcases List.mem_map.mp member with ⟨field, -, rfl⟩
  exact ⟨field.1, rfl⟩

end Mapping

/-- What was read as a free mapping has textual keys, none twice. -/
theorem named_of_readMapping {value : Value} {entries : Mapping}
    (found : readMapping value = .valid entries) : entries.Named := by
  cases value with
  | map given =>
      rcases Checked.map_eq_valid_iff.mp found with ⟨fields, -, rfl⟩
      exact ⟨Mapping.textual_named fields, Mapping.distinct_named fields⟩
  | _ => cases found

/-- Entries under texts are checked to the texts and the values as they are. -/
theorem exists_of_textual {entries : Mapping}
    (textual : ∀ entry ∈ entries, ∃ name, entry.1 = .str name) :
    ∃ fields : List (String × Value),
      Checked.entries readText .valid entries = .valid fields ∧
        (fields.map fun field => (Key.str field.1, field.2)) = entries := by
  induction entries with
  | nil => exact ⟨[], rfl, rfl⟩
  | cons entry rest ih =>
      rcases entry with ⟨key, value⟩
      obtain ⟨name, rfl⟩ := textual (key, value) List.mem_cons_self
      rcases ih fun other member => textual other (List.mem_cons_of_mem _ member) with
        ⟨fields, read, same⟩
      refine ⟨(name, value) :: fields, ?_, by rw [List.map_cons, same]⟩
      rw [Checked.entries, read]
      rfl

theorem readMapping_map {entries : Mapping} (named : entries.Named) :
    readMapping (.map entries) = .valid entries := by
  rcases exists_of_textual named.textual with ⟨fields, read, same⟩
  rw [readMapping, read]
  change Checked.valid (Mapping.ofEntries (fields.map fun field => (.str field.1, field.2))) = _
  rw [same, Mapping.ofEntries_of_distinct named.distinct]

section Fields

variable {style : DumpStyle} {fields : List (Field × Value)} {field : Field}

theorem text_entries {text : String} (separate : Separate (fields.map Prod.fst))
    (member : (field, .str text) ∈ fields) :
    field.required readText (style.entries fields) = .valid text :=
  DumpStyle.required_entries separate member rfl rfl

theorem textOrElse_entries {text : String} (default : String)
    (separate : Separate (fields.map Prod.fst)) (member : (field, .str text) ∈ fields) :
    field.orElse default readText (style.entries fields) = .valid text :=
  DumpStyle.orElse_entries separate member rfl nofun

theorem choice_entries {α : Type} [Choice α] [LawfulChoice α] {chosen : α}
    (separate : Separate (fields.map Prod.fst)) (member : (field, .choice chosen) ∈ fields) :
    field.required (readChoice α) (style.entries fields) = .valid chosen :=
  DumpStyle.required_entries separate member rfl (Value.readChoice_choice chosen)

theorem choiceOrElse_entries {α : Type} [Choice α] [LawfulChoice α] {chosen : α} (default : α)
    (separate : Separate (fields.map Prod.fst)) (member : (field, .choice chosen) ∈ fields) :
    field.orElse default (readChoice α) (style.entries fields) = .valid chosen :=
  DumpStyle.orElse_entries separate member (Value.readChoice_choice chosen) nofun

theorem textOrNone_entries {text : Option String} (separate : Separate (fields.map Prod.fst))
    (member : (field, .optional text) ∈ fields) :
    field.textOrNone (style.entries fields) = .valid text := by
  refine DumpStyle.orElse_entries separate member (Value.readOptional_optional text) ?_
  intro isNull
  rcases text with _ | text
  · rfl
  · cases isNull

theorem textList_entries {items : List String} (separate : Separate (fields.map Prod.fst))
    (member : (field, .texts items) ∈ fields) :
    field.textList (style.entries fields) = .valid items := by
  refine DumpStyle.orElse_entries separate member (Value.readList_texts items) ?_
  intro isNull
  cases isNull

/-- An optional field is read as it was written, if values are not written as null. -/
theorem optional_entries {α : Type} {read : Value → Checked α} {write : α → Value}
    {value : Option α} (separate : Separate (fields.map Prod.fst))
    (member : (field, .orNull write value) ∈ fields)
    (notNull : ∀ value, (write value).isNull = false)
    (reads : ∀ value, read (write value) = .valid value) :
    field.orElse none (readOptional read) (style.entries fields) = .valid value :=
  DumpStyle.orElse_entries separate member (Value.readOptional_orNull notNull reads value)
    (Value.isNull_orNull notNull)

/-- A field that is a list is read as it was written, item by item. -/
theorem list_entries {α β : Type} {read : Value → Checked β} {write : α → Value} {back : α → β}
    {list : List α} (separate : Separate (fields.map Prod.fst))
    (member : (field, .list (list.map write)) ∈ fields)
    (reads : ∀ item ∈ list, read (write item) = .valid (back item)) :
    field.orElse [] (readList read) (style.entries fields) = .valid (list.map back) := by
  refine DumpStyle.orElse_entries separate member (Value.readList_map reads) ?_
  intro isNull
  cases isNull

/-- What is read of a written list is read of its items. -/
theorem exists_of_mem_list_entries {α β : Type} {read : Value → Checked β} {write : α → Value}
    {list : List α} {result : List β} (separate : Separate (fields.map Prod.fst))
    (member : (field, .list (list.map write)) ∈ fields)
    (found : field.orElse [] (readList read) (style.entries fields) = .valid result) {item : β}
    (inResult : item ∈ result) : ∃ written ∈ list, read (write written) = .valid item := by
  have kept : style.skips (.list (list.map write)) = false := by
    simp [DumpStyle.skips, Value.isNull]
  rw [Field.orElse, DumpStyle.find?_entries separate member, kept] at found
  have items := Checked.under_eq_valid_iff.mp found
  rcases Checked.exists_of_mem_items items inResult with ⟨document, inList, isItem⟩
  rcases List.mem_map.mp inList with ⟨written, isWritten, rfl⟩
  exact ⟨written, isWritten, isItem⟩

end Fields

variable (style : DumpStyle)

namespace Condition

theorem separate (condition : Condition) : Separate (condition.fields.map Prod.fst) := by
  simp only [fields, List.map_cons, List.map_nil]
  decide

theorem read_dump (condition : Condition) :
    Condition.read (condition.dump style) = .valid condition := by
  have column : Fields.column.required readText (style.entries condition.fields) =
      .valid condition.column :=
    text_entries condition.separate (by simp [fields])
  have op : Fields.op.required (readChoice Operator) (style.entries condition.fields) =
      .valid condition.op :=
    choice_entries condition.separate (by simp [fields])
  have value : Fields.value.orElse .null readLiteral (style.entries condition.fields) =
      .valid condition.value := by
    refine DumpStyle.orElse_entries condition.separate (by simp [fields])
      (Value.readLiteral_toValue condition.value) ?_
    intro isNull
    cases literal : condition.value <;> rw [literal] at isNull <;> first | rfl | cases isNull
  rw [dump, DumpStyle.record_eq, Condition.read, Value.readRecord, column, op, value]
  rfl

end Condition

namespace Aggregation

theorem separate (aggregation : Aggregation) : Separate (aggregation.fields.map Prod.fst) := by
  simp only [fields, List.map_cons, List.map_nil]
  decide

theorem read_dump (aggregation : Aggregation) :
    Aggregation.read (aggregation.dump style) = .valid aggregation := by
  have column : Fields.column.required readText (style.entries aggregation.fields) =
      .valid aggregation.column :=
    text_entries aggregation.separate (by simp [fields])
  have function : Fields.function.required (readChoice AggregateFunction)
      (style.entries aggregation.fields) = .valid aggregation.function :=
    choice_entries aggregation.separate (by simp [fields])
  have columnAlias : Fields.columnAlias.textOrNone (style.entries aggregation.fields) =
      .valid aggregation.columnAlias :=
    textOrNone_entries aggregation.separate (by simp [fields])
  rw [dump, DumpStyle.record_eq, Aggregation.read, Value.readRecord, column, function, columnAlias]
  rfl

end Aggregation

namespace Transform

theorem separate (transform : Transform) : Separate (transform.fields.map Prod.fst) := by
  simp only [fields, List.map_cons, List.map_nil]
  decide

theorem named_of_read {document : Value} {transform : Transform}
    (found : Transform.read document = .valid transform) : transform.config.Named := by
  cases document with
  | map entries =>
      rcases Checked.seq_eq_valid_iff.mp found with ⟨_, config, toKind, isConfig, rfl⟩
      rcases Checked.seq_eq_valid_iff.mp toKind with ⟨_, kind, toSeparator, -, rfl⟩
      rcases Checked.seq_eq_valid_iff.mp toSeparator with ⟨_, separator, toColumns, -, rfl⟩
      rcases Checked.seq_eq_valid_iff.mp toColumns with ⟨_, columns, toExpression, -, rfl⟩
      rcases Checked.seq_eq_valid_iff.mp toExpression with ⟨_, expression, toColumn, -, rfl⟩
      rcases Checked.map_eq_valid_iff.mp toColumn with ⟨targetColumn, -, rfl⟩
      rcases Field.eq_default_or_read isConfig with rfl | ⟨document, read⟩
      · exact ⟨by simp, Mapping.distinct_nil⟩
      · exact named_of_readMapping read
  | _ => cases found

theorem read_dump {transform : Transform} (named : transform.config.Named) :
    Transform.read (transform.dump style) = .valid transform := by
  have targetColumn : Fields.targetColumn.orElse "" readText (style.entries transform.fields) =
      .valid transform.targetColumn :=
    textOrElse_entries _ transform.separate (by simp [fields])
  have expression : Fields.expression.orElse "" readText (style.entries transform.fields) =
      .valid transform.expression :=
    textOrElse_entries _ transform.separate (by simp [fields])
  have columns : Fields.columns.orElse none (readOptional (readList readText))
      (style.entries transform.fields) = .valid transform.columns :=
    optional_entries transform.separate (by simp [fields]) (fun _ => rfl) Value.readList_texts
  have separator : Fields.separator.textOrNone (style.entries transform.fields) =
      .valid transform.separator :=
    textOrNone_entries transform.separate (by simp [fields])
  have kind : Fields.transformKind.orElse none (readOptional (readChoice TransformKind))
      (style.entries transform.fields) = .valid transform.kind :=
    optional_entries transform.separate (by simp [fields]) (fun _ => rfl) Value.readChoice_choice
  have config : Fields.config.orElse [] readMapping (style.entries transform.fields) =
      .valid transform.config :=
    DumpStyle.orElse_entries transform.separate (by simp [fields]) (readMapping_map named) nofun
  rw [dump, DumpStyle.record_eq, Transform.read, Value.readRecord, targetColumn, expression, columns,
    separator, kind, config]
  rfl

end Transform

namespace Source

theorem separate (source : Source) : Separate (source.fields.map Prod.fst) := by
  simp only [fields, List.map_cons, List.map_nil]
  decide

theorem read_entries (source : Source) :
    Source.read (style.entries source.fields) = .valid source := by
  have table : Fields.table.textOrNone (style.entries source.fields) = .valid source.table :=
    textOrNone_entries source.separate (by simp [fields])
  have schema : Fields.schema.textOrNone (style.entries source.fields) = .valid source.schema :=
    textOrNone_entries source.separate (by simp [fields])
  have query : Fields.query.textOrNone (style.entries source.fields) = .valid source.query :=
    textOrNone_entries source.separate (by simp [fields])
  have connectionString : Fields.connectionString.textOrNone (style.entries source.fields) =
      .valid source.connectionString :=
    textOrNone_entries source.separate (by simp [fields])
  have dbEngine : Fields.dbEngine.textOrNone (style.entries source.fields) =
      .valid source.dbEngine :=
    textOrNone_entries source.separate (by simp [fields])
  rw [Source.read, table, schema, query, connectionString, dbEngine]
  rfl

end Source

namespace Join

theorem separate (join : Join) : Separate (join.fields.map Prod.fst) := by
  simp only [fields, List.map_cons, List.map_nil]
  decide

theorem read_entries (join : Join) : Join.read (style.entries join.fields) = .valid join := by
  have kind : Fields.joinKind.orElse .inner (readChoice JoinKind) (style.entries join.fields) =
      .valid join.kind :=
    choiceOrElse_entries _ join.separate (by simp [fields])
  have leftTable : Fields.leftTable.textOrNone (style.entries join.fields) =
      .valid join.leftTable :=
    textOrNone_entries join.separate (by simp [fields])
  have rightTable : Fields.rightTable.textOrNone (style.entries join.fields) =
      .valid join.rightTable :=
    textOrNone_entries join.separate (by simp [fields])
  have leftColumn : Fields.leftColumn.textOrNone (style.entries join.fields) =
      .valid join.leftColumn :=
    textOrNone_entries join.separate (by simp [fields])
  have rightColumn : Fields.rightColumn.textOrNone (style.entries join.fields) =
      .valid join.rightColumn :=
    textOrNone_entries join.separate (by simp [fields])
  have condition : Fields.joinCondition.textOrNone (style.entries join.fields) =
      .valid join.condition :=
    textOrNone_entries join.separate (by simp [fields])
  rw [Join.read, kind, leftTable, rightTable, leftColumn, rightColumn, condition]
  rfl

end Join

namespace Filter

theorem separate (filter : Filter) : Separate ((fields style filter).map Prod.fst) := by
  simp only [fields, List.map_cons, List.map_nil]
  decide

theorem read_entries (filter : Filter) :
    Filter.read (style.entries (fields style filter)) = .valid filter := by
  have conditions : Fields.conditions.orElse [] (readList Condition.read)
      (style.entries (fields style filter)) = .valid (filter.conditions.map id) :=
    list_entries (separate style filter) (by simp [fields])
      fun condition _ => Condition.read_dump style condition
  rw [Filter.read, conditions, List.map_id]
  rfl

end Filter

namespace Aggregate

theorem separate (aggregate : Aggregate) : Separate ((fields style aggregate).map Prod.fst) := by
  simp only [fields, List.map_cons, List.map_nil]
  decide

theorem read_entries (aggregate : Aggregate) :
    Aggregate.read (style.entries (fields style aggregate)) = .valid aggregate := by
  have groupBy : Fields.groupBy.orElse none (readOptional (readList readText))
      (style.entries (fields style aggregate)) = .valid aggregate.groupBy :=
    optional_entries (separate style aggregate) (by simp [fields]) (fun _ => rfl)
      Value.readList_texts
  have aggregations : Fields.aggregations.orElse [] (readList Aggregation.read)
      (style.entries (fields style aggregate)) = .valid (aggregate.aggregations.map id) :=
    list_entries (separate style aggregate) (by simp [fields])
      fun aggregation _ => Aggregation.read_dump style aggregation
  rw [Aggregate.read, groupBy, aggregations, List.map_id]
  rfl

end Aggregate

namespace TransformList

/-- The free settings of all transformations have textual keys, none twice. -/
def Named (stage : TransformList) : Prop :=
  ∀ transform ∈ stage.transforms, transform.config.Named

theorem named_of_read {entries : Mapping} {stage : TransformList}
    (found : TransformList.read entries = .valid stage) : stage.Named := by
  rcases Checked.map_eq_valid_iff.mp found with ⟨transforms, read, rfl⟩
  intro transform member
  rcases Field.eq_default_or_read read with rfl | ⟨document, read⟩
  · cases member
  · rcases Value.exists_of_mem_readList read member with ⟨document, isTransform⟩
    exact Transform.named_of_read isTransform

theorem separate (stage : TransformList) : Separate ((fields style stage).map Prod.fst) := by
  simp only [fields, List.map_cons, List.map_nil]
  decide

theorem read_entries {stage : TransformList} (named : stage.Named) :
    TransformList.read (style.entries (fields style stage)) = .valid stage := by
  have transforms : Fields.transforms.orElse [] (readList Transform.read)
      (style.entries (fields style stage)) = .valid (stage.transforms.map id) :=
    list_entries (separate style stage) (by simp [fields])
      fun transform member => Transform.read_dump style (named transform member)
  rw [TransformList.read, transforms, List.map_id]
  rfl

end TransformList

namespace Lookup

theorem separate (lookup : Lookup) : Separate (lookup.fields.map Prod.fst) := by
  simp only [fields, List.map_cons, List.map_nil]
  decide

theorem read_entries (lookup : Lookup) :
    Lookup.read (style.entries lookup.fields) = .valid lookup := by
  have table : Fields.lookupTable.textOrNone (style.entries lookup.fields) =
      .valid lookup.table :=
    textOrNone_entries lookup.separate (by simp [fields])
  have schema : Fields.lookupSchema.textOrNone (style.entries lookup.fields) =
      .valid lookup.schema :=
    textOrNone_entries lookup.separate (by simp [fields])
  have sourceColumns : Fields.sourceColumns.textList (style.entries lookup.fields) =
      .valid lookup.sourceColumns :=
    textList_entries lookup.separate (by simp [fields])
  have lookupColumns : Fields.lookupColumns.textList (style.entries lookup.fields) =
      .valid lookup.lookupColumns :=
    textList_entries lookup.separate (by simp [fields])
  have returnColumns : Fields.returnColumns.textList (style.entries lookup.fields) =
      .valid lookup.returnColumns :=
    textList_entries lookup.separate (by simp [fields])
  rw [Lookup.read, table, schema, sourceColumns, lookupColumns, returnColumns]
  rfl

end Lookup

namespace Target

theorem separate (target : Target) : Separate (target.fields.map Prod.fst) := by
  simp only [fields, List.map_cons, List.map_nil]
  decide

theorem read_entries (target : Target) :
    Target.read (style.entries target.fields) = .valid target := by
  have table : Fields.table.textOrNone (style.entries target.fields) = .valid target.table :=
    textOrNone_entries target.separate (by simp [fields])
  have schema : Fields.schema.textOrNone (style.entries target.fields) = .valid target.schema :=
    textOrNone_entries target.separate (by simp [fields])
  have connectionString : Fields.connectionString.textOrNone (style.entries target.fields) =
      .valid target.connectionString :=
    textOrNone_entries target.separate (by simp [fields])
  have dbEngine : Fields.dbEngine.textOrNone (style.entries target.fields) =
      .valid target.dbEngine :=
    textOrNone_entries target.separate (by simp [fields])
  have loadStrategy : Fields.loadStrategy.orElse none (readOptional (readChoice LoadStrategy))
      (style.entries target.fields) = .valid target.loadStrategy :=
    optional_entries target.separate (by simp [fields]) (fun _ => rfl) Value.readChoice_choice
  rw [Target.read, table, schema, connectionString, dbEngine, loadStrategy]
  rfl

end Target

end SqlPipeline
