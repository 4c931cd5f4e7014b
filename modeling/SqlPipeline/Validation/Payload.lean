import SqlPipeline.Validation.Dump
import SqlPipeline.Validation.Entries

/-!
# Reading and writing payloads

Each payload has its fields in a fixed order, which is the order of faults and of written fields.
The reader and the writer of a record stand side by side over the same fields.
-/

namespace SqlPipeline

open Value (readText readOptional readList readChoice readMapping readRecord readLiteral)

/-- Reads an optional text field; null and absence are the same. -/
def Field.textOrNone (field : Field) (entries : Mapping) : Checked (Option String) :=
  field.orElse none (readOptional readText) entries

/-- Reads a list of texts, empty by default. -/
def Field.textList (field : Field) (entries : Mapping) : Checked (List String) :=
  field.orElse [] (readList readText) entries

namespace Condition

/-- Reads a condition. -/
def read : Value → Checked Condition :=
  readRecord "FilterCondition" fun entries =>
    Condition.mk <$> Fields.column.required readText entries
      <*> Fields.op.required (readChoice Operator) entries
      <*> Fields.value.orElse .null readLiteral entries

/-- The fields of a condition as they are written. -/
def fields (condition : Condition) : List (Field × Value) :=
  [(Fields.column, .str condition.column), (Fields.op, .choice condition.op),
    (Fields.value, condition.value.toValue)]

/-- Writes a condition. -/
def dump (style : DumpStyle) (condition : Condition) : Value :=
  style.record condition.fields

end Condition

namespace Aggregation

/-- Reads an aggregation. -/
def read : Value → Checked Aggregation :=
  readRecord "AggregationConfig" fun entries =>
    Aggregation.mk <$> Fields.column.required readText entries
      <*> Fields.function.required (readChoice AggregateFunction) entries
      <*> Fields.columnAlias.textOrNone entries

/-- The fields of an aggregation as they are written. -/
def fields (aggregation : Aggregation) : List (Field × Value) :=
  [(Fields.column, .str aggregation.column), (Fields.function, .choice aggregation.function),
    (Fields.columnAlias, .optional aggregation.columnAlias)]

/-- Writes an aggregation. -/
def dump (style : DumpStyle) (aggregation : Aggregation) : Value :=
  style.record aggregation.fields

end Aggregation

namespace Transform

/-- Reads a column transformation. -/
def read : Value → Checked Transform :=
  readRecord "TransformSpec" fun entries =>
    Transform.mk <$> Fields.targetColumn.orElse "" readText entries
      <*> Fields.expression.orElse "" readText entries
      <*> Fields.columns.orElse none (readOptional (readList readText)) entries
      <*> Fields.separator.textOrNone entries
      <*> Fields.transformKind.orElse none (readOptional (readChoice TransformKind)) entries
      <*> Fields.config.orElse [] readMapping entries

/-- The fields of a column transformation as they are written. -/
def fields (transform : Transform) : List (Field × Value) :=
  [(Fields.targetColumn, .str transform.targetColumn),
    (Fields.expression, .str transform.expression),
    (Fields.columns, .orNull .texts transform.columns),
    (Fields.separator, .optional transform.separator),
    (Fields.transformKind, .orNull .choice transform.kind), (Fields.config, .map transform.config)]

/-- Writes a column transformation. -/
def dump (style : DumpStyle) (transform : Transform) : Value :=
  style.record transform.fields

end Transform

namespace Source

/-- Reads the payload of a source. -/
def read (entries : Mapping) : Checked Source :=
  Source.mk <$> Fields.table.textOrNone entries
    <*> Fields.schema.textOrNone entries
    <*> Fields.query.textOrNone entries
    <*> Fields.connectionString.textOrNone entries
    <*> Fields.dbEngine.textOrNone entries

/-- The fields of the payload of a source as they are written. -/
def fields (source : Source) : List (Field × Value) :=
  [(Fields.table, .optional source.table), (Fields.schema, .optional source.schema),
    (Fields.query, .optional source.query),
    (Fields.connectionString, .optional source.connectionString),
    (Fields.dbEngine, .optional source.dbEngine)]

/-- Writes the payload of a source. -/
def dump (style : DumpStyle) (source : Source) : Value :=
  style.record source.fields

end Source

namespace Join

/-- Reads the payload of a join. -/
def read (entries : Mapping) : Checked Join :=
  Join.mk <$> Fields.joinKind.orElse .inner (readChoice JoinKind) entries
    <*> Fields.leftTable.textOrNone entries
    <*> Fields.rightTable.textOrNone entries
    <*> Fields.leftColumn.textOrNone entries
    <*> Fields.rightColumn.textOrNone entries
    <*> Fields.joinCondition.textOrNone entries

/-- The fields of the payload of a join as they are written. -/
def fields (join : Join) : List (Field × Value) :=
  [(Fields.joinKind, .choice join.kind), (Fields.leftTable, .optional join.leftTable),
    (Fields.rightTable, .optional join.rightTable), (Fields.leftColumn, .optional join.leftColumn),
    (Fields.rightColumn, .optional join.rightColumn),
    (Fields.joinCondition, .optional join.condition)]

/-- Writes the payload of a join. -/
def dump (style : DumpStyle) (join : Join) : Value :=
  style.record join.fields

end Join

namespace Filter

/-- Reads the payload of a filter. -/
def read (entries : Mapping) : Checked Filter :=
  Filter.mk <$> Fields.conditions.orElse [] (readList Condition.read) entries

/-- The fields of the payload of a filter as they are written. -/
def fields (style : DumpStyle) (filter : Filter) : List (Field × Value) :=
  [(Fields.conditions, .list (filter.conditions.map (Condition.dump style)))]

/-- Writes the payload of a filter. -/
def dump (style : DumpStyle) (filter : Filter) : Value :=
  style.record (fields style filter)

end Filter

namespace Aggregate

/-- Reads the payload of an aggregate. -/
def read (entries : Mapping) : Checked Aggregate :=
  Aggregate.mk <$> Fields.groupBy.orElse none (readOptional (readList readText)) entries
    <*> Fields.aggregations.orElse [] (readList Aggregation.read) entries

/-- The fields of the payload of an aggregate as they are written. -/
def fields (style : DumpStyle) (aggregate : Aggregate) : List (Field × Value) :=
  [(Fields.groupBy, .orNull .texts aggregate.groupBy),
    (Fields.aggregations, .list (aggregate.aggregations.map (Aggregation.dump style)))]

/-- Writes the payload of an aggregate. -/
def dump (style : DumpStyle) (aggregate : Aggregate) : Value :=
  style.record (fields style aggregate)

end Aggregate

namespace TransformList

/-- Reads the payload of a transform stage. -/
def read (entries : Mapping) : Checked TransformList :=
  TransformList.mk <$> Fields.transforms.orElse [] (readList Transform.read) entries

/-- The fields of the payload of a transform stage as they are written. -/
def fields (style : DumpStyle) (stage : TransformList) : List (Field × Value) :=
  [(Fields.transforms, .list (stage.transforms.map (Transform.dump style)))]

/-- Writes the payload of a transform stage. -/
def dump (style : DumpStyle) (stage : TransformList) : Value :=
  style.record (fields style stage)

end TransformList

namespace Lookup

/-- Reads the payload of a look-up. -/
def read (entries : Mapping) : Checked Lookup :=
  Lookup.mk <$> Fields.lookupTable.textOrNone entries
    <*> Fields.lookupSchema.textOrNone entries
    <*> Fields.sourceColumns.textList entries
    <*> Fields.lookupColumns.textList entries
    <*> Fields.returnColumns.textList entries

/-- The fields of the payload of a look-up as they are written. -/
def fields (lookup : Lookup) : List (Field × Value) :=
  [(Fields.lookupTable, .optional lookup.table), (Fields.lookupSchema, .optional lookup.schema),
    (Fields.sourceColumns, .texts lookup.sourceColumns),
    (Fields.lookupColumns, .texts lookup.lookupColumns),
    (Fields.returnColumns, .texts lookup.returnColumns)]

/-- Writes the payload of a look-up. -/
def dump (style : DumpStyle) (lookup : Lookup) : Value :=
  style.record lookup.fields

end Lookup

namespace Target

/-- Reads the payload of a target. -/
def read (entries : Mapping) : Checked Target :=
  Target.mk <$> Fields.table.textOrNone entries
    <*> Fields.schema.textOrNone entries
    <*> Fields.connectionString.textOrNone entries
    <*> Fields.dbEngine.textOrNone entries
    <*> Fields.loadStrategy.orElse none (readOptional (readChoice LoadStrategy)) entries

/-- The fields of the payload of a target as they are written. -/
def fields (target : Target) : List (Field × Value) :=
  [(Fields.table, .optional target.table), (Fields.schema, .optional target.schema),
    (Fields.connectionString, .optional target.connectionString),
    (Fields.dbEngine, .optional target.dbEngine),
    (Fields.loadStrategy, .orNull .choice target.loadStrategy)]

/-- Writes the payload of a target. -/
def dump (style : DumpStyle) (target : Target) : Value :=
  style.record target.fields

end Target

end SqlPipeline
