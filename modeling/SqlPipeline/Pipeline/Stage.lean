import SqlPipeline.Pipeline.Condition
import SqlPipeline.Pipeline.Field

/-!
# Stages

A stage of a pipeline is one of seven kinds, and each kind has its own payload. A stage holds the
payload of its kind, with one exception: a document that gives the kind in bytes is accepted with a
payload of whatever kind fits best. Such a stage is a misfit, and what is made of stages finds that
its payload lacks the fields that it reads.
-/

namespace SqlPipeline

/-- The kinds of stages. -/
inductive StageKind where
  | source
  | join
  | filter
  | aggregate
  | target
  | lookup
  | transform
  deriving DecidableEq, Repr

/-- The written form of a kind of stage. -/
def StageKind.label : StageKind → String
  | .source => "source"
  | .join => "join"
  | .filter => "filter"
  | .aggregate => "aggregate"
  | .target => "target"
  | .lookup => "lookup"
  | .transform => "transform"

instance : Choice StageKind where
  options := [.source, .join, .filter, .aggregate, .target, .lookup, .transform]
  label := StageKind.label

/-- The name of the payload of a kind of stage. -/
def StageKind.model : StageKind → String
  | .source => "SourceNodeData"
  | .join => "JoinNodeData"
  | .filter => "FilterNodeData"
  | .aggregate => "AggregateNodeData"
  | .transform => "TransformNodeData"
  | .lookup => "LookupNodeData"
  | .target => "TargetNodeData"

/-- The fields of the payload of a kind of stage. -/
def StageKind.fields : StageKind → List Field
  | .source =>
    [Fields.table, Fields.schema, Fields.query, Fields.connectionString, Fields.dbEngine]
  | .join =>
    [Fields.joinKind, Fields.leftTable, Fields.rightTable, Fields.leftColumn, Fields.rightColumn,
      Fields.joinCondition]
  | .filter => [Fields.conditions]
  | .aggregate => [Fields.groupBy, Fields.aggregations]
  | .transform => [Fields.transforms]
  | .lookup =>
    [Fields.lookupTable, Fields.lookupSchema, Fields.sourceColumns, Fields.lookupColumns,
      Fields.returnColumns]
  | .target =>
    [Fields.table, Fields.schema, Fields.connectionString, Fields.dbEngine, Fields.loadStrategy]

/-- The field of a payload that holds records of its own, and the fields of these. -/
def StageKind.parts? : StageKind → Option (Field × List Field)
  | .filter => some (Fields.conditions, Fields.ofCondition)
  | .aggregate => some (Fields.aggregations, Fields.ofAggregation)
  | .transform => some (Fields.transforms, Fields.ofTransform)
  | .source | .join | .lookup | .target => none

/-- The kinds of joins. -/
inductive JoinKind where
  | inner
  | left
  | right
  | full
  deriving DecidableEq, Repr

instance : Choice JoinKind where
  options := [.inner, .left, .right, .full]
  label
    | .inner => "inner"
    | .left => "left"
    | .right => "right"
    | .full => "full"

/-- The aggregate functions. -/
inductive AggregateFunction where
  | sum
  | count
  | avg
  | min
  | max
  deriving DecidableEq, Repr

/-- The name of an aggregate function. -/
def AggregateFunction.name : AggregateFunction → String
  | .sum => "sum"
  | .count => "count"
  | .avg => "avg"
  | .min => "min"
  | .max => "max"

/-- The name of an aggregate function as SQL writes it. -/
def AggregateFunction.capitals : AggregateFunction → String
  | .sum => "SUM"
  | .count => "COUNT"
  | .avg => "AVG"
  | .min => "MIN"
  | .max => "MAX"

instance : Choice AggregateFunction where
  options := [.sum, .count, .avg, .min, .max]
  label := AggregateFunction.name

/-- How a target table is loaded. -/
inductive LoadStrategy where
  | truncate
  | append
  | upsert
  deriving DecidableEq, Repr

instance : Choice LoadStrategy where
  options := [.truncate, .append, .upsert]
  label
    | .truncate => "TRUNCATE"
    | .append => "APPEND"
    | .upsert => "UPSERT"

/-- The kinds of column transformations. -/
inductive TransformKind where
  | basic
  | sorter
  | expression
  | dataCleansing
  | rank
  | sequenceGenerator
  | windowFunctions
  | normalizer
  | jsonReader
  | geolocation
  | dataValidation
  | deduplication
  deriving DecidableEq, Repr

/-- The written form of a kind of transformation. -/
def TransformKind.label : TransformKind → String
  | .basic => "basic"
  | .sorter => "sorter"
  | .expression => "expression"
  | .dataCleansing => "data_cleansing"
  | .rank => "rank"
  | .sequenceGenerator => "sequence_generator"
  | .windowFunctions => "window_functions"
  | .normalizer => "normalizer"
  | .jsonReader => "json_parser"
  | .geolocation => "geolocation"
  | .dataValidation => "data_validation"
  | .deduplication => "deduplication"

instance : Choice TransformKind where
  options := [.basic, .sorter, .expression, .dataCleansing, .rank, .sequenceGenerator,
    .windowFunctions, .normalizer, .jsonReader, .geolocation, .dataValidation, .deduplication]
  label := TransformKind.label

/-- An optional text that is present and not empty. -/
def filled? : Option String → Option String
  | some "" => none
  | other => other

/-- Where a pipeline reads from: a free-form query, or a table in an optional schema. A query that
is not empty takes precedence. -/
structure Source where
  table : Option String := none
  schema : Option String := none
  query : Option String := none
  connectionString : Option String := none
  dbEngine : Option String := none

/-- How a second table is joined. -/
structure Join where
  kind : JoinKind := .inner
  leftTable : Option String := none
  rightTable : Option String := none
  leftColumn : Option String := none
  rightColumn : Option String := none
  condition : Option String := none

/-- Which rows pass. -/
structure Filter where
  conditions : List Condition := []

/-- One aggregated column. -/
structure Aggregation where
  column : String
  function : AggregateFunction
  columnAlias : Option String := none

/-- Grouping and aggregation. -/
structure Aggregate where
  groupBy : Option (List String) := none
  aggregations : List Aggregation := []

/-- One column transformation. -/
structure Transform where
  targetColumn : String := ""
  expression : String := ""
  columns : Option (List String) := none
  separator : Option String := none
  kind : Option TransformKind := none
  config : Mapping := []

/-- A list of column transformations. -/
structure TransformList where
  transforms : List Transform := []

/-- A look-up in another table. -/
structure Lookup where
  table : Option String := none
  schema : Option String := none
  sourceColumns : List String := []
  lookupColumns : List String := []
  returnColumns : List String := []

/-- Where a pipeline writes to. -/
structure Target where
  table : Option String := none
  schema : Option String := none
  connectionString : Option String := none
  dbEngine : Option String := none
  loadStrategy : Option LoadStrategy := none

/-- The payloads of a kind of stage. -/
abbrev Payload : StageKind → Type
  | .source => Source
  | .join => Join
  | .filter => Filter
  | .aggregate => Aggregate
  | .transform => TransformList
  | .lookup => Lookup
  | .target => Target

/-- A payload of some kind. -/
structure Held where
  kind : StageKind
  payload : Payload kind

/-- The first of some fields that a payload does not have. -/
def Held.missing? (held : Held) (fields : List Field) : Option MissingField :=
  (fields.find? fun field => !held.kind.fields.contains field).map fun field =>
    ⟨held.kind.model, field.plain⟩

/-- A stage: its kind with the payload of that kind, or with one of another kind. -/
inductive Stage where
  | source (payload : Source)
  | join (payload : Join)
  | filter (payload : Filter)
  | aggregate (payload : Aggregate)
  | transform (payload : TransformList)
  | lookup (payload : Lookup)
  | target (payload : Target)
  | misfit (kind : StageKind) (held : Held) (apart : held.kind ≠ kind)

namespace Stage

/-- The kind of a stage. -/
def kind : Stage → StageKind
  | source _ => .source
  | join _ => .join
  | filter _ => .filter
  | aggregate _ => .aggregate
  | transform _ => .transform
  | lookup _ => .lookup
  | target _ => .target
  | misfit kind _ _ => kind

/-- The payload of a stage. -/
def held : Stage → Held
  | source payload => ⟨.source, payload⟩
  | join payload => ⟨.join, payload⟩
  | filter payload => ⟨.filter, payload⟩
  | aggregate payload => ⟨.aggregate, payload⟩
  | transform payload => ⟨.transform, payload⟩
  | lookup payload => ⟨.lookup, payload⟩
  | target payload => ⟨.target, payload⟩
  | misfit _ held _ => held

/-- The stage of the kind of a payload. -/
def ofHeld : Held → Stage
  | ⟨.source, payload⟩ => source payload
  | ⟨.join, payload⟩ => join payload
  | ⟨.filter, payload⟩ => filter payload
  | ⟨.aggregate, payload⟩ => aggregate payload
  | ⟨.transform, payload⟩ => transform payload
  | ⟨.lookup, payload⟩ => lookup payload
  | ⟨.target, payload⟩ => target payload

/-- The stage of a kind that holds a payload. -/
def holding (kind : StageKind) (held : Held) : Stage :=
  if apart : held.kind ≠ kind then misfit kind held apart else ofHeld held

/-- A stage holds the payload of its own kind. -/
def Fits (stage : Stage) : Prop := stage.held.kind = stage.kind

instance (stage : Stage) : Decidable stage.Fits :=
  inferInstanceAs (Decidable (_ = _))

@[simp] theorem held_ofHeld (held : Held) : (ofHeld held).held = held := by
  rcases held with ⟨kind, payload⟩
  cases kind <;> rfl

@[simp] theorem kind_ofHeld (held : Held) : (ofHeld held).kind = held.kind := by
  rcases held with ⟨kind, payload⟩
  cases kind <;> rfl

@[simp] theorem kind_holding (kind : StageKind) (held : Held) : (holding kind held).kind = kind := by
  unfold holding
  split
  · rfl
  · next same => rw [kind_ofHeld, Decidable.of_not_not same]

@[simp] theorem held_holding (kind : StageKind) (held : Held) : (holding kind held).held = held := by
  unfold holding
  split
  · rfl
  · exact held_ofHeld held

/-- A stage is determined by its kind and its payload. -/
theorem holding_held (stage : Stage) : holding stage.kind stage.held = stage := by
  cases stage with
  | misfit kind held apart => exact dif_pos apart
  | _ => rfl

theorem fits_holding_iff {kind : StageKind} {held : Held} :
    (holding kind held).Fits ↔ held.kind = kind := by
  rw [Fits, kind_holding, held_holding]

end Stage

end SqlPipeline
