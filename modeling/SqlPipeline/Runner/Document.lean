import SqlPipeline.Log.Event
import SqlPipeline.Pipeline.Graph
import SqlPipeline.Runner.Typed

/-!
# The transformation document

The job runner does not execute SQL. It takes a document with one entry for each configured stage,
in the order of the nodes. Sources and targets have no entries; other stages without settings are
reported and left out.
-/

namespace SqlPipeline

/-- The fields that the entries of a stage are made of, in the order in which they are read. -/
def StageKind.entryFields : StageKind → List Field
  | .transform => [Fields.transforms]
  | .filter => [Fields.conditions]
  | .aggregate => [Fields.aggregations, Fields.groupBy]
  | .join => [Fields.leftColumn, Fields.rightColumn, Fields.joinKind]
  | .lookup =>
    [Fields.lookupTable, Fields.sourceColumns, Fields.lookupSchema, Fields.lookupColumns,
      Fields.returnColumns]
  | .source | .target => []

namespace Runner

/-- An entry: its type and its settings. -/
def entry (type : String) (config : List (String × Value)) : Value :=
  .record [("type", .str type), ("config", .record config)]

/-- The entry of a column transformation. Without a kind it is a basic one. -/
def transformEntry (transform : Transform) : Except RunnerError Value :=
  match transform.kind.getD .basic with
  | .basic =>
    .ok (entry "transform" [("target_column", .str transform.targetColumn),
      ("expression", .str transform.expression),
      ("columns", (transform.columns.map Value.texts).getD .null),
      ("separator", .optional transform.separator)])
  | kind => (typedSettings kind transform.config).map (entry kind.label)

/-- A condition in a filter entry. -/
def conditionEntry (condition : Condition) : Value :=
  .record [("column", .str condition.column), ("op", .str condition.op.symbol),
    ("value", condition.value.toValue)]

/-- An aggregated column in an aggregate entry. Without an alias of its own it is named after the
column and the function. -/
def aggregationEntry (aggregation : Aggregation) : Value :=
  let columnAlias :=
    (filled? aggregation.columnAlias).getD (aggregation.column ++ "_" ++ aggregation.function.name)
  .record [("column", .str aggregation.column), ("function", .str aggregation.function.name),
    ("alias", .str columnAlias)]

/-- The entries of a stage; nothing for stages that never have any, whatever they hold. -/
def stageEntries? : Stage → Option (Except RunnerError (List Value))
  | .source _ | .target _ => none
  | .transform stage => some (stage.transforms.mapM transformEntry)
  | .filter filter =>
    some <| .ok <|
      if filter.conditions.isEmpty then []
      else [entry "filter" [("conditions", .list (filter.conditions.map conditionEntry))]]
  | .aggregate aggregate =>
    some <| .ok <|
      if aggregate.aggregations.isEmpty then []
      else [entry "aggregate" [("group_by", .texts (aggregate.groupBy.getD [])),
        ("aggregations", .list (aggregate.aggregations.map aggregationEntry))]]
  | .join join =>
    some <| .ok <|
      match filled? join.leftColumn, filled? join.rightColumn with
      | some leftColumn, some rightColumn =>
        [entry "join" [("join_type", .str (Choice.label join.kind)),
          ("left_columns", .texts [leftColumn]), ("right_columns", .texts [rightColumn])]]
      | _, _ => []
  | .lookup lookup =>
    some <| .ok <|
      match filled? lookup.table with
      | some table =>
        if lookup.sourceColumns.isEmpty then []
        else [entry "lookup" [("lookup_table", .str table),
          ("lookup_schema", .str (lookup.schema.getD "")),
          ("source_columns", .texts lookup.sourceColumns),
          ("lookup_columns", .texts lookup.lookupColumns),
          ("return_columns", .texts lookup.returnColumns)]]
      | none => []
  | .misfit kind held _ =>
    (held.missing? kind.entryFields).map fun missing => .error (.missingField missing)

/-- The report on a node that could have entries and has none. -/
def withoutEntries (node : Node) : Event :=
  { level := .debug
    message := "Node has no transformation settings"
    details := [("node", .str node.id), ("type", .str node.kind.label)] }

/-- The entries of a node. -/
def nodeEntries (node : Node) : Traced RunnerError (List Value) :=
  match stageEntries? node.stage with
  | none => pure []
  | some result => do
    let entries ← Traced.ofExcept result
    Traced.tellAll (if entries.isEmpty then [withoutEntries node] else [])
    return entries

/-- The entries of nodes in order. -/
def entries : List Node → Traced RunnerError (List Value)
  | [] => pure []
  | node :: rest => do
    let own ← nodeEntries node
    return own ++ (← entries rest)

/-- The transformation document of a graph. -/
def document (graph : Graph) : Traced RunnerError Value := do
  return .record [("transformations", .list (← entries graph.nodes))]

end Runner

end SqlPipeline
