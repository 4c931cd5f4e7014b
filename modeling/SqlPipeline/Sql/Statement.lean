import SqlPipeline.Pipeline.Cycle
import SqlPipeline.Settings
import SqlPipeline.Sql.Literal

/-!
# Compiling a graph to one statement

The statement starts as a selection of everything from the base relation. The nodes below the source
are taken in depth-first order, and each adds its clause: a join, a filter, or a grouping. The first
aggregate with columns also takes the place of the star in the select list, by replacing the first
occurrence of `SELECT *` in the text. A `Draft` is the statement under way. It cannot grow by a number
with too many digits, nor by a node whose payload lacks the fields that its clause is made of.
-/

namespace SqlPipeline

/-- The fields that the relation of a source is made of, in the order in which they are read. -/
def Source.baseFields : List Field := [Fields.query, Fields.table, Fields.schema]

/-- The fields that the clause of a stage is made of, in the order in which they are read. -/
def StageKind.clauseFields : StageKind → List Field
  | .join =>
    [Fields.joinKind, Fields.leftTable, Fields.rightTable, Fields.joinCondition, Fields.leftColumn,
      Fields.rightColumn]
  | .filter => [Fields.conditions]
  | .aggregate => [Fields.groupBy, Fields.aggregations]
  | .source | .target | .lookup | .transform => []

/-- A statement under way, with the numbers of filters and aggregates so far. -/
structure Draft where
  sql : String
  filters : Nat := 0
  aggregates : Nat := 0

namespace Draft

/-- The relation that a source reads from. -/
def baseRelation (id : String) (source : Source) : Except PipelineError String :=
  match filled? source.query with
  | some query => .ok ("(" ++ query ++ ")")
  | none =>
    match filled? source.table with
    | some table =>
      match filled? source.schema with
      | some schema => .ok (quoteIdentifier schema ++ "." ++ quoteIdentifier table)
      | none => .ok (quoteIdentifier table)
    | none => .error (.invalidSource (some id) PipelineError.emptySourceMessage)

/-- The base relation of a node; only sources have one. -/
def baseOf (node : Node) : Except PipelineError String :=
  match node.stage with
  | .source payload => baseRelation node.id payload
  | .misfit _ held _ =>
    match held.missing? Source.baseFields with
    | some missing => .error (.missingField missing)
    | none => baseRelation node.id {}
  | _ => baseRelation node.id {}

/-- The selection of everything from a relation. -/
def selectAll (relation sourceAlias : String) : Draft :=
  { sql := "SELECT * FROM " ++ relation ++ " AS " ++ sourceAlias }

/-- The word for a kind of join. -/
def joinWord : JoinKind → String
  | .inner => "INNER"
  | .left => "LEFT"
  | .right => "RIGHT"
  | .full => "FULL OUTER"

/-- The condition of a join: the given one, or the equality of two columns, or one that always
holds. -/
def joinCondition (sourceAlias : String) (join : Join) : String :=
  match filled? join.condition, filled? join.leftColumn, filled? join.rightColumn with
  | some condition, _, _ => condition
  | none, some leftColumn, some rightColumn =>
    (filled? join.leftTable).getD sourceAlias ++ "." ++ leftColumn ++ " = " ++
      join.rightTable.getD "" ++ "." ++ rightColumn
  | _, _, _ => "1=1"

/-- The clause of a join. -/
def joinClause (sourceAlias : String) (join : Join) : String :=
  " " ++ joinWord join.kind ++ " JOIN " ++ join.rightTable.getD "" ++ " ON " ++
    joinCondition sourceAlias join

/-- The clause of a filter with conditions, as long as their numbers can be written. -/
def filterClause (conditions : List Condition) : String :=
  " WHERE " ++ " AND ".intercalate (conditions.map Condition.toSql)

/-- One aggregated column of a select list. Without an alias of its own the column is named after
the function and the column. -/
def aggregateColumn (aggregation : Aggregation) : String :=
  let columnAlias :=
    (filled? aggregation.columnAlias).getD (aggregation.function.name ++ "_" ++ aggregation.column)
  aggregation.function.capitals ++ "(" ++ aggregation.column ++ ") AS " ++ columnAlias

/-- The select list of an aggregate: grouping columns, then aggregated columns. -/
def selectList (aggregate : Aggregate) : List String :=
  aggregate.groupBy.getD [] ++ aggregate.aggregations.map aggregateColumn

/-- The clause of a grouping, if there are grouping columns. -/
def groupingClause (aggregate : Aggregate) : String :=
  match aggregate.groupBy.getD [] with
  | [] => ""
  | columns => " GROUP BY " ++ ", ".intercalate columns

/-- The text whose first occurrence a select list replaces. -/
def star : List Char := "SELECT *".toList

/-- The statement with a select list in place of the first star. -/
def replaceStar (columns : List String) (sql : String) : String :=
  String.ofList
    (Text.replaceFirst star ("SELECT " ++ ", ".intercalate columns).toList sql.toList)

/-- Writes the clause of a filter with conditions, the numbers in which have to be short enough. -/
def renderFilter (conditions : List Condition) : Except PipelineError String := do
  return " WHERE " ++ " AND ".intercalate (← conditions.mapM Condition.render)

/-- Adds a filter. -/
def addFilter (id : String) (filter : Filter) (draft : Draft) : Traced PipelineError Draft :=
  if filter.conditions.isEmpty then pure draft
  else do
    if 0 < draft.filters then
      Traced.tell .warning "Multiple filter nodes each append their own WHERE clause"
        [("node", .str id)]
    let clause ← Traced.ofExcept (renderFilter filter.conditions)
    return { draft with sql := draft.sql ++ clause, filters := draft.filters + 1 }

/-- Adds an aggregate. -/
def addAggregate (id : String) (aggregate : Aggregate) (draft : Draft) :
    Traced PipelineError Draft :=
  let columns := selectList aggregate
  let selected := if columns.isEmpty then draft.sql else replaceStar columns draft.sql
  let next : Draft :=
    { draft with sql := selected ++ groupingClause aggregate, aggregates := draft.aggregates + 1 }
  if !columns.isEmpty && !Text.contains star draft.sql.toList then do
    Traced.tell .warning "Aggregate select list dropped, SELECT * already rewritten"
      [("node", .str id), ("aggregate_index", .int next.aggregates)]
    return next
  else pure next

/-- Adds the clause of a node. Sources, targets, look-ups and transforms add nothing, whatever they
hold; of other nodes the payload is read. -/
def add (sourceAlias : String) (node : Node) (draft : Draft) : Traced PipelineError Draft :=
  match node.stage with
  | .join join => pure { draft with sql := draft.sql ++ joinClause sourceAlias join }
  | .filter filter => addFilter node.id filter draft
  | .aggregate aggregate => addAggregate node.id aggregate draft
  | .misfit kind held _ =>
    match held.missing? kind.clauseFields with
    | some missing => .fail (.missingField missing)
    | none => pure draft
  | _ => pure draft

/-- Adds the clauses of nodes in order, reporting each node. -/
def addAll (sourceAlias : String) : List Node → Draft → Traced PipelineError Draft
  | [], draft => pure draft
  | node :: rest, draft => do
    Traced.tell .debug "Compiling node" [("node", .str node.id), ("type", .str node.kind.label)]
    addAll sourceAlias rest (← add sourceAlias node draft)

end Draft

namespace Graph

/-- The nodes that compilation visits below its source, in order. -/
def compiledNodes (graph : Graph) (source : Node) : List Node :=
  (graph.index.preorder source.id).filterMap graph.index.node?

/-- Compiles a graph to a statement. -/
def compile (settings : Settings) (graph : Graph) : Traced PipelineError String := do
  Traced.tellAll graph.skippedEdges
  let source ← graph.findSource
  let relation ← Traced.ofExcept (Draft.baseOf source)
  Traced.ofExcept (graph.index.checkCycles source.id)
  let nodes := graph.compiledNodes source
  let draft ← Draft.addAll settings.sourceAlias nodes (.selectAll relation settings.sourceAlias)
  Traced.tell .debug "Compiled pipeline graph"
    [("nodes", .int (nodes.length + 1)), ("sql", .str draft.sql)]
  return draft.sql

end Graph

end SqlPipeline
