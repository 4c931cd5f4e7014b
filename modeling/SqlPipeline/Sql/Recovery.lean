import SqlPipeline.Settings
import SqlPipeline.Sql.Aggregates
import SqlPipeline.Sql.Clause

/-!
# Recovering a graph from SQL

A statement with a reference to a table becomes a chain: source, filter if there are conditions,
aggregate if there is a grouping or an aggregate function, and target. `stages` finds the stages,
and `Graph.chain` numbers and places them. A statement without a reference to a table becomes the
empty graph.
-/

namespace SqlPipeline

namespace Graph

/-- Nodes for stages in order: each is named after its kind and its place in the chain. -/
def chainNodes (settings : Settings) (first : Nat) : List Stage → List Node
  | [] => []
  | stage :: stages =>
    ⟨stage.kind.label ++ "-" ++ toString first, stage, settings.positionFor stage.kind⟩ ::
      chainNodes settings (first + 1) stages

/-- Edges from each node to the next, numbered in order. -/
def chainEdges (first : Nat) : List Node → List Edge
  | node :: next :: rest =>
    { id := "edge-" ++ toString first, source := node.id, target := next.id } ::
      chainEdges (first + 1) (next :: rest)
  | _ => []

/-- The chain of the given stages. -/
def chain (settings : Settings) (stages : List Stage) : Graph :=
  let nodes := chainNodes settings 0 stages
  ⟨nodes, chainEdges 0 nodes⟩

end Graph

namespace Recovery

open Text

/-- The reference to a table without quotation marks. -/
def tableName (reference : List Char) : List Char :=
  without '\'' (without '"' (trim reference))

/-- The source stage for a reference to a table. With a point in the reference, what precedes the
first is the schema and what follows the last the table. A statement with parentheses is kept as a
whole. -/
def source (sql : String) (name : List Char) : Source :=
  let parts := splitOn '.' name
  { schema := if 1 < parts.length then parts.head?.map String.ofList else none
    table := parts.getLast?.map String.ofList
    query := if sql.toList.contains '(' && sql.toList.contains ')' then some sql else none }

/-- The filter stage for conditions, if there are any. -/
def filterOf (conditions : List Condition) : Traced RecoveryError (List Stage) :=
  if conditions.isEmpty then pure []
  else do
    Traced.tell .debug "Recognised filter" [("conditions", .int conditions.length)]
    return [.filter ⟨conditions⟩]

/-- The filter stage of a statement, if there are conditions. -/
def filter (sql : List Char) : Traced RecoveryError (List Stage) :=
  match Clause.filter? sql with
  | none => pure []
  | some body => do filterOf (← readConditions (Clause.trimBody body))

/-- The columns of a grouping. -/
def groupingColumns (body : List Char) : List String :=
  (splitOn ',' (Clause.trimBody body)).map fun column =>
    String.ofList (without '"' (trim column))

/-- The aggregate stage for the body of a grouping and a select list. -/
def aggregateOf (grouping : Option (List Char)) (selectList : List Char) :
    Traced RecoveryError (List Stage) := do
  let columns := (grouping.map groupingColumns).getD []
  let aggregations ← Traced.ofExcept (Aggregates.ofSelectList selectList)
  Traced.tell .debug "Recognised aggregate" [("group_by", .texts columns)]
  return [.aggregate ⟨if columns.isEmpty then none else some columns, aggregations⟩]

/-- The aggregate stage of a statement, if there is a grouping or an aggregate function. -/
def aggregate (sql : List Char) : Traced RecoveryError (List Stage) :=
  let grouping := Clause.grouping? sql
  let selectList := (Clause.selectList? sql).getD []
  if grouping.isSome || Aggregates.occurIn selectList then aggregateOf grouping selectList
  else pure []

/-- The stages of a statement whose table is known. -/
def stages (settings : Settings) (sql : String) (reference : List Char) :
    Traced RecoveryError (List Stage) := do
  let name := tableName reference
  Traced.tell .debug "Recognised source" [("table", .str (String.ofList name))]
  let filterStage ← filter sql.toList
  let aggregateStage ← aggregate sql.toList
  let target : Target := { loadStrategy := some settings.targetLoadStrategy }
  return .source (source sql name) :: filterStage ++ aggregateStage ++ [.target target]

end Recovery

/-- The graph that a statement describes. -/
def recover (settings : Settings) (sql : String) : Traced RecoveryError Graph :=
  match Clause.table? sql.toList with
  | none => do
    Traced.tell .debug "No FROM clause found, returning empty graph" []
    return {}
  | some reference => do
    return .chain settings (← Recovery.stages settings sql reference)

end SqlPipeline
