import SqlPipeline.Runner.Document
import SqlPipeline.Sql.Recovery
import SqlPipeline.Sql.Statement
import SqlPipeline.Validation.Settings
import SqlPipeline.Value.Stored

/-!
# Editing sessions

A session holds a graph, a statement and settings, and keeps graph and statement in step on request:
one is compiled from the other or recovered from it. A graph can be put away and taken out again,
which only its free settings may notice. Requests are answered one after the other, and one that
fails leaves the session as it is.
-/

namespace SqlPipeline

/-- Why a request fails. -/
inductive SessionError where
  | invalid (model : String) (faults : List Fault)
  | pipeline (error : PipelineError)
  | recovery (error : RecoveryError)
  | runner (error : Runner.RunnerError)
  | unknownNode (error : GraphIndex.UnknownNode)
  | tooDeep (error : TooDeep)

/-- A payload as it comes back after being put away. -/
def Held.stored : Held → Except TooDeep Held
  | ⟨.transform, list⟩ => do
    let transforms ← list.transforms.mapM fun transform => do
      return { transform with config := ← transform.config.stored }
    return ⟨.transform, ⟨transforms⟩⟩
  | other => .ok other

/-- A stage as it comes back after being put away. -/
def Stage.stored (stage : Stage) : Except TooDeep Stage :=
  stage.held.stored.map (.holding stage.kind)

/-- A graph as it comes back after being put away. -/
def Graph.stored (graph : Graph) : Except TooDeep Graph := do
  let nodes ← graph.nodes.mapM fun node => do return { node with stage := ← node.stage.stored }
  return { graph with nodes := nodes }

/-- A graph, a statement and settings. -/
structure Session where
  graph : Graph := {}
  sql : String := ""
  settings : Settings := {}

namespace Session

/-- What can be asked of a session. -/
inductive Request where
  | setSettings (document : Value)
  | setGraph (document : Value)
  | addNode (document : Value)
  | addEdge (document : Value)
  | setSql (sql : String)
  | compile
  | recover
  | reload
  | transformations
  | reachable (id : String)

/-- A checked document, or its faults under the name of its model. -/
def accept {α : Type} (model : String) : Checked α → Traced SessionError α
  | .valid value => pure value
  | .invalid first later => .fail (.invalid model (first :: later))

/-- The ids of nodes and edges. -/
def outline (graph : Graph) : Value :=
  .record [("nodes", .texts (graph.nodes.map Node.id)), ("edges", .texts (graph.edges.map Edge.id))]

/-- The session with another graph, and the outline of that graph. -/
def withGraph (session : Session) (graph : Graph) : Session × Value :=
  ({ session with graph := graph }, outline graph)

/-- Answers a request: the session afterwards and the answer. -/
def answer (session : Session) : Request → Traced SessionError (Session × Value)
  | .setSettings document => do
    let settings ← accept "SyncSettings" (Settings.read document)
    return ({ session with settings := settings }, settings.dump {})
  | .setGraph document => do
    return session.withGraph (← accept "PipelineGraph" (Graph.read document))
  | .addNode document => do
    let node ← accept "PipelineNode" (Node.read document)
    return session.withGraph { session.graph with nodes := session.graph.nodes ++ [node] }
  | .addEdge document => do
    let edge ← accept "PipelineEdge" (Edge.read document)
    return session.withGraph { session.graph with edges := session.graph.edges ++ [edge] }
  | .setSql sql => return ({ session with sql := sql }, .str sql)
  | .compile => do
    let sql ← (session.graph.compile session.settings).mapError .pipeline
    return ({ session with sql := sql }, .str sql)
  | .recover => do
    let graph ← (recover session.settings session.sql).mapError .recovery
    return ({ session with graph := graph }, graph.dump {})
  | .reload => do
    let stored ← (Traced.ofExcept session.graph.stored).mapError .tooDeep
    let graph ← accept "PipelineGraph" (Graph.read (stored.dump {}))
    return ({ session with graph := graph }, graph.dump {})
  | .transformations => do
    return (session, ← (Runner.document session.graph).mapError .runner)
  | .reachable id => do
    Traced.tellAll session.graph.skippedEdges
    let ids ← (Traced.ofExcept (session.graph.index.reachableFrom id)).mapError .unknownNode
    return (session, .texts ids)

/-- The reply to a request. -/
def reply (session : Session) (request : Request) : Traced SessionError Value := do
  let (_, value) ← session.answer request
  return value

/-- The session after a request, the same one when the request fails. -/
def next (session : Session) (request : Request) : Session :=
  match (session.answer request).outcome with
  | .ok (next, _) => next
  | .error _ => session

/-- The session after some requests. -/
def after (session : Session) (requests : List Request) : Session :=
  requests.foldl next session

/-- The replies to some requests, each by the session that those before it leave. -/
def replies (session : Session) : List Request → List (Traced SessionError Value)
  | [] => []
  | request :: rest => session.reply request :: (session.next request).replies rest

end Session

end SqlPipeline
