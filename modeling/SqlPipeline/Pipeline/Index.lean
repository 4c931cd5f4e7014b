import SqlPipeline.Log.Event
import SqlPipeline.Pipeline.Error
import SqlPipeline.Pipeline.Graph

/-!
# The index of a graph

Nodes are looked up by id, the first of several nodes with one id being the node with that id. Edges
count only between ids that some node has; the others are skipped and reported. Successors keep the
order of the edges, repetitions included.
-/

namespace SqlPipeline

/-- The nodes by id and the edges between them. -/
structure GraphIndex where
  nodes : List Node
  edges : List Edge

namespace Graph

/-- Whether some node has an id. -/
def hasNode (graph : Graph) (id : String) : Bool :=
  graph.nodes.any fun node => node.id == id

/-- Whether both ends of an edge are nodes of the graph. -/
def connects (graph : Graph) (edge : Edge) : Bool :=
  graph.hasNode edge.source && graph.hasNode edge.target

/-- The nodes without those whose id came before. -/
def firstById : List Node → List Node
  | [] => []
  | node :: rest => node :: (firstById rest).filter fun other => other.id != node.id

/-- The index of a graph. -/
def index (graph : Graph) : GraphIndex :=
  ⟨firstById graph.nodes, graph.edges.filter graph.connects⟩

/-- The report on edges that are skipped. -/
def skippedEdges (graph : Graph) : List Event :=
  (graph.edges.filter fun edge => !graph.connects edge).map fun edge =>
    { level := .debug
      message := "Skipping edge with unknown endpoint"
      details :=
        [("edge", .str edge.id), ("source", .str edge.source), ("target", .str edge.target)] }

/-- The source of a graph: the first source node. Further ones are reported. -/
def findSource (graph : Graph) : Traced PipelineError Node :=
  match graph.sources with
  | [] => .fail (.missingSource PipelineError.noSourceMessage)
  | [source] => pure source
  | source :: others => do
    Traced.tell .warning "Graph has more than one source node, using the first"
      [("sources", .texts ((source :: others).map Node.id))]
    return source

end Graph

namespace GraphIndex

/-- The node with an id. -/
def node? (index : GraphIndex) (id : String) : Option Node :=
  index.nodes.find? fun node => node.id == id

/-- The ids that directly follow an id, in the order of the edges. -/
def successors (index : GraphIndex) (id : String) : List String :=
  (index.edges.filter fun edge => edge.source == id).map Edge.target

/-- All ids, each once. -/
def ids (index : GraphIndex) : List String :=
  index.nodes.map Node.id

/-- The ids with successors, in the order of their first edges, and their successors. -/
def adjacency (index : GraphIndex) : List (String × List String) :=
  let sources := index.edges.map Edge.source
  sources.eraseDups.map fun id => (id, index.successors id)

end GraphIndex

end SqlPipeline
