import SqlPipeline.Pipeline.Stage

/-!
# Pipeline graphs

A pipeline is a list of nodes and a list of directed edges between them, as drawn in an editor.
Nothing is required of the edges: they may dangle, repeat and form cycles, and node ids may repeat.
-/

namespace SqlPipeline

/-- A coordinate on the canvas: chosen by somebody, or left alone. -/
inductive Coordinate where
  | untouched
  | chosen (x : Float)

/-- A place on the canvas. -/
structure Position where
  x : Coordinate := .untouched
  y : Coordinate := .untouched

/-- A position with both coordinates chosen. -/
def Position.ofFloats (x y : Float) : Position := ⟨.chosen x, .chosen y⟩

/-- A node: a stage with an id and a position. -/
structure Node where
  id : String
  stage : Stage
  position : Position := {}

/-- The kind of a node's stage. -/
def Node.kind (node : Node) : StageKind := node.stage.kind

/-- An edge: the output of `source` feeds `target`. -/
structure Edge where
  id : String
  source : String
  target : String
  sourceHandle : Option String := none
  targetHandle : Option String := none

/-- A pipeline graph. -/
structure Graph where
  nodes : List Node := []
  edges : List Edge := []

namespace Graph

/-- The first node with an id. -/
def node? (graph : Graph) (id : String) : Option Node :=
  graph.nodes.find? fun node => node.id == id

/-- The source nodes, in order. -/
def sources (graph : Graph) : List Node :=
  graph.nodes.filter fun node => node.kind == .source

/-- Whether there is neither node nor edge. -/
def isEmpty (graph : Graph) : Bool :=
  graph.nodes.isEmpty && graph.edges.isEmpty

end Graph

end SqlPipeline
