import SqlPipeline.Validation.Payload

/-!
# Reading and writing graphs

The payload of a node is read by the kind of the node. Its faults are then the only faults of the
node, and they are placed as if its fields were fields of the node. When no text names the kind, the
fields of the node are checked one by one instead, and the payload only has to fit some kind: of the
kinds that it fits, the one whose payload has most fields given. Bytes are no text here, although the
`type` field takes them for the text that they encode; so a node with such a `type` is accepted, and
its payload can be one of another kind.
-/

namespace SqlPipeline

open Value (readText readList readChoice readRecord readNumber)

namespace Fields

def x : Field := .named "x"
def y : Field := .named "y"
def id : Field := .named "id"
def type : Field := .named "type"
def data : Field := .named "data"
def position : Field := .named "position"
def source : Field := .named "source"
def target : Field := .named "target"
def sourceHandle : Field := ⟨"sourceHandle", "source_handle"⟩
def targetHandle : Field := ⟨"targetHandle", "target_handle"⟩
def nodes : Field := .named "nodes"
def edges : Field := .named "edges"

end Fields

namespace Coordinate

/-- Reads a coordinate. -/
def read (value : Value) : Checked Coordinate :=
  .chosen <$> readNumber value

/-- Writes a coordinate; one that was left alone is the whole number zero. -/
def dump : Coordinate → Value
  | .untouched => .int 0
  | .chosen x => .float x

end Coordinate

namespace Position

/-- Reads a position. -/
def read : Value → Checked Position :=
  readRecord "Position" fun entries =>
    Position.mk <$> Fields.x.orElse .untouched Coordinate.read entries
      <*> Fields.y.orElse .untouched Coordinate.read entries

/-- The fields of a position as they are written. -/
def fields (position : Position) : List (Field × Value) :=
  [(Fields.x, position.x.dump), (Fields.y, position.y.dump)]

/-- Writes a position. -/
def dump (style : DumpStyle) (position : Position) : Value :=
  style.record position.fields

end Position

/-- The kinds of stages in the order in which a payload of unknown kind is tried: a source first. -/
def StageKind.payloadOrder : List StageKind :=
  [.source, .join, .filter, .aggregate, .transform, .lookup, .target]

namespace Value

/-- How many of the given fields a document has. -/
def given (fields : List Field) : Value → Nat
  | .map entries => (fields.filter fun field => (field.find? entries).isSome).length
  | _ => 0

/-- The items of the list at a field of a document. -/
def itemsAt (field : Field) : Value → List Value
  | .map entries => (((field.find? entries).map Prod.snd).bind items?).getD []
  | _ => []

/-- How many of the given fields the records at a field of a document have, taken together. -/
def givenAt (part : Field) (fields : List Field) (document : Value) : Nat :=
  ((document.itemsAt part).map (given fields)).foldl (· + ·) 0

end Value

namespace Held

/-- Reads the payload of a kind of stage. -/
def readPayload (kind : StageKind) (entries : Mapping) : Checked Held :=
  match kind with
  | .source => .mk .source <$> Source.read entries
  | .join => .mk .join <$> Join.read entries
  | .filter => .mk .filter <$> Filter.read entries
  | .aggregate => .mk .aggregate <$> Aggregate.read entries
  | .transform => .mk .transform <$> TransformList.read entries
  | .lookup => .mk .lookup <$> Lookup.read entries
  | .target => .mk .target <$> Target.read entries

/-- Reads a payload by itself. -/
def read (kind : StageKind) : Value → Checked Held :=
  readRecord kind.model (readPayload kind)

/-- Writes a payload. -/
def dump (style : DumpStyle) : Held → Value
  | ⟨.source, payload⟩ => Source.dump style payload
  | ⟨.join, payload⟩ => Join.dump style payload
  | ⟨.filter, payload⟩ => Filter.dump style payload
  | ⟨.aggregate, payload⟩ => Aggregate.dump style payload
  | ⟨.transform, payload⟩ => TransformList.dump style payload
  | ⟨.lookup, payload⟩ => Lookup.dump style payload
  | ⟨.target, payload⟩ => Target.dump style payload

/-- The kind of a payload is the kind that it was read for. -/
theorem kind_of_readPayload {kind : StageKind} {entries : Mapping} {held : Held}
    (found : readPayload kind entries = .valid held) : held.kind = kind := by
  have kind_of_map {payload : Checked (Payload kind)} (mapped : .mk kind <$> payload = .valid held) :
      held.kind = kind := by
    cases payload with
    | valid payload =>
      cases mapped
      rfl
    | invalid first later => cases mapped
  cases kind <;> exact kind_of_map found

/-- How many fields are given when a document is read as a payload, in the payload itself and in the
records that it holds. -/
def weight (kind : StageKind) (document : Value) : Nat :=
  let inner :=
    match kind.parts? with
    | some (part, fields) => document.givenAt part fields
    | none => 0
  document.given kind.fields + inner

/-- Reads a payload by itself as one of several alternatives, and weighs it. -/
def attempt (document : Value) (kind : StageKind) : Checked (Nat × Held) :=
  (fun held => (weight kind document, held)) <$> (read kind document).under (.field kind.model)

/-- Reads a payload whose kind is not known. -/
def readAny (document : Value) : Checked Held :=
  let others := StageKind.payloadOrder.tail.map (attempt document)
  Prod.snd <$> others.foldl Checked.better (attempt document .source)

end Held

/-- Writes the payload of a stage. -/
def Stage.dump (style : DumpStyle) (stage : Stage) : Value := stage.held.dump style

namespace Node

/-- What a node is given as its payload: nothing, a document, or a payload that was read before. -/
inductive Data where
  | absent
  | document (value : Value)
  | built (held : Held)

/-- The payload given under the `data` field of a document. -/
def Data.ofEntries (entries : Mapping) : Data :=
  match entries.field? "data" with
  | some value => .document value
  | none => .absent

/-- The kind that the `type` field of a document names in a text. A `type` in bytes names none. -/
def kindOf? (entries : Mapping) : Option StageKind :=
  match entries.field? "type" with
  | some (.str name) => Choice.ofLabel? name
  | _ => none

/-- The complaint about a payload that does not belong to the kind of the node. -/
def foreign (entries : Mapping) (kind : StageKind) (got : String) : Complaint :=
  let id := (entries.field? "id").getD .null
  if id.isWritable then .foreignPayload id.display kind.label kind.model got else .unwritable

/-- Reads the payload of a node of known kind. The editor repeats the kind inside the payload. -/
def readHeld (entries : Mapping) (kind : StageKind) : Data → Checked Held
  | .absent | .document .null => Held.readPayload kind []
  | .document (.map payload) => Held.readPayload kind (Mapping.erase "type" payload)
  | .document other => .complain (foreign entries kind other.kindName)
  | .built held =>
    if held.kind = kind then .valid held else .complain (foreign entries kind held.kind.model)

/-- Reads the payload of a node whose kind is not known. -/
def readAnyHeld : Data → Checked Held
  | .absent => (Checked.complain .missing).under (.field Fields.data.wire)
  | .document value => (Held.readAny value).under (.field Fields.data.wire)
  | .built held => .valid held

/-- Reads a node whose payload is given apart. -/
def readWith (data : Data) (entries : Mapping) : Checked Node :=
  let id := Fields.id.required readText entries
  let position := Fields.position.orElse {} Position.read entries
  let node (kind : StageKind) (held : Held) (id : String) (position : Position) : Node :=
    ⟨id, .holding kind held, position⟩
  match kindOf? entries with
  | some kind =>
    (readHeld entries kind data).andThen fun held => node kind held <$> id <*> position
  | none =>
    (fun id kind held => node kind held id) <$> id
      <*> Fields.type.required (readChoice StageKind) entries
      <*> readAnyHeld data
      <*> position

/-- Reads a node. -/
def read : Value → Checked Node :=
  readRecord "PipelineNode" fun entries => readWith (Data.ofEntries entries) entries

/-- The fields of a node as they are written. -/
def fields (style : DumpStyle) (node : Node) : List (Field × Value) :=
  [(Fields.id, .str node.id), (Fields.type, .choice node.kind),
    (Fields.data, node.stage.dump style), (Fields.position, node.position.dump style)]

/-- Writes a node. -/
def dump (style : DumpStyle) (node : Node) : Value :=
  style.record (fields style node)

end Node

namespace Edge

/-- Reads an edge. -/
def read : Value → Checked Edge :=
  readRecord "PipelineEdge" fun entries =>
    Edge.mk <$> Fields.id.required readText entries
      <*> Fields.source.required readText entries
      <*> Fields.target.required readText entries
      <*> Fields.sourceHandle.textOrNone entries
      <*> Fields.targetHandle.textOrNone entries

/-- The fields of an edge as they are written. -/
def fields (edge : Edge) : List (Field × Value) :=
  [(Fields.id, .str edge.id), (Fields.source, .str edge.source), (Fields.target, .str edge.target),
    (Fields.sourceHandle, .optional edge.sourceHandle),
    (Fields.targetHandle, .optional edge.targetHandle)]

/-- Writes an edge. -/
def dump (style : DumpStyle) (edge : Edge) : Value :=
  style.record edge.fields

end Edge

namespace Graph

/-- Reads a graph. -/
def read : Value → Checked Graph :=
  readRecord "PipelineGraph" fun entries =>
    Graph.mk <$> Fields.nodes.orElse [] (readList Node.read) entries
      <*> Fields.edges.orElse [] (readList Edge.read) entries

/-- The fields of a graph as they are written. -/
def fields (style : DumpStyle) (graph : Graph) : List (Field × Value) :=
  [(Fields.nodes, .list (graph.nodes.map (Node.dump style))),
    (Fields.edges, .list (graph.edges.map (Edge.dump style)))]

/-- Writes a graph. -/
def dump (style : DumpStyle) (graph : Graph) : Value :=
  style.record (fields style graph)

end Graph

end SqlPipeline
