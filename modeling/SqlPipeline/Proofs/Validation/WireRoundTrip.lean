import SqlPipeline.Proofs.Validation.Payloads
import SqlPipeline.Validation.Graph

/-!
# Graphs are read as they were written

A graph that came out of a document can be written and read again, under either spelling and with or
without its nulls, if every node holds the payload of its kind: nodes and edges come back in order,
each payload of its kind, each literal of its type, the free settings untouched. One thing is settled
on the way: a coordinate that was left alone is written as the whole number zero and comes back as a
chosen zero. Writing and reading a second time changes nothing.

A node whose `type` was given in bytes may hold the payload of another kind. Writing spells the kind
out, and reading goes by it; so such a node does not come back, and a graph comes back exactly when
there is none (`Graph.read_dump_iff`).
-/

namespace SqlPipeline

open Value (readText readList readChoice)

variable (style : DumpStyle)

namespace Coordinate

/-- The double zero. -/
def zero : Float := Float.ofBits 0

/-- A coordinate as it comes back. -/
def settled : Coordinate → Coordinate
  | .untouched => .chosen zero
  | .chosen x => .chosen x

theorem read_dump (coordinate : Coordinate) : read coordinate.dump = .valid coordinate.settled := by
  cases coordinate with
  | untouched => rfl
  | chosen x => rfl

theorem settled_settled (coordinate : Coordinate) :
    coordinate.settled.settled = coordinate.settled := by
  cases coordinate <;> rfl

end Coordinate

namespace Position

/-- A position as it comes back. -/
def settled (position : Position) : Position := ⟨position.x.settled, position.y.settled⟩

theorem separate (position : Position) : Separate (position.fields.map Prod.fst) := by
  simp only [fields, List.map_cons, List.map_nil]
  decide

theorem read_dump (position : Position) : read (position.dump style) = .valid position.settled := by
  have x : Fields.x.orElse .untouched Coordinate.read (style.entries position.fields) =
      .valid position.x.settled := by
    refine DumpStyle.orElse_entries position.separate (by simp [fields])
      (Coordinate.read_dump position.x) ?_
    intro isNull
    cases coordinate : position.x <;> rw [coordinate] at isNull <;> cases isNull
  have y : Fields.y.orElse .untouched Coordinate.read (style.entries position.fields) =
      .valid position.y.settled := by
    refine DumpStyle.orElse_entries position.separate (by simp [fields])
      (Coordinate.read_dump position.y) ?_
    intro isNull
    cases coordinate : position.y <;> rw [coordinate] at isNull <;> cases isNull
  rw [dump, DumpStyle.record_eq, Position.read, Value.readRecord, x, y]
  rfl

end Position

namespace Held

/-- The free settings in a payload have textual keys, none twice. -/
def Named : Held → Prop
  | ⟨.transform, payload⟩ => TransformList.Named payload
  | _ => True

theorem named_of_readPayload {kind : StageKind} {entries : Mapping} {held : Held}
    (found : readPayload kind entries = .valid held) : held.Named := by
  cases kind with
  | transform =>
      rcases Checked.map_eq_valid_iff.mp found with ⟨payload, read, rfl⟩
      exact TransformList.named_of_read read
  | _ =>
      rcases Checked.map_eq_valid_iff.mp found with ⟨payload, -, rfl⟩
      trivial

theorem exists_entries_record {kind : StageKind} {held : Held} {fields : List (Field × Value)}
    (foreign : ∀ field ∈ fields.map Prod.fst, field.wire ≠ "type" ∧ field.plain ≠ "type")
    (reads : readPayload kind (style.entries fields) = .valid held) :
    ∃ entries, style.record fields = .map entries ∧ Mapping.erase "type" entries = entries ∧
      readPayload kind entries = .valid held :=
  ⟨style.entries fields, style.record_eq fields, DumpStyle.erase_entries foreign, reads⟩

/-- A payload is written as a mapping without a `type`, and read back by its kind. -/
theorem exists_entries_dump {held : Held} (named : held.Named) :
    ∃ entries, held.dump style = .map entries ∧ Mapping.erase "type" entries = entries ∧
      readPayload held.kind entries = .valid held := by
  rcases held with ⟨kind, payload⟩
  cases kind with
  | source =>
      refine exists_entries_record style ?_
        (congrArg (Held.mk .source <$> ·) (Source.read_entries style payload))
      simp only [Source.fields, List.map_cons, List.map_nil]
      decide
  | join =>
      refine exists_entries_record style ?_
        (congrArg (Held.mk .join <$> ·) (Join.read_entries style payload))
      simp only [Join.fields, List.map_cons, List.map_nil]
      decide
  | filter =>
      refine exists_entries_record style ?_
        (congrArg (Held.mk .filter <$> ·) (Filter.read_entries style payload))
      simp only [Filter.fields, List.map_cons, List.map_nil]
      decide
  | aggregate =>
      refine exists_entries_record style ?_
        (congrArg (Held.mk .aggregate <$> ·) (Aggregate.read_entries style payload))
      simp only [Aggregate.fields, List.map_cons, List.map_nil]
      decide
  | transform =>
      refine exists_entries_record style ?_
        (congrArg (Held.mk .transform <$> ·) (TransformList.read_entries style named))
      simp only [TransformList.fields, List.map_cons, List.map_nil]
      decide
  | lookup =>
      refine exists_entries_record style ?_
        (congrArg (Held.mk .lookup <$> ·) (Lookup.read_entries style payload))
      simp only [Lookup.fields, List.map_cons, List.map_nil]
      decide
  | target =>
      refine exists_entries_record style ?_
        (congrArg (Held.mk .target <$> ·) (Target.read_entries style payload))
      simp only [Target.fields, List.map_cons, List.map_nil]
      decide

/-- The better of two readings is one of them. -/
theorem better_eq_valid {reading other : Checked (Nat × Held)} {best : Nat × Held}
    (found : reading.better other = .valid best) :
    reading = .valid best ∨ other = .valid best := by
  cases reading with
  | valid first =>
      cases other with
      | valid second =>
          rw [Checked.better, Checked.valid.injEq] at found
          split at found
          · exact .inr (congrArg _ found)
          · exact .inl (congrArg _ found)
      | invalid => exact .inl found
  | invalid =>
      cases other with
      | valid second => exact .inr found
      | invalid => cases found

theorem mem_of_foldl_better {readings : List (Checked (Nat × Held))} {start : Checked (Nat × Held)}
    {best : Nat × Held} (found : readings.foldl Checked.better start = .valid best) :
    .valid best ∈ start :: readings := by
  induction readings generalizing start with
  | nil => exact List.mem_singleton.mpr found.symm
  | cons reading rest ih =>
      rcases List.mem_cons.mp (ih found) with here | later
      · rcases better_eq_valid here.symm with isStart | isReading
        · exact List.mem_cons.mpr (.inl isStart.symm)
        · exact List.mem_cons_of_mem _ (List.mem_cons.mpr (.inl isReading.symm))
      · exact List.mem_cons_of_mem _ (List.mem_cons_of_mem _ later)

/-- A payload of unknown kind is one that was read for some kind. -/
theorem exists_of_readAny {document : Value} {held : Held}
    (found : readAny document = .valid held) : ∃ kind, read kind document = .valid held := by
  rcases Checked.map_eq_valid_iff.mp found with ⟨best, isBest, rfl⟩
  have member := mem_of_foldl_better isBest
  rw [← List.map_cons, List.mem_map] at member
  rcases member with ⟨kind, -, isAttempt⟩
  rcases Checked.map_eq_valid_iff.mp isAttempt with ⟨held, isHeld, rfl⟩
  exact ⟨kind, Checked.under_eq_valid_iff.mp isHeld⟩

end Held

/-- The free settings in a stage have textual keys, none twice. -/
def Stage.Named (stage : Stage) : Prop := stage.held.Named

namespace Node

/-- A node as it comes back. -/
def settled (node : Node) : Node := { node with position := node.position.settled }

theorem separate (node : Node) : Separate ((fields style node).map Prod.fst) := by
  simp only [fields, List.map_cons, List.map_nil]
  decide

variable {data : Data} {entries : Mapping} {kind : StageKind} {node : Node} {held : Held}

/-- A payload that is read, from whatever is given, is of the kind that it is read for. -/
theorem kind_of_readHeld (found : readHeld entries kind data = .valid held) : held.kind = kind := by
  cases data with
  | absent => exact Held.kind_of_readPayload found
  | document value =>
      cases value with
      | null => exact Held.kind_of_readPayload found
      | map payload => exact Held.kind_of_readPayload found
      | _ => cases found
  | built given =>
      rw [readHeld] at found
      split at found
      · next isKind =>
        cases found
        exact isKind
      · cases found

/-- A node whose `type` names a kind in a text is accepted when its payload can be read for that
kind, and its other fields can be read. -/
theorem readWith_eq_valid_iff_of_named (named : kindOf? entries = some kind) :
    readWith data entries = .valid node ↔
      ∃ held, readHeld entries kind data = .valid held ∧ node.stage = .holding kind held ∧
        Fields.id.required readText entries = .valid node.id ∧
        Fields.position.orElse {} Position.read entries = .valid node.position := by
  rw [readWith, named]
  constructor
  · intro found
    rcases Checked.andThen_eq_valid_iff.mp found with ⟨held, isHeld, rest⟩
    rcases Checked.seq_eq_valid_iff.mp rest with ⟨_, position, toId, isPosition, rfl⟩
    rcases Checked.map_eq_valid_iff.mp toId with ⟨id, isId, rfl⟩
    exact ⟨held, isHeld, rfl, isId, isPosition⟩
  · rintro ⟨held, isHeld, isStage, isId, isPosition⟩
    dsimp only
    rw [isHeld, isId, isPosition]
    change Checked.valid (Node.mk node.id (.holding kind held) node.position) = .valid node
    rw [← isStage]

/-- A node whose `type` names no kind in a text is accepted when each of its fields can be read. -/
theorem readWith_eq_valid_iff_of_unnamed (unnamed : kindOf? entries = none) :
    readWith data entries = .valid node ↔
      Fields.type.required (readChoice StageKind) entries = .valid node.kind ∧
        readAnyHeld data = .valid node.stage.held ∧
        Fields.id.required readText entries = .valid node.id ∧
        Fields.position.orElse {} Position.read entries = .valid node.position := by
  rw [readWith, unnamed]
  constructor
  · intro found
    rcases Checked.seq_eq_valid_iff.mp found with ⟨_, position, toHeld, isPosition, rfl⟩
    rcases Checked.seq_eq_valid_iff.mp toHeld with ⟨_, held, toType, isHeld, rfl⟩
    rcases Checked.seq_eq_valid_iff.mp toType with ⟨_, kind, toId, isType, rfl⟩
    rcases Checked.map_eq_valid_iff.mp toId with ⟨id, isId, rfl⟩
    refine ⟨?_, ?_, isId, isPosition⟩
    · exact isType.trans (congrArg Checked.valid (Stage.kind_holding kind held).symm)
    · rw [isHeld, Stage.held_holding]
  · rintro ⟨isType, isHeld, isId, isPosition⟩
    dsimp only
    rw [isType, isHeld, isId, isPosition]
    change Checked.valid (Node.mk node.id (.holding node.stage.kind node.stage.held)
      node.position) = .valid node
    rw [Stage.holding_held]

/-- Where a text names the kind, the payload is of that kind. -/
theorem fits_of_named (named : kindOf? entries = some kind)
    (found : readWith data entries = .valid node) : node.kind = kind ∧ node.stage.Fits := by
  rcases (readWith_eq_valid_iff_of_named named).mp found with ⟨held, isHeld, isStage, -⟩
  rw [Node.kind, isStage, Stage.fits_holding_iff, Stage.kind_holding]
  exact ⟨rfl, kind_of_readHeld isHeld⟩

theorem named_of_readHeld (found : readHeld entries kind (Data.ofEntries entries) = .valid held) :
    held.Named := by
  rw [Data.ofEntries] at found
  split at found
  · next value _ =>
    cases value with
    | null => exact Held.named_of_readPayload found
    | map payload => exact Held.named_of_readPayload found
    | _ => cases found
  · exact Held.named_of_readPayload found

theorem named_of_readAnyHeld (found : readAnyHeld (Data.ofEntries entries) = .valid held) :
    held.Named := by
  rw [Data.ofEntries] at found
  split at found
  · rcases Held.exists_of_readAny (Checked.under_eq_valid_iff.mp found) with ⟨kind, isHeld⟩
    rw [Held.read, Value.readRecord.eq_def] at isHeld
    split at isHeld
    · exact Held.named_of_readPayload isHeld
    · cases isHeld
  · cases found

theorem named_of_read {document : Value} (found : read document = .valid node) :
    node.stage.Named := by
  cases document with
  | map entries =>
      change readWith (Data.ofEntries entries) entries = .valid node at found
      rcases named : kindOf? entries with _ | kind
      · rcases (readWith_eq_valid_iff_of_unnamed named).mp found with ⟨-, isHeld, -⟩
        exact named_of_readAnyHeld isHeld
      · rcases (readWith_eq_valid_iff_of_named named).mp found with ⟨held, isHeld, isStage, -⟩
        rw [isStage, Stage.Named, Stage.held_holding]
        exact named_of_readHeld isHeld
  | _ => cases found

theorem kindOf?_entries (node : Node) :
    kindOf? (style.entries (fields style node)) = some node.kind := by
  have written : Mapping.field? "type" (style.entries (fields style node)) =
      some (.choice node.kind) :=
    DumpStyle.field?_entries_named (separate style node) (by simp [fields, Fields.type]) rfl
  rw [kindOf?, written]
  exact LawfulChoice.ofLabel?_label node.kind

/-- Whatever comes back holds the payload of its kind. -/
theorem fits_of_read_dump {other : Node} (found : read (node.dump style) = .valid other) :
    other.stage.Fits := by
  rw [dump, DumpStyle.record_eq] at found
  exact (fits_of_named (kindOf?_entries style node) found).2

theorem read_dump (named : node.stage.Named) (fits : node.stage.Fits) :
    read (node.dump style) = .valid node.settled := by
  rcases Held.exists_entries_dump style named with ⟨payload, isPayload, noType, reads⟩
  rw [fits] at reads
  have isDump : node.stage.dump style = .map payload := isPayload
  have data : Data.ofEntries (style.entries (fields style node)) = .document (.map payload) := by
    have written : Mapping.field? "data" (style.entries (fields style node)) =
        some (.map payload) :=
      DumpStyle.field?_entries_named (separate style node)
        (by simp [fields, Fields.data, isDump]) rfl
    rw [Data.ofEntries, written]
  have id : Fields.id.required readText (style.entries (fields style node)) = .valid node.id :=
    text_entries (separate style node) (by simp [fields])
  have position : Fields.position.orElse {} Position.read (style.entries (fields style node)) =
      .valid node.position.settled :=
    DumpStyle.orElse_entries (separate style node) (by simp [fields])
      (Position.read_dump style node.position) nofun
  rw [dump, DumpStyle.record_eq, read, Value.readRecord, data]
  refine (readWith_eq_valid_iff_of_named (kindOf?_entries style node)).mpr
    ⟨node.stage.held, ?_, (Stage.holding_held node.stage).symm, id, position⟩
  rw [readHeld, noType]
  exact reads

end Node

namespace Edge

theorem separate (edge : Edge) : Separate (edge.fields.map Prod.fst) := by
  simp only [fields, List.map_cons, List.map_nil]
  decide

theorem read_dump (edge : Edge) : read (edge.dump style) = .valid edge := by
  have id : Fields.id.required readText (style.entries edge.fields) = .valid edge.id :=
    text_entries edge.separate (by simp [fields])
  have source : Fields.source.required readText (style.entries edge.fields) = .valid edge.source :=
    text_entries edge.separate (by simp [fields])
  have target : Fields.target.required readText (style.entries edge.fields) = .valid edge.target :=
    text_entries edge.separate (by simp [fields])
  have sourceHandle : Fields.sourceHandle.textOrNone (style.entries edge.fields) =
      .valid edge.sourceHandle :=
    textOrNone_entries edge.separate (by simp [fields])
  have targetHandle : Fields.targetHandle.textOrNone (style.entries edge.fields) =
      .valid edge.targetHandle :=
    textOrNone_entries edge.separate (by simp [fields])
  rw [dump, DumpStyle.record_eq, read, Value.readRecord, id, source, target, sourceHandle,
    targetHandle]
  rfl

end Edge

namespace Graph

/-- A graph as it comes back: every coordinate is chosen, and all else is kept. -/
def settled (graph : Graph) : Graph := { graph with nodes := graph.nodes.map Node.settled }

/-- The free settings of all nodes have textual keys, none twice. -/
def Named (graph : Graph) : Prop := ∀ node ∈ graph.nodes, node.stage.Named

theorem separate (graph : Graph) : Separate ((fields style graph).map Prod.fst) := by
  simp only [fields, List.map_cons, List.map_nil]
  decide

/-- Each node of a graph that was read comes from a document for it. -/
theorem exists_document_of_mem {document : Value} {graph : Graph} {node : Node}
    (found : read document = .valid graph) (member : node ∈ graph.nodes) :
    ∃ document, Node.read document = .valid node := by
  cases document with
  | map entries =>
      rcases Checked.seq_eq_valid_iff.mp found with ⟨_, edges, toNodes, -, rfl⟩
      rcases Checked.map_eq_valid_iff.mp toNodes with ⟨nodes, isNodes, rfl⟩
      rcases Field.eq_default_or_read isNodes with rfl | ⟨document, read⟩
      · cases member
      · exact Value.exists_of_mem_readList read member
  | _ => cases found

theorem named_of_read {document : Value} {graph : Graph} (found : read document = .valid graph) :
    graph.Named := by
  intro node member
  rcases exists_document_of_mem found member with ⟨document, isNode⟩
  exact Node.named_of_read isNode

theorem named_settled {graph : Graph} (named : graph.Named) : graph.settled.Named := by
  intro node member
  rcases List.mem_map.mp member with ⟨old, inGraph, rfl⟩
  exact named old inGraph

theorem settled_settled (graph : Graph) : graph.settled.settled = graph.settled := by
  have once (node : Node) : node.settled.settled = node.settled := by
    rw [Node.settled, Node.settled, Position.settled, Position.settled,
      Coordinate.settled_settled, Coordinate.settled_settled]
  simp [settled, once]

theorem read_dump_of_fits {graph : Graph} (named : graph.Named)
    (fits : ∀ node ∈ graph.nodes, node.stage.Fits) :
    read (graph.dump style) = .valid graph.settled := by
  have nodes : Fields.nodes.orElse [] (readList Node.read) (style.entries (fields style graph)) =
      .valid (graph.nodes.map Node.settled) :=
    list_entries (separate style graph) (by simp [fields])
      fun node member => Node.read_dump style (named node member) (fits node member)
  have edges : Fields.edges.orElse [] (readList Edge.read) (style.entries (fields style graph)) =
      .valid (graph.edges.map id) :=
    list_entries (separate style graph) (by simp [fields]) fun edge _ => Edge.read_dump style edge
  rw [dump, DumpStyle.record_eq, read, Value.readRecord, nodes, edges, List.map_id]
  rfl

/-- Whatever comes back holds payloads of their kinds throughout. -/
theorem fits_of_read_dump {graph other : Graph} (found : read (graph.dump style) = .valid other)
    {node : Node} (member : node ∈ other.nodes) : node.stage.Fits := by
  rw [dump, DumpStyle.record_eq] at found
  rcases Checked.seq_eq_valid_iff.mp found with ⟨_, edges, toNodes, -, rfl⟩
  rcases Checked.map_eq_valid_iff.mp toNodes with ⟨nodes, isNodes, rfl⟩
  have field : (Fields.nodes, .list (graph.nodes.map (Node.dump style))) ∈ fields style graph := by
    simp [fields]
  rcases exists_of_mem_list_entries (separate style graph) field isNodes member with
    ⟨written, -, isNode⟩
  exact Node.fits_of_read_dump style isNode

theorem fits_settled_iff {graph : Graph} :
    (∀ node ∈ graph.settled.nodes, node.stage.Fits) ↔ ∀ node ∈ graph.nodes, node.stage.Fits :=
  List.forall_mem_map

/-- A graph that was read is written and read again without a change, but for coordinates that were
left alone, and after that without any change, if and only if each node holds the payload of its
kind. -/
theorem read_dump_iff {document : Value} {graph : Graph} (valid : read document = .valid graph) :
    ((∀ style : DumpStyle, read (graph.dump style) = .valid graph.settled) ∧
      ∀ style : DumpStyle, read (graph.settled.dump style) = .valid graph.settled) ↔
    ∀ node ∈ graph.nodes, node.stage.Fits := by
  constructor
  · rintro ⟨comesBack, -⟩
    rw [← fits_settled_iff]
    exact fun node member => fits_of_read_dump {} (comesBack {}) member
  · intro fits
    have named := named_of_read valid
    refine ⟨fun style => read_dump_of_fits style named fits, fun style => ?_⟩
    rw [read_dump_of_fits style (named_settled named) (fits_settled_iff.mpr fits), settled_settled]

/-- Rows with a flag or a number are kept and cleaned by settings that hold a null. -/
def cleaning : Graph where
  nodes := [
    { id := "f", stage := .filter ⟨[⟨"paid", .equal, .bool true⟩, ⟨"total", .equal, .int 1⟩]⟩ },
    { id := "t", stage :=
        .transform ⟨[{ config := [(.str "fill", .null), (.str "rank", .int 1)] }]⟩ }]
  edges := [⟨"e", "f", "t", none, none⟩]

/-- The pipeline as the editor sends it: kinds repeated in the payloads, positions left out. -/
def cleaningDocument : Value :=
  .record [
    ("nodes", .list [
      .record [("id", .str "f"), ("type", .str "filter"),
        ("data", .record [("type", .str "filter"), ("conditions", .list [
          .record [("column", .str "paid"), ("op", .str "="), ("value", .bool true)],
          .record [("column", .str "total"), ("op", .str "="), ("value", .int 1)]])])],
      .record [("id", .str "t"), ("type", .str "transform"),
        ("data", .record [("transforms", .list [
          .record [("config", .record [("fill", .null), ("rank", .int 1)])]])])]]),
    ("edges", .list [.record [("id", .str "e"), ("source", .str "f"), ("target", .str "t")]])]

theorem read_cleaningDocument : read cleaningDocument = .valid cleaning := by rfl

theorem read_dump_cleaning :
    read cleaningDocument = .valid cleaning ∧
      (∀ style : DumpStyle, read (cleaning.dump style) = .valid cleaning.settled) ∧
        ∀ style : DumpStyle, read (cleaning.settled.dump style) = .valid cleaning.settled := by
  have fits : ∀ node ∈ cleaning.nodes, node.stage.Fits := by decide
  exact ⟨read_cleaningDocument, (read_dump_iff read_cleaningDocument).mpr fits⟩

/-- A filter, by its `type` in bytes, with the payload of a source. -/
def mistypedDocument : Value :=
  .record [("nodes", .list [
    .record [("id", .str "n"), ("type", .bytes [102, 105, 108, 116, 101, 114]),
      ("data", .record [("table", .str "t")])]])]

/-- A filter that holds the payload of a source. -/
def mistyped : Graph where
  nodes := [{ id := "n", stage := .misfit .filter ⟨.source, { table := some "t" }⟩ (by decide) }]

/-- The fields of the filter as they are given. -/
def mistypedEntries : Mapping :=
  [(.str "id", .str "n"), (.str "type", .bytes [102, 105, 108, 116, 101, 114]),
    (.str "data", .record [("table", .str "t")])]

theorem type_mistypedEntries :
    Fields.type.required (readChoice StageKind) mistypedEntries = .valid .filter := by
  have decoded : Text.decode [102, 105, 108, 116, 101, 114] = .ok "filter" :=
    @Text.decode_of_ascii "filter" rfl
  change (readChoice StageKind (.bytes [102, 105, 108, 116, 101, 114])).under (.field "type") = _
  rw [readChoice, Value.heldText?, decoded]
  rfl

theorem read_mistypedEntries :
    Node.read (.map mistypedEntries) = .valid (mistyped.nodes.head (by decide)) := by
  change Node.readWith (.ofEntries mistypedEntries) mistypedEntries = _
  exact (Node.readWith_eq_valid_iff_of_unnamed rfl).mpr
    ⟨type_mistypedEntries, by rfl, by rfl, by rfl⟩

theorem read_mistypedDocument : read mistypedDocument = .valid mistyped := by
  have nodes : readList Node.read (.list [.map mistypedEntries]) = .valid mistyped.nodes := by
    change Checked.items Node.read 0 [.map mistypedEntries] = _
    rw [Checked.items, read_mistypedEntries]
    rfl
  change Graph.mk <$> (readList Node.read (.list [.map mistypedEntries])).under (.field "nodes") <*>
    .valid [] = _
  rw [nodes]
  rfl

/-- What comes back is a filter without conditions, and the table is gone. -/
theorem read_dump_mistyped :
    read mistypedDocument = .valid mistyped ∧
      read (mistyped.dump {}) = .valid
        ⟨[⟨"n", .filter {}, ⟨.chosen Coordinate.zero, .chosen Coordinate.zero⟩⟩], []⟩ ∧
      read (mistyped.dump {}) ≠ .valid mistyped.settled := by
  refine ⟨read_mistypedDocument, by rfl, fun comesBack => ?_⟩
  have fits := fits_of_read_dump {} comesBack (List.mem_singleton_self _)
  exact absurd fits (by decide)

end Graph

end SqlPipeline
