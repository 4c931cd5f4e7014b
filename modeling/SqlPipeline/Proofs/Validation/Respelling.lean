import SqlPipeline.Proofs.Validation.Layouts

/-!
# Both spellings of a field mean the same

The layouts of the records of a graph, from the inside out. Each record is read alike with other
spellings because each of its fields is, and a graph at the end is read to the same graph, or refused
with the same complaints (`Graph.read_respelled`). A payload of a node of known kind is read by the
fields of that kind; without a known kind, the fields of all kinds count.
-/

namespace SqlPipeline

open Checked (Alike)

variable {entries others : Mapping} {document other : Value}

/-- The layout of a position. -/
def Position.layout : Layout where
  fields := [Fields.x, Fields.y]

theorem Position.sameReading (respelled : layout.Respelled document other) :
    SameReading read document other := by
  refine Layout.sameReading_of_respelled (fun entries others agreement => ?_) respelled
  refine .seq (.map ?_ _) ?_
  · exact agreement.orElse (by decide) rfl _
  · exact agreement.orElse (by decide) rfl _

/-- The layout of a condition. -/
def Condition.layout : Layout where
  fields := Fields.ofCondition

theorem Condition.sameReading (respelled : layout.Respelled document other) :
    SameReading read document other := by
  refine Layout.sameReading_of_respelled (fun entries others agreement => ?_) respelled
  refine .seq (.seq (.map ?_ _) ?_) ?_
  · exact agreement.required (by decide) rfl
  · exact agreement.required (by decide) rfl
  · exact agreement.orElse (by decide) rfl _

/-- The layout of an aggregation. -/
def Aggregation.layout : Layout where
  fields := Fields.ofAggregation

theorem Aggregation.sameReading (respelled : layout.Respelled document other) :
    SameReading read document other := by
  refine Layout.sameReading_of_respelled (fun entries others agreement => ?_) respelled
  refine .seq (.seq (.map ?_ _) ?_) ?_
  · exact agreement.required (by decide) rfl
  · exact agreement.required (by decide) rfl
  · exact agreement.orElse (by decide) rfl _

/-- The layout of a column transformation. Its configuration is free and is left as it is. -/
def Transform.layout : Layout where
  fields := Fields.ofTransform

theorem Transform.sameReading (respelled : layout.Respelled document other) :
    SameReading read document other := by
  refine Layout.sameReading_of_respelled (fun entries others agreement => ?_) respelled
  refine .seq (.seq (.seq (.seq (.seq (.map ?_ _) ?_) ?_) ?_) ?_) ?_ <;>
    exact agreement.orElse (by decide) rfl _

/-- The layout of an edge. -/
def Edge.layout : Layout where
  fields := [Fields.id, Fields.source, Fields.target, Fields.sourceHandle, Fields.targetHandle]

theorem Edge.sameReading (respelled : layout.Respelled document other) :
    SameReading read document other := by
  refine Layout.sameReading_of_respelled (fun entries others agreement => ?_) respelled
  refine .seq (.seq (.seq (.seq (.map ?_ _) ?_) ?_) ?_) ?_
  · exact agreement.required (by decide) rfl
  · exact agreement.required (by decide) rfl
  · exact agreement.required (by decide) rfl
  · exact agreement.orElse (by decide) rfl _
  · exact agreement.orElse (by decide) rfl _

namespace Held

/-- The fields of the payload of a kind, or those of all kinds if it is not known. -/
def payloadFields : Option StageKind → List Field
  | some kind => kind.fields
  | none => (StageKind.payloadOrder.flatMap StageKind.fields).dedup

/-- The layout of a payload. The kind that the editor repeats in it is ignored. -/
def layout (known : Option StageKind) : Layout where
  fields := payloadFields known
  ignored := ["type"]
  parts := [(Fields.conditions, Value.Itemwise Condition.layout.Respelled),
    (Fields.aggregations, Value.Itemwise Aggregation.layout.Respelled),
    (Fields.transforms, Value.Itemwise Transform.layout.Respelled)]
  known := by
    rcases known with _ | kind
    · decide
    · cases kind <;> decide
  separate := by
    rcases known with _ | kind
    · decide
    · exact kind.separate_fields
  unused := by
    rcases known with _ | kind
    · decide
    · cases kind <;> decide

variable {known : Option StageKind} {kind : StageKind}

theorem readPayload_alike (agreement : (layout (some kind)).Agreement entries others) :
    (readPayload kind entries).Alike (SamePlace (.map entries) (.map others))
      (readPayload kind others) := by
  cases kind with
  | source =>
      refine Alike.map (.seq (.seq (.seq (.seq (.map ?_ _) ?_) ?_) ?_) ?_) _ <;>
        exact agreement.orElse (by decide) rfl _
  | join =>
      refine Alike.map (.seq (.seq (.seq (.seq (.seq (.map ?_ _) ?_) ?_) ?_) ?_) ?_) _ <;>
        exact agreement.orElse (by decide) rfl _
  | filter =>
      refine Alike.map (.map ?_ _) _
      exact agreement.orElse_part (by decide) rfl
        (fun _ _ => Value.Itemwise.sameReading fun _ _ => Condition.sameReading) _
  | aggregate =>
      refine Alike.map (.seq (.map ?_ _) ?_) _
      · exact agreement.orElse (by decide) rfl _
      · exact agreement.orElse_part (by decide) rfl
          (fun _ _ => Value.Itemwise.sameReading fun _ _ => Aggregation.sameReading) _
  | transform =>
      refine Alike.map (.map ?_ _) _
      exact agreement.orElse_part (by decide) rfl
        (fun _ _ => Value.Itemwise.sameReading fun _ _ => Transform.sameReading) _
  | lookup =>
      refine Alike.map (.seq (.seq (.seq (.seq (.map ?_ _) ?_) ?_) ?_) ?_) _ <;>
        exact agreement.orElse (by decide) rfl _
  | target =>
      refine Alike.map (.seq (.seq (.seq (.seq (.map ?_ _) ?_) ?_) ?_) ?_) _ <;>
        exact agreement.orElse (by decide) rfl _

theorem fields_subset_payloadFields (kind : StageKind) : kind.fields ⊆ payloadFields none := by
  cases kind <;> decide

/-- A payload of unknown kind is read alike for each kind. -/
theorem sameReading_of_unknown (kind : StageKind)
    (respelled : (layout none).Respelled document other) :
    SameReading (read kind) document other := by
  refine Layout.sameReading_of_respelled (fun entries others agreement => ?_) respelled
  refine readPayload_alike fun field member => ?_
  exact agreement field (fields_subset_payloadFields kind member)

/-- Other spellings do not change how many fields are given. -/
theorem weight_eq (kind : StageKind) (respelled : (layout none).Respelled document other) :
    weight kind document = weight kind other := by
  cases respelled with
  | same => rfl
  | @record entries inner others kept changes =>
      have agreement := Layout.agreement kept changes
      rw [weight, weight, agreement.given_eq (fields_subset_payloadFields kind)]
      refine congrArg (_ + ·) ?_
      cases kind with
      | filter => exact agreement.givenAt_eq (by decide) rfl (by decide)
      | aggregate => exact agreement.givenAt_eq (by decide) rfl (by decide)
      | transform => exact agreement.givenAt_eq (by decide) rfl (by decide)
      | _ => rfl

theorem attempt_alike (kind : StageKind) (respelled : (layout none).Respelled document other) :
    (attempt document kind).Alike (SamePlace document other) (attempt other kind) := by
  rw [attempt, attempt, weight_eq kind respelled]
  exact ((sameReading_of_unknown kind respelled).under fun _ _ below => .attempt kind below).map _

/-- The best of several readings that are alike one by one. -/
theorem foldl_better_alike (kinds : List StageKind)
    (respelled : (layout none).Respelled document other)
    {best otherBest : Checked (Nat × Held)} (alike : best.Alike (SamePlace document other) otherBest) :
    ((kinds.map (attempt document)).foldl Checked.better best).Alike (SamePlace document other)
      ((kinds.map (attempt other)).foldl Checked.better otherBest) := by
  induction kinds generalizing best otherBest with
  | nil => exact alike
  | cons kind rest ih => exact ih (alike.better (attempt_alike kind respelled))

theorem readAny_alike (respelled : (layout none).Respelled document other) :
    SameReading readAny document other :=
  (foldl_better_alike _ respelled (attempt_alike .source respelled)).map Prod.snd

/-- A payload is read by the fields of its kind only. -/
theorem readPayload_congr
    (same : ∀ field ∈ kind.fields, field.find? entries = field.find? others) :
    readPayload kind entries = readPayload kind others := by
  cases kind <;> simp only [StageKind.fields, List.forall_mem_cons] at same <;>
    simp only [readPayload, Source.read, Join.read, Filter.read, Aggregate.read,
      TransformList.read, Lookup.read, Target.read, Field.textOrNone, Field.textList, Field.orElse,
      same]

theorem readPayload_erase (kind : StageKind) (entries : Mapping) :
    readPayload kind (entries.erase "type") = readPayload kind entries := by
  have kept {name : String} (differs : name ≠ "type") :
      (entries.erase "type").field? name = entries.field? name := by
    rw [Mapping.field?, Mapping.field?, Mapping.find?_erase, Key.same_str, if_neg]
    simpa using differs.symm
  apply readPayload_congr
  intro field member
  have unused := (layout (some kind)).unused "type" (List.mem_singleton_self _) field member
  rw [Field.Spelled, not_or] at unused
  rw [Field.find?, Field.find?, kept (Ne.symm unused.1), kept (Ne.symm unused.2)]

end Held

namespace Node

/-- The layout of a node whose `type` names a kind, or none. -/
def layout (known : Option StageKind) : Layout where
  fields := [Fields.id, Fields.type, Fields.data, Fields.position]
  parts := [(Fields.data, (Held.layout known).Respelled),
    (Fields.position, Position.layout.Respelled)]

/-- The kind named by the `type` field of what may be the document of a node. -/
def namedKind? : Value → Option StageKind
  | .map entries => kindOf? entries
  | _ => none

/-- A node with other spellings. -/
def Respelled (document other : Value) : Prop :=
  (layout (namedKind? document)).Respelled document other

variable {known : Option StageKind} {kind : StageKind}

theorem field?_id_eq (agreement : (layout known).Agreement entries others) :
    entries.field? "id" = others.field? "id" := by
  have sameId : Fields.id.value? entries = Fields.id.value? others :=
    agreement.value?_eq (by simp [layout]) rfl
  rwa [Fields.id, Field.value?_named, Field.value?_named] at sameId

theorem kindOf?_eq (agreement : (layout known).Agreement entries others) :
    kindOf? entries = kindOf? others := by
  have sameType : Fields.type.value? entries = Fields.type.value? others :=
    agreement.value?_eq (by simp [layout]) rfl
  rw [Fields.type, Field.value?_named, Field.value?_named] at sameType
  rw [kindOf?, kindOf?, sameType]

/-- A node is given a payload with other spellings, or none as well. -/
theorem data_cases (agreement : (layout known).Agreement entries others) :
    (entries.field? "data" = none ∧ others.field? "data" = none) ∨
      ∃ value other, entries.field? "data" = some value ∧ others.field? "data" = some other ∧
        (Held.layout known).Respelled value other := by
  have data := agreement Fields.data (by simp [layout])
  rw [Field.Agree, Fields.data, Field.value?_named, Field.value?_named] at data
  generalize entries.field? "data" = value?, others.field? "data" = other? at data ⊢
  cases data with
  | none => exact .inl ⟨rfl, rfl⟩
  | @some value other changed =>
      refine .inr ⟨value, other, rfl, rfl, ?_⟩
      rcases changed with rfl | ⟨related, isPart, isRelated⟩
      · exact .same value
      · cases isPart
        exact isRelated

/-- A payload for a kind complains about a node by its `id` only. -/
theorem readHeld_congr (sameId : entries.field? "id" = others.field? "id") (kind : StageKind)
    (data : Data) : readHeld entries kind data = readHeld others kind data := by
  unfold readHeld foreign
  rw [sameId]

theorem readHeld_alike (agreement : (layout (some kind)).Agreement entries others) :
    (readHeld entries kind (Data.ofEntries entries)).Alike
      (SamePlace (.map entries) (.map others)) (readHeld others kind (Data.ofEntries others)) := by
  rw [Data.ofEntries, Data.ofEntries, readHeld_congr (field?_id_eq agreement)]
  rcases data_cases agreement with ⟨missing, otherMissing⟩ |
    ⟨value, other, found, otherFound, respelled⟩
  · rw [missing, otherMissing]
    exact .refl SamePlace.same _
  · rw [found, otherFound]
    cases respelled with
    | same => exact .refl SamePlace.same _
    | record kept changes =>
        dsimp only [readHeld]
        rw [Held.readPayload_erase, Held.readPayload_erase]
        exact (Held.readPayload_alike (Layout.agreement kept changes)).imp
          fun _ _ below => .payload found otherFound below

theorem readAnyHeld_alike (agreement : (layout none).Agreement entries others) :
    (readAnyHeld (Data.ofEntries entries)).Alike (SamePlace (.map entries) (.map others))
      (readAnyHeld (Data.ofEntries others)) := by
  have isFound {entries : Mapping} {value : Value} (found : entries.field? "data" = some value) :
      Fields.data.find? entries = some ("data", value) := by
    rw [Field.find?, Fields.data, Field.named, found]
  rw [Data.ofEntries, Data.ofEntries]
  rcases data_cases agreement with ⟨missing, otherMissing⟩ |
    ⟨value, other, found, otherFound, respelled⟩
  · rw [missing, otherMissing]
    exact .refl SamePlace.same _
  · rw [found, otherFound]
    exact (Held.readAny_alike respelled).under fun _ _ below =>
      .field (by decide) (isFound found) (isFound otherFound) below

theorem position_alike (agreement : (layout known).Agreement entries others) :
    (Fields.position.orElse {} Position.read entries).Alike
      (SamePlace (.map entries) (.map others)) (Fields.position.orElse {} Position.read others) :=
  agreement.orElse_part (by simp [layout]) rfl (fun _ _ => Position.sameReading) _

theorem sameReading (respelled : Respelled document other) : SameReading read document other := by
  rw [Respelled] at respelled
  cases respelled with
  | same => exact .refl _ _
  | @record entries inner others kept changes =>
      have agreement := Layout.agreement kept changes
      have id : (Fields.id.required Value.readText entries).Alike
          (SamePlace (.map entries) (.map others)) (Fields.id.required Value.readText others) :=
        agreement.required (by simp [layout]) rfl
      have type : (Fields.type.required (Value.readChoice StageKind) entries).Alike
          (SamePlace (.map entries) (.map others))
          (Fields.type.required (Value.readChoice StageKind) others) :=
        agreement.required (by simp [layout]) rfl
      have position := position_alike agreement
      change (readWith (Data.ofEntries entries) entries).Alike (SamePlace (.map entries) (.map others))
        (readWith (Data.ofEntries others) others)
      rw [readWith, readWith, ← kindOf?_eq agreement]
      rw [namedKind?] at agreement
      generalize kindOf? entries = known at agreement ⊢
      rcases known with _ | kind
      · exact .seq (.seq (.seq (.map id _) type) (readAnyHeld_alike agreement)) position
      · exact (readHeld_alike agreement).andThen fun held => .seq (.map id _) position

end Node

namespace Graph

/-- The layout of a graph. -/
def layout : Layout where
  fields := [Fields.nodes, Fields.edges]
  parts := [(Fields.nodes, Value.Itemwise Node.Respelled),
    (Fields.edges, Value.Itemwise Edge.layout.Respelled)]

/-- A graph with other spellings. -/
def Respelled : Value → Value → Prop := layout.Respelled

theorem sameReading (respelled : Respelled document other) : SameReading read document other := by
  refine Layout.sameReading_of_respelled (fun entries others agreement => ?_) respelled
  refine .seq (.map ?_ _) ?_
  · exact agreement.orElse_part (by decide) rfl
      (fun _ _ => Value.Itemwise.sameReading fun _ _ => Node.sameReading) _
  · exact agreement.orElse_part (by decide) rfl
      (fun _ _ => Value.Itemwise.sameReading fun _ _ => Edge.sameReading) _

/-- Both spellings of every field mean the same. A graph with other spellings is read when the graph
is, to the same graph; and otherwise the complaints are the same, in the same order and at the same
places, where only the keys on the way are spelled differently. -/
theorem read_respelled (respelled : Respelled document other) :
    (∀ graph, read document = .valid graph ↔ read other = .valid graph) ∧
      List.Forall₂ (SameFault (SamePlace document other)) (read document).faults
        (read other).faults :=
  ⟨(sameReading respelled).eq_valid_iff, (sameReading respelled).faults⟩

/-- A payload that repeats its kind. -/
def sentPayload (table : Value) : Value :=
  .record [("type", .str "join"), ("leftTable", table), ("joinType", .str "left")]

/-- The payload without its kind, with one key in the plain spelling and one in both. -/
def respelledPayload (table : Value) : Value :=
  .record [("left_table", table), ("joinType", .str "left"), ("join_type", .str "cross")]

def sentNode (table : Value) : Value :=
  .record [("id", .str "j"), ("type", .str "join"), ("data", sentPayload table)]

/-- The node with a note. -/
def respelledNode (table : Value) : Value :=
  .record [("id", .str "j"), ("type", .str "join"), ("note", .null),
    ("data", respelledPayload table)]

def sentEdge : Value :=
  .record [("id", .str "e"), ("source", .str "s"), ("target", .str "j"),
    ("sourceHandle", .str "rows")]

/-- The edge in the plain spelling. -/
def respelledEdge : Value :=
  .record [("source_handle", .str "rows"), ("id", .str "e"), ("source", .str "s"),
    ("target", .str "j")]

/-- A graph of one join with a table, and one edge. -/
def sentJoin (table : Value) : Value :=
  .record [("nodes", .list [sentNode table]), ("edges", .list [sentEdge])]

/-- The graph with other spellings throughout. -/
def respelledJoin (table : Value) : Value :=
  .record [("nodes", .list [respelledNode table]), ("edges", .list [respelledEdge])]

/-- The graph with a table of orders. -/
def joinOfOrders : Graph where
  nodes := [{ id := "j", stage := .join { kind := .left, leftTable := some "orders" } }]
  edges := [{ id := "e", source := "s", target := "j", sourceHandle := some "rows" }]

theorem respelled_sentPayload (table : Value) :
    (Held.layout (some .join)).Respelled (sentPayload table) (respelledPayload table) := by
  have dropped : KeyChange StageKind.join.fields ["type"]
      [(.str "type", .str "join"), (.str "leftTable", table), (.str "joinType", .str "left")]
      [(.str "leftTable", table), (.str "joinType", .str "left")] :=
    .drop (by decide) ⟨[], _, rfl, rfl⟩
  have leftTable : Fields.leftTable.Spelled "leftTable" := by decide
  have renamed : KeyChange StageKind.join.fields ["type"]
      [(.str "leftTable", table), (.str "joinType", .str "left")]
      [(.str "left_table", table), (.str "joinType", .str "left")] :=
    .rename (by decide) leftTable (by decide) rfl ⟨[], _, rfl, rfl⟩ ⟨[], _, rfl, rfl⟩
  have joinKind : Mapping.Inserted (.str Fields.joinKind.plain) (.str "cross")
      [(.str "left_table", table), (.str "joinType", .str "left")]
      [(.str "left_table", table), (.str "joinType", .str "left"),
        (.str "join_type", .str "cross")] :=
    ⟨[(.str "left_table", table), (.str "joinType", .str "left")], [], rfl, rfl⟩
  have shadowed : KeyChange StageKind.join.fields ["type"] _ _ :=
    .shadow (by decide) (by simp [Mapping.field?, Mapping.find?_cons, Fields.joinKind]) rfl joinKind
  exact .record (Layout.keeps_self _) (.tail (.tail (.single dropped) renamed) shadowed)

theorem respelled_sentNode (table : Value) :
    Node.Respelled (sentNode table) (respelledNode table) := by
  have keepsData := (Node.layout (some .join)).keeps_part Fields.data rfl (by decide)
    (respelled_sentPayload table)
  have noted : KeyChange (Node.layout (some .join)).fields []
      [(.str "id", .str "j"), (.str "type", .str "join"), (.str "data", respelledPayload table)]
      [(.str "id", .str "j"), (.str "type", .str "join"), (.str "note", .null),
        (.str "data", respelledPayload table)] :=
    .extra (by decide) ⟨[(.str "id", .str "j"), (.str "type", .str "join")], _, rfl, rfl⟩
  exact .record (.cons ⟨rfl, .inl rfl⟩ (.cons ⟨rfl, .inl rfl⟩ (.cons keepsData .nil)))
    (.single noted)

theorem respelled_sentEdge : Edge.layout.Respelled sentEdge respelledEdge := by
  have sourceHandle : Fields.sourceHandle.Spelled "sourceHandle" := by decide
  refine .record (Layout.keeps_self _) (.single ?_)
  exact .rename (by decide) sourceHandle (by decide) rfl
    ⟨[(.str "id", .str "e"), (.str "source", .str "s"), (.str "target", .str "j")], [], rfl, rfl⟩
    ⟨[], _, rfl, rfl⟩

theorem respelled_sentJoin (table : Value) : Respelled (sentJoin table) (respelledJoin table) := by
  have keepsNodes := layout.keeps_part Fields.nodes rfl (by decide)
    (.items (.cons (respelled_sentNode table) .nil))
  have keepsEdges := layout.keeps_part Fields.edges rfl (by decide)
    (.items (.cons respelled_sentEdge .nil))
  exact .record (.cons keepsNodes (.cons keepsEdges .nil)) .refl

theorem read_respelled_sentJoin :
    Respelled (sentJoin (.str "orders")) (respelledJoin (.str "orders")) ∧
      (read (sentJoin (.str "orders")) = .valid joinOfOrders ↔
        read (respelledJoin (.str "orders")) = .valid joinOfOrders) ∧
      read (sentJoin (.str "orders")) = .valid joinOfOrders ∧
      Respelled (sentJoin (.int 5)) (respelledJoin (.int 5)) ∧
      List.Forall₂ (SameFault (SamePlace (sentJoin (.int 5)) (respelledJoin (.int 5))))
        [⟨[.field "nodes", .index 0, .field "leftTable"], .notText⟩]
        [⟨[.field "nodes", .index 0, .field "left_table"], .notText⟩] :=
  ⟨respelled_sentJoin _, (read_respelled (respelled_sentJoin _)).1 joinOfOrders, rfl,
    respelled_sentJoin _, (read_respelled (respelled_sentJoin _)).2⟩

end Graph

end SqlPipeline
