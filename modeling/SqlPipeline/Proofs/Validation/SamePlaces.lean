import Mathlib.Data.List.Forall2
import SqlPipeline.Proofs.Validation.PayloadFields

/-!
# The same faults at the same places

Two documents can say the same and spell the keys of their fields differently. Faults then name the
keys as they are found, so the ways to one place differ in these keys and in nothing else
(`SamePlace`). Checks of two documents are alike when they yield the same value, or the same
complaints in the same order at the same places (`Checked.Alike`). Being alike passes from the
values of fields to fields, from parts to what is put together of them, and from items to lists.
-/

namespace SqlPipeline

open Value (readList)

/-- The fields of the records that a graph is made of. -/
def Fields.inGraphs : List Field :=
  [Fields.nodes, Fields.edges, Fields.id, Fields.type, Fields.data, Fields.position, Fields.x,
    Fields.y, Fields.source, Fields.target, Fields.sourceHandle, Fields.targetHandle,
    Fields.table, Fields.schema, Fields.query, Fields.connectionString, Fields.dbEngine,
    Fields.joinKind, Fields.leftTable, Fields.rightTable, Fields.leftColumn, Fields.rightColumn,
    Fields.joinCondition, Fields.conditions, Fields.column, Fields.op, Fields.value,
    Fields.groupBy, Fields.aggregations, Fields.function, Fields.columnAlias, Fields.transforms,
    Fields.targetColumn, Fields.expression, Fields.columns, Fields.separator,
    Fields.transformKind, Fields.config, Fields.lookupTable, Fields.lookupSchema,
    Fields.sourceColumns, Fields.lookupColumns, Fields.returnColumns, Fields.loadStrategy]

/-- Ways to the same place in two documents: the same way, but for keys of fields, each of which is
the one that its own document has. -/
inductive SamePlace : Value → Value → List Step → List Step → Prop
  | same {document other : Value} (path : List Step) : SamePlace document other path path
  | field {entries others : Mapping} {field : Field} {name otherName : String}
      {value otherValue : Value} {path otherPath : List Step} (known : field ∈ Fields.inGraphs)
      (found : field.find? entries = some (name, value))
      (otherFound : field.find? others = some (otherName, otherValue))
      (below : SamePlace value otherValue path otherPath) :
      SamePlace (.map entries) (.map others) (.field name :: path) (.field otherName :: otherPath)
  | item {document other : Value} {items others : List Value} {position : Nat}
      {value otherValue : Value} {path otherPath : List Step}
      (counts : document.items? = some items) (otherCounts : other.items? = some others)
      (found : items[position]? = some value) (otherFound : others[position]? = some otherValue)
      (below : SamePlace value otherValue path otherPath) :
      SamePlace document other (.index position :: path) (.index position :: otherPath)
  /-- The fields of a payload are placed as if they were fields of the node. -/
  | payload {entries others : Mapping} {value otherValue : Value} {path otherPath : List Step}
      (found : entries.field? Fields.data.wire = some value)
      (otherFound : others.field? Fields.data.wire = some otherValue)
      (below : SamePlace value otherValue path otherPath) :
      SamePlace (.map entries) (.map others) path otherPath
  /-- A payload of unknown kind is placed below the name of each payload that was tried. -/
  | attempt {value otherValue : Value} {path otherPath : List Step} (kind : StageKind)
      (below : SamePlace value otherValue path otherPath) :
      SamePlace value otherValue (.field kind.model :: path) (.field kind.model :: otherPath)

/-- The same complaint at places that are related. -/
def SameFault (way : List Step → List Step → Prop) (fault other : Fault) : Prop :=
  fault.complaint = other.complaint ∧ way fault.path other.path

namespace Checked

variable {α β : Type} {way above : List Step → List Step → Prop}

/-- The same value, or the same complaints in order at places that are related. -/
inductive Alike (way : List Step → List Step → Prop) : Checked α → Checked α → Prop
  | valid (value : α) : Alike way (.valid value) (.valid value)
  | invalid {first other : Fault} {later others : List Fault} (same : SameFault way first other)
      (behind : List.Forall₂ (SameFault way) later others) :
      Alike way (.invalid first later) (.invalid other others)

namespace Alike

variable {first other : Checked α}

theorem refl (reflexive : ∀ path, way path path) (checked : Checked α) :
    Alike way checked checked := by
  cases checked with
  | valid value => exact .valid value
  | invalid first later =>
      exact .invalid ⟨rfl, reflexive first.path⟩
        (List.forall₂_same.mpr fun fault _ => ⟨rfl, reflexive fault.path⟩)

theorem faults (alike : Alike way first other) :
    List.Forall₂ (SameFault way) first.faults other.faults := by
  cases alike with
  | valid value => exact .nil
  | invalid same behind => exact .cons same behind

theorem eq_valid_iff (alike : Alike way first other) (value : α) :
    first = .valid value ↔ other = .valid value := by
  cases alike with
  | valid value => exact Iff.rfl
  | invalid same behind => simp

theorem map (alike : Alike way first other) (function : α → β) :
    Alike way (function <$> first) (function <$> other) := by
  cases alike with
  | valid value => exact .valid (function value)
  | invalid same behind => exact .invalid same behind

theorem seq {build otherBuild : Checked (α → β)} (alike : Alike way build otherBuild)
    (alikePart : Alike way first other) :
    Alike way (build <*> first) (otherBuild <*> other) := by
  cases alike with
  | valid function =>
      cases alikePart with
      | valid value => exact .valid (function value)
      | invalid same behind => exact .invalid same behind
  | invalid same behind =>
      cases alikePart with
      | valid value => exact .invalid same behind
      | invalid next further => exact .invalid same (List.rel_append behind (.cons next further))

theorem andThen {next otherNext : α → Checked β} (alike : Alike way first other)
    (alikeNext : ∀ value, Alike way (next value) (otherNext value)) :
    Alike way (first.andThen next) (other.andThen otherNext) := by
  cases alike with
  | valid value => exact alikeNext value
  | invalid same behind => exact .invalid same behind

theorem better {reading otherReading next otherNext : Checked (Nat × α)}
    (alike : Alike way reading otherReading) (alikeNext : Alike way next otherNext) :
    Alike way (reading.better next) (otherReading.better otherNext) := by
  cases alike with
  | valid value =>
      cases alikeNext with
      | valid other => exact .valid _
      | invalid same behind => exact .valid value
  | invalid same behind =>
      cases alikeNext with
      | valid other => exact .valid other
      | invalid next further => exact .invalid same (List.rel_append behind (.cons next further))

theorem imp (alike : Alike way first other)
    (implies : ∀ path otherPath, way path otherPath → above path otherPath) :
    Alike above first other := by
  cases alike with
  | valid value => exact .valid value
  | invalid same behind =>
      exact .invalid ⟨same.1, implies _ _ same.2⟩
        (behind.imp fun _ _ sameFault => ⟨sameFault.1, implies _ _ sameFault.2⟩)

theorem under {step otherStep : Step} (alike : Alike way first other)
    (implies : ∀ path otherPath, way path otherPath → above (step :: path) (otherStep :: otherPath)) :
    Alike above (first.under step) (other.under otherStep) := by
  cases alike with
  | valid value => exact .valid value
  | invalid same behind =>
      refine .invalid ⟨same.1, implies _ _ same.2⟩ ?_
      rw [List.forall₂_map_left_iff, List.forall₂_map_right_iff]
      exact behind.imp fun _ _ sameFault => ⟨sameFault.1, implies _ _ sameFault.2⟩

end Alike

end Checked

/-- Two documents are read alike. -/
def SameReading {α : Type} (read : Value → Checked α) (document other : Value) : Prop :=
  (read document).Alike (SamePlace document other) (read other)

theorem SameReading.refl {α : Type} (read : Value → Checked α) (document : Value) :
    SameReading read document document :=
  Checked.Alike.refl SamePlace.same _

section Lists

variable {α : Type} {read : Value → Checked α}

/-- Items behind equally many others are read alike in lists of both. -/
theorem items_alike {document otherDocument : Value} {items others : List Value}
    (alike : List.Forall₂ (SameReading read) items others) (front otherFront : List Value)
    (even : front.length = otherFront.length) (counts : document.items? = some (front ++ items))
    (otherCounts : otherDocument.items? = some (otherFront ++ others)) :
    (Checked.items read front.length items).Alike (SamePlace document otherDocument)
      (Checked.items read front.length others) := by
  induction alike generalizing front otherFront with
  | nil => exact .valid []
  | @cons item other rest otherRest same _ ih =>
      have found : (front ++ item :: rest)[front.length]? = some item := by simp
      have otherFound : (otherFront ++ other :: otherRest)[front.length]? = some other := by
        simp [even]
      have later := ih (front ++ [item]) (otherFront ++ [other]) (by simp [even])
        (by simpa using counts) (by simpa using otherCounts)
      rw [List.length_append] at later
      rw [Checked.items, Checked.items]
      refine Checked.Alike.seq (Checked.Alike.map (same.under ?_) _) later
      intro path otherPath below
      exact .item counts otherCounts found otherFound below

theorem readList_alike {document otherDocument : Value} {items others : List Value}
    (counts : document.items? = some items) (otherCounts : otherDocument.items? = some others)
    (alike : List.Forall₂ (SameReading read) items others) :
    SameReading (readList read) document otherDocument := by
  rw [SameReading, readList, readList, counts, otherCounts]
  exact items_alike alike [] [] rfl counts otherCounts

end Lists

namespace Field

variable {α : Type} {read : Value → Checked α} {field : Field} {entries others : Mapping}

/-- The value of a field, under whichever spelling it is present. -/
def value? (field : Field) (entries : Mapping) : Option Value :=
  (field.find? entries).map Prod.snd

/-- A field is present in both records or in neither, with values that are related. -/
def Agree (related : Value → Value → Prop) (field : Field) (entries others : Mapping) : Prop :=
  Option.Rel related (field.value? entries) (field.value? others)

theorem required_alike (known : field ∈ Fields.inGraphs)
    (agree : field.Agree (SameReading read) entries others) :
    (field.required read entries).Alike (SamePlace (.map entries) (.map others))
      (field.required read others) := by
  rw [Agree, value?, value?] at agree
  rw [required, required]
  rcases found : field.find? entries with _ | ⟨name, value⟩ <;>
    rcases otherFound : field.find? others with _ | ⟨otherName, otherValue⟩ <;>
      rw [found, otherFound] at agree <;> cases agree
  · exact .refl SamePlace.same _
  · next alike => exact alike.under fun _ _ below => .field known found otherFound below

theorem orElse_alike (known : field ∈ Fields.inGraphs) (default : α)
    (agree : field.Agree (SameReading read) entries others) :
    (field.orElse default read entries).Alike (SamePlace (.map entries) (.map others))
      (field.orElse default read others) := by
  rw [Agree, value?, value?] at agree
  rw [orElse, orElse]
  rcases found : field.find? entries with _ | ⟨name, value⟩ <;>
    rcases otherFound : field.find? others with _ | ⟨otherName, otherValue⟩ <;>
      rw [found, otherFound] at agree <;> cases agree
  · exact .valid default
  · next alike => exact alike.under fun _ _ below => .field known found otherFound below

end Field

end SqlPipeline
