import Mathlib.Logic.Relation
import SqlPipeline.Proofs.Validation.Spellings

/-!
# Layouts of records

A layout says which fields a record has, which of its keys are ignored, and which of its fields hold
records again, together with how these may be changed. A record is respelled by changing records
below its fields first and its own keys then (`Layout.Respelled`). No field comes or goes, and the
value of a field is left alone or changed as the layout allows (`Layout.agreement`).
-/

namespace SqlPipeline

open Relation (ReflTransGen)

/-- The fields of a record, the names that are ignored in it, and how the values of its fields may
be changed, where they may be at all. -/
structure Layout where
  fields : List Field
  ignored : List String := []
  parts : List (Field × (Value → Value → Prop)) := []
  known : fields ⊆ Fields.inGraphs := by decide
  separate : Separate fields := by decide
  unused : ∀ name ∈ ignored, ∀ field ∈ fields, ¬field.Spelled name := by decide

/-- Lists or pairs whose items are related one by one; what is neither is left as it is. -/
inductive Value.Itemwise (related : Value → Value → Prop) : Value → Value → Prop
  | same (value : Value) : Itemwise related value value
  | items {items others : List Value} (each : List.Forall₂ related items others) :
      Itemwise related (.list items) (.list others)
  | pair {first second otherFirst otherSecond : Value} (left : related first otherFirst)
      (right : related second otherSecond) :
      Itemwise related (.pair first second) (.pair otherFirst otherSecond)

namespace Layout

/-- The value of a field is left as it is or changed as the layout allows. -/
def Changed (layout : Layout) (field : Field) (value other : Value) : Prop :=
  value = other ∨ ∃ related, layout.parts.lookup field = some related ∧ related value other

/-- An entry keeps its key, and its value unless it is that of a field that may be changed. -/
def Keeps (layout : Layout) (entry other : Key × Value) : Prop :=
  entry.1 = other.1 ∧ (entry.2 = other.2 ∨
    ∃ field ∈ layout.fields, entry.1 = .str field.wire ∧ layout.Changed field entry.2 other.2)

/-- A record with other spellings; what is not a record is left as it is. -/
inductive Respelled (layout : Layout) : Value → Value → Prop
  | same (value : Value) : Respelled layout value value
  | record {entries inner others : Mapping} (kept : List.Forall₂ layout.Keeps entries inner)
      (changes : ReflTransGen (KeyChange layout.fields layout.ignored) inner others) :
      Respelled layout (.map entries) (.map others)

/-- Records with the same fields, whose values are as the layout allows. -/
def Agreement (layout : Layout) (entries others : Mapping) : Prop :=
  ∀ field ∈ layout.fields, field.Agree (layout.Changed field) entries others

variable {layout : Layout} {entries inner others : Mapping} {field : Field} {name : String}

theorem keeps_self (entries : Mapping) : List.Forall₂ layout.Keeps entries entries :=
  List.forall₂_same.mpr fun _ _ => ⟨rfl, .inl rfl⟩

theorem keeps_part (layout : Layout) (part : Field) {related : Value → Value → Prop}
    {value other : Value} (isPart : layout.parts.lookup part = some related)
    (member : part ∈ layout.fields) (isRelated : related value other) :
    layout.Keeps (.str part.wire, value) (.str part.wire, other) :=
  ⟨rfl, .inr ⟨part, member, rfl, .inr ⟨related, isPart, isRelated⟩⟩⟩

theorem changed_of_keeps (member : field ∈ layout.fields) (spelled : field.Spelled name)
    {key : Key} {value other : Value} (keeps : layout.Keeps (key, value) (key, other))
    (isName : key.same (.str name) = true) : layout.Changed field value other := by
  rcases keeps with ⟨-, same | ⟨part, isField, isKey, changed⟩⟩
  · exact .inl same
  · dsimp only at isKey changed
    subst isKey
    rw [Key.same_str, beq_iff_eq] at isName
    have one : field = part := by
      by_contra differs
      exact layout.separate.not_spelled member isField differs (Or.inl isName.symm) spelled
    rw [one]
    exact changed

/-- Entries that are kept are looked up alike under each spelling of a field. -/
theorem field?_of_kept (kept : List.Forall₂ layout.Keeps entries inner)
    (member : field ∈ layout.fields) (spelled : field.Spelled name) :
    Option.Rel (layout.Changed field) (entries.field? name) (inner.field? name) := by
  rw [Mapping.field?, Mapping.field?]
  induction kept with
  | nil => exact .none
  | @cons entry other rest otherRest keeps _ ih =>
      rcases entry with ⟨key, value⟩
      rcases other with ⟨otherKey, otherValue⟩
      have sameKey : key = otherKey := keeps.1
      subst sameKey
      rw [Mapping.find?_cons, Mapping.find?_cons]
      rcases isName : key.same (.str name) with _ | _
      · exact ih
      · exact .some (changed_of_keeps member spelled keeps isName)

theorem agree_of_kept (kept : List.Forall₂ layout.Keeps entries inner)
    (member : field ∈ layout.fields) :
    field.Agree (layout.Changed field) entries inner := by
  have wires := field?_of_kept kept member (Or.inl rfl)
  have plains := field?_of_kept kept member (Or.inr rfl)
  rw [Field.Agree, Field.value?, Field.value?, Field.find?, Field.find?]
  generalize entries.field? field.wire = wire, inner.field? field.wire = otherWire at wires ⊢
  generalize entries.field? field.plain = plain, inner.field? field.plain = otherPlain at plains ⊢
  cases wires with
  | some changed => exact .some changed
  | none =>
      cases plains with
      | some changed => exact .some changed
      | none => exact .none

/-- No field of a respelled record comes or goes. -/
theorem agreement (kept : List.Forall₂ layout.Keeps entries inner)
    (changes : ReflTransGen (KeyChange layout.fields layout.ignored) inner others) :
    layout.Agreement entries others := by
  intro field member
  have unchanged : field.value? inner = field.value? others := by
    induction changes with
    | refl => rfl
    | tail _ change ih => exact ih.trans (change.value?_eq layout.separate layout.unused member)
  rw [Field.Agree, ← unchanged]
  exact agree_of_kept kept member

namespace Agreement

variable {α : Type} {read : Value → Checked α} {related : Value → Value → Prop}

/-- The value of a field that may not be changed is the same. -/
theorem value?_eq (agreement : layout.Agreement entries others) (member : field ∈ layout.fields)
    (leaf : layout.parts.lookup field = none) : field.value? entries = field.value? others := by
  have agree := agreement field member
  rw [Field.Agree] at agree
  generalize field.value? entries = value?, field.value? others = other? at agree ⊢
  cases agree with
  | none => rfl
  | some changed =>
      rcases changed with rfl | ⟨_, isPart, -⟩
      · rfl
      · rw [leaf] at isPart
        cases isPart

theorem leaf (agreement : layout.Agreement entries others) (member : field ∈ layout.fields)
    (leaf : layout.parts.lookup field = none) : field.Agree (SameReading read) entries others := by
  rw [Field.Agree, agreement.value?_eq member leaf]
  rcases field.value? others with _ | value
  · exact .none
  · exact .some (SameReading.refl read value)

/-- A reader that does not mind how the value of a field may be changed reads it alike. -/
theorem part (agreement : layout.Agreement entries others) (member : field ∈ layout.fields)
    (isPart : layout.parts.lookup field = some related)
    (reads : ∀ value other, related value other → SameReading read value other) :
    field.Agree (SameReading read) entries others := by
  have agree := agreement field member
  rw [Field.Agree] at agree ⊢
  generalize field.value? entries = value?, field.value? others = other? at agree ⊢
  cases agree with
  | none => exact .none
  | some changed =>
      rcases changed with rfl | ⟨_, found, isRelated⟩
      · exact .some (SameReading.refl read _)
      · rw [isPart] at found
        cases found
        exact .some (reads _ _ isRelated)

theorem required (agreement : layout.Agreement entries others) (member : field ∈ layout.fields)
    (leaf : layout.parts.lookup field = none) :
    (field.required read entries).Alike (SamePlace (.map entries) (.map others))
      (field.required read others) :=
  Field.required_alike (layout.known member) (agreement.leaf member leaf)

theorem orElse (agreement : layout.Agreement entries others) (member : field ∈ layout.fields)
    (leaf : layout.parts.lookup field = none) (default : α) :
    (field.orElse default read entries).Alike (SamePlace (.map entries) (.map others))
      (field.orElse default read others) :=
  Field.orElse_alike (layout.known member) default (agreement.leaf member leaf)

theorem orElse_part (agreement : layout.Agreement entries others) (member : field ∈ layout.fields)
    (isPart : layout.parts.lookup field = some related)
    (reads : ∀ value other, related value other → SameReading read value other) (default : α) :
    (field.orElse default read entries).Alike (SamePlace (.map entries) (.map others))
      (field.orElse default read others) :=
  Field.orElse_alike (layout.known member) default (agreement.part member isPart reads)

end Agreement

/-- Records with other spellings are read alike if a reader does not mind what the layout allows. -/
theorem sameReading_of_respelled {α : Type} {model : String} {read : Mapping → Checked α}
    (reads : ∀ entries others, layout.Agreement entries others →
      (read entries).Alike (SamePlace (.map entries) (.map others)) (read others))
    {document other : Value} (respelled : layout.Respelled document other) :
    SameReading (Value.readRecord model read) document other := by
  cases respelled with
  | same => exact .refl _ _
  | record kept changes => exact reads _ _ (agreement kept changes)

end Layout

/-- Lists are read alike if their items are. -/
theorem Value.Itemwise.sameReading {α : Type} {related : Value → Value → Prop}
    {read : Value → Checked α}
    (reads : ∀ value other, related value other → SameReading read value other)
    {value other : Value} (itemwise : Itemwise related value other) :
    SameReading (readList read) value other := by
  cases itemwise with
  | same => exact .refl _ _
  | items each => exact readList_alike rfl rfl (each.imp reads)
  | pair left right =>
      exact readList_alike rfl rfl (.cons (reads _ _ left) (.cons (reads _ _ right) .nil))

section Counts

variable {layout : Layout} {entries others : Mapping} {fields : List Field}

theorem Field.Agree.isSome_eq {related : Value → Value → Prop} {field : Field}
    (agree : field.Agree related entries others) :
    (field.find? entries).isSome = (field.find? others).isSome := by
  rw [Field.Agree, Field.value?, Field.value?] at agree
  generalize field.find? entries = found, field.find? others = otherFound at agree ⊢
  rcases found with _ | _ <;> rcases otherFound with _ | _ <;> cases agree <;> rfl

/-- As many fields are given in records with the same fields. -/
theorem Layout.Agreement.given_eq (agreement : layout.Agreement entries others)
    (subset : fields ⊆ layout.fields) :
    (Value.map entries).given fields = (Value.map others).given fields := by
  rw [Value.given, Value.given]
  refine congrArg List.length (List.filter_congr fun field member => ?_)
  exact (agreement field (subset member)).isSome_eq

theorem Layout.Respelled.given_eq {document other : Value}
    (respelled : layout.Respelled document other) (subset : fields ⊆ layout.fields) :
    document.given fields = other.given fields := by
  cases respelled with
  | same => rfl
  | record kept changes => exact (Layout.agreement kept changes).given_eq subset

/-- As many fields are given in the records at a field that holds some. -/
theorem Layout.Agreement.givenAt_eq {inner : Layout} {part : Field}
    (agreement : layout.Agreement entries others) (member : part ∈ layout.fields)
    (isPart : layout.parts.lookup part = some (Value.Itemwise inner.Respelled))
    (subset : fields ⊆ inner.fields) :
    (Value.map entries).givenAt part fields = (Value.map others).givenAt part fields := by
  have agree := agreement part member
  rw [Field.Agree, Field.value?, Field.value?] at agree
  refine congrArg (List.foldl (· + ·) 0) ?_
  rw [Value.itemsAt, Value.itemsAt]
  generalize (part.find? entries).map Prod.snd = found at agree ⊢
  generalize (part.find? others).map Prod.snd = otherFound at agree ⊢
  cases agree with
  | none => rfl
  | some changed =>
      rcases changed with rfl | ⟨_, isRelated, itemwise⟩
      · rfl
      · rw [isPart] at isRelated
        cases isRelated
        cases itemwise with
        | same => rfl
        | @items items others each =>
            have counts : List.Forall₂ (· = ·) (items.map (Value.given fields))
                (others.map (Value.given fields)) := by
              rw [List.forall₂_map_left_iff, List.forall₂_map_right_iff]
              exact each.imp fun _ _ respelled => Layout.Respelled.given_eq respelled subset
            rwa [List.forall₂_eq_eq_eq] at counts
        | pair left right =>
            change [_, _] = [_, _]
            rw [left.given_eq subset, right.given_eq subset]

end Counts

end SqlPipeline
