import SqlPipeline.Proofs.Validation.SamePlaces
import SqlPipeline.Validation.Graph

/-!
# Changes of keys

A field has two spellings, of which the one on the wire is made from the plain one, with two
exceptions (`Fields.wire_eq_camelCase`). The keys of a record can be changed without a change to
what it says: a key is changed to the other spelling of its field, a plain key is put beside a wire
key that is there already, and keys come in that no field has. The values of all fields stay as they
are (`KeyChange.value?_eq`), because no two fields share a spelling and the wire spelling is looked
for first.
-/

namespace SqlPipeline

/-- A name is a spelling of a field. -/
def Field.Spelled (field : Field) (name : String) : Prop := name = field.wire ∨ name = field.plain

instance (field : Field) (name : String) : Decidable (field.Spelled name) :=
  inferInstanceAs (Decidable (_ ∨ _))

/-- The words of a name put together, each but the first with a capital letter. -/
def Field.camelCase : List Char → List Char
  | '_' :: letter :: rest => letter.toUpper :: camelCase rest
  | letter :: rest => letter :: camelCase rest
  | [] => []

/-- A wire spelling is the plain one in camel case, except that a schema has a name of its own on
the wire and that a target column keeps its plain spelling there. -/
theorem Fields.wire_eq_camelCase :
    ∀ field ∈ Fields.inGraphs, field ≠ Fields.schema → field ≠ Fields.targetColumn →
      field.wire.toList = Field.camelCase field.plain.toList := by
  decide +kernel

/-- A key is no spelling of a field. -/
def Field.Foreign (field : Field) (key : Key) : Prop :=
  key.same (.str field.wire) = false ∧ key.same (.str field.plain) = false

instance (field : Field) (key : Key) : Decidable (field.Foreign key) :=
  inferInstanceAs (Decidable (_ ∧ _))

theorem Field.foreign_of_not_spelled {field : Field} {name : String}
    (unspelled : ¬field.Spelled name) : field.Foreign (.str name) := by
  rw [Spelled, not_or] at unspelled
  exact ⟨by simpa using unspelled.1, by simpa using unspelled.2⟩

/-- In a record of separate fields a name is the spelling of one field only. -/
theorem Separate.not_spelled {fields : List Field} (separate : Separate fields)
    {field other : Field} (member : field ∈ fields) (otherMember : other ∈ fields)
    (differs : field ≠ other) {name : String} (spelled : other.Spelled name) :
    ¬field.Spelled name := by
  have : Std.Symm Field.Apart := ⟨fun _ _ => Field.Apart.symm⟩
  have apart : field.Apart other := separate.forall member otherMember differs
  rintro (rfl | rfl) <;> rcases spelled with same | same
  · exact apart.wires same
  · exact apart.wirePlain same
  · exact apart.plainWire same
  · exact apart.plains same

namespace Mapping

/-- Entries with one more entry somewhere among them. -/
def Inserted (key : Key) (value : Value) (rest entries : Mapping) : Prop :=
  ∃ front back, rest = front ++ back ∧ entries = front ++ (key, value) :: back

theorem find?_append (key : Key) (front back : Mapping) :
    find? key (front ++ back) = (find? key front).or (find? key back) := by
  induction front with
  | nil => rfl
  | cons entry rest ih =>
      rw [List.cons_append, find?_cons, find?_cons, ih]
      split <;> rfl

namespace Inserted

variable {key other : Key} {value : Value} {rest entries : Mapping}

theorem find?_of_apart (inserted : Inserted key value rest entries)
    (apart : key.same other = false) : find? other entries = find? other rest := by
  rcases inserted with ⟨front, back, rfl, rfl⟩
  rw [find?_append, find?_append, find?_cons, apart]
  rfl

theorem find?_of_new (inserted : Inserted key value rest entries)
    (new : find? key rest = none) : find? key entries = some value := by
  rcases inserted with ⟨front, back, rfl, rfl⟩
  rw [find?_append, Option.or_eq_none_iff] at new
  rw [find?_append, find?_cons, Key.same_self, new.1]
  rfl

end Inserted

end Mapping

namespace Field

open Mapping (Inserted)

variable {field : Field} {key : Key} {name : String} {value : Value} {rest entries : Mapping}

theorem value?_eq_none_iff :
    field.value? rest = none ↔
      rest.field? field.wire = none ∧ rest.field? field.plain = none := by
  rw [value?, find?]
  split
  · next found => simp [found]
  · next missing => simp [missing]

theorem value?_of_field?_eq {others : Mapping}
    (wire : entries.field? field.wire = others.field? field.wire)
    (plain : entries.field? field.plain = others.field? field.plain) :
    field.value? entries = field.value? others := by
  rw [value?, value?, find?, find?, wire, plain]

theorem value?_of_wire (found : entries.field? field.wire = some value) :
    field.value? entries = some value := by
  rw [value?, find?, found]
  rfl

theorem value?_named (name : String) (entries : Mapping) :
    (named name).value? entries = entries.field? name := by
  rw [value?, find?, named]
  rcases entries.field? name with _ | value <;> rfl

/-- A key that is no spelling of a field does not matter to it. -/
theorem value?_of_foreign (inserted : Inserted key value rest entries)
    (foreign : field.Foreign key) : field.value? entries = field.value? rest :=
  value?_of_field?_eq (inserted.find?_of_apart foreign.1) (inserted.find?_of_apart foreign.2)

/-- A field that was missing has the value that comes in under one of its spellings. -/
theorem value?_of_new (inserted : Inserted (.str name) value rest entries)
    (spelled : field.Spelled name) (new : field.value? rest = none) :
    field.value? entries = some value := by
  rcases value?_eq_none_iff.mp new with ⟨noWire, noPlain⟩
  by_cases isWire : name = field.wire
  · subst isWire
    exact value?_of_wire (inserted.find?_of_new noWire)
  · have isPlain : name = field.plain := spelled.resolve_left isWire
    subst isPlain
    have found : entries.field? field.plain = some value := inserted.find?_of_new noPlain
    have missing : entries.field? field.wire = none :=
      (inserted.find?_of_apart (by simpa using isWire)).trans noWire
    rw [value?, find?, missing, found]
    rfl

/-- A plain key beside the wire key is not looked at. -/
theorem value?_of_shadowed (inserted : Inserted (.str field.plain) value rest entries)
    (present : rest.field? field.wire ≠ none) (new : rest.field? field.plain = none) :
    field.value? entries = field.value? rest := by
  have apart : field.plain ≠ field.wire := by
    intro same
    rw [same] at new
    exact present new
  rcases found : rest.field? field.wire with _ | wireValue
  · exact absurd found present
  · rw [value?_of_wire found, value?_of_wire
      ((inserted.find?_of_apart (by simpa using apart)).trans found)]

end Field

/-- One change to the keys of a record. -/
inductive KeyChange (fields : List Field) (ignored : List String) : Mapping → Mapping → Prop
  /-- The only key of a field is spelled in one of the two ways instead. -/
  | rename {field : Field} {name otherName : String} {value : Value}
      {rest entries others : Mapping} (member : field ∈ fields) (spelled : field.Spelled name)
      (otherSpelled : field.Spelled otherName) (only : field.value? rest = none)
      (inserted : Mapping.Inserted (.str name) value rest entries)
      (otherInserted : Mapping.Inserted (.str otherName) value rest others) :
      KeyChange fields ignored entries others
  /-- The plain key of a field comes in where the wire key is present. -/
  | shadow {field : Field} {value : Value} {entries others : Mapping} (member : field ∈ fields)
      (present : entries.field? field.wire ≠ none) (new : entries.field? field.plain = none)
      (inserted : Mapping.Inserted (.str field.plain) value entries others) :
      KeyChange fields ignored entries others
  /-- A key comes in that no field has. -/
  | extra {key : Key} {value : Value} {entries others : Mapping}
      (foreign : ∀ field ∈ fields, field.Foreign key)
      (inserted : Mapping.Inserted key value entries others) :
      KeyChange fields ignored entries others
  /-- A key comes in that is ignored. -/
  | write {name : String} {value : Value} {entries others : Mapping} (member : name ∈ ignored)
      (inserted : Mapping.Inserted (.str name) value entries others) :
      KeyChange fields ignored entries others
  /-- A key is dropped that is ignored. -/
  | drop {name : String} {value : Value} {entries others : Mapping} (member : name ∈ ignored)
      (inserted : Mapping.Inserted (.str name) value others entries) :
      KeyChange fields ignored entries others

/-- No value of a field changes with the keys. -/
theorem KeyChange.value?_eq {fields : List Field} {ignored : List String} {entries others : Mapping}
    (change : KeyChange fields ignored entries others) (separate : Separate fields)
    (unused : ∀ name ∈ ignored, ∀ field ∈ fields, ¬field.Spelled name) {field : Field}
    (member : field ∈ fields) : field.value? entries = field.value? others := by
  cases change with
  | @rename renamed _ _ _ _ _ _ isField spelled otherSpelled only inserted otherInserted =>
      by_cases same : field = renamed
      · subst same
        rw [Field.value?_of_new inserted spelled only,
          Field.value?_of_new otherInserted otherSpelled only]
      · have foreign := Field.foreign_of_not_spelled
          (separate.not_spelled member isField same spelled)
        have otherForeign := Field.foreign_of_not_spelled
          (separate.not_spelled member isField same otherSpelled)
        rw [Field.value?_of_foreign inserted foreign,
          Field.value?_of_foreign otherInserted otherForeign]
  | @shadow shadowed _ _ _ isField present new inserted =>
      by_cases same : field = shadowed
      · subst same
        exact (Field.value?_of_shadowed inserted present new).symm
      · have foreign := Field.foreign_of_not_spelled
          (separate.not_spelled member isField same (Or.inr rfl))
        exact (Field.value?_of_foreign inserted foreign).symm
  | extra foreign inserted =>
      exact (Field.value?_of_foreign inserted (foreign field member)).symm
  | write isIgnored inserted =>
      have foreign := Field.foreign_of_not_spelled (unused _ isIgnored field member)
      exact (Field.value?_of_foreign inserted foreign).symm
  | drop isIgnored inserted =>
      have foreign := Field.foreign_of_not_spelled (unused _ isIgnored field member)
      exact Field.value?_of_foreign inserted foreign

end SqlPipeline
