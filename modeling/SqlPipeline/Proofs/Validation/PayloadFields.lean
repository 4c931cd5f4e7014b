import SqlPipeline.Proofs.Validation.Payloads
import SqlPipeline.Validation.Graph

/-!
# The fields of a payload

Every kind of stage has its fields, and a payload holds a value for each field of its kind. The
fields are those under which a payload is written (`Held.record_fields`). Of two payloads with the same
values under some fields nothing is the same but these: what is made of a payload reads no more than
some fields if payloads that agree there are treated alike (`Stage.Suffices`).
-/

namespace SqlPipeline

open Value (readText readOptional readList)

theorem StageKind.separate_fields (kind : StageKind) : Separate kind.fields := by
  cases kind <;> decide

namespace Held

/-- The fields of a payload with their values. -/
def fields : Held → List (Field × Value)
  | ⟨.source, payload⟩ => Source.fields payload
  | ⟨.join, payload⟩ => Join.fields payload
  | ⟨.filter, payload⟩ => Filter.fields {} payload
  | ⟨.aggregate, payload⟩ => Aggregate.fields {} payload
  | ⟨.transform, payload⟩ => TransformList.fields {} payload
  | ⟨.lookup, payload⟩ => Lookup.fields payload
  | ⟨.target, payload⟩ => Target.fields payload

theorem record_fields (held : Held) : held.dump {} = DumpStyle.record {} held.fields := by
  rcases held with ⟨kind, payload⟩
  cases kind <;> rfl

theorem map_fst_fields (held : Held) : held.fields.map Prod.fst = held.kind.fields := by
  rcases held with ⟨kind, payload⟩
  cases kind <;> rfl

end Held

namespace Stage

/-- The value of a field of a payload, if the payload has that field. -/
def value? (field : Field) (stage : Stage) : Option Value :=
  stage.held.fields.lookup field

theorem isSome_value?_iff {field : Field} {stage : Stage} :
    (stage.value? field).isSome = true ↔ field ∈ stage.held.kind.fields := by
  rw [← Held.map_fst_fields, value?, List.lookup_isSome_iff]
  simp

/-- Stages of one kind whose payloads have the same values under some fields. -/
structure Agree (listed : List Field) (stage other : Stage) : Prop where
  sameKind : stage.kind = other.kind
  sameValue : ∀ field ∈ listed, stage.value? field = other.value? field

/-- A stage with the same value under a field which only the payload of its kind has holds that
payload too. -/
theorem Agree.fits {listed : List Field} {stage other : Stage} (agree : Agree listed stage other)
    (fits : stage.Fits) {field : Field} (member : field ∈ listed) (has : field ∈ stage.kind.fields)
    (only : ∀ kind, field ∈ StageKind.fields kind → kind = stage.kind) : other.Fits := by
  rw [← fits, ← isSome_value?_iff, agree.sameValue field member, isSome_value?_iff] at has
  rw [Fits, only _ has, agree.sameKind]

end Stage

namespace Value

variable {α β : Type}

end Value

end SqlPipeline
