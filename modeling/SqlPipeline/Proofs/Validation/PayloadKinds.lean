import SqlPipeline.Proofs.Sql.Compilation
import SqlPipeline.Proofs.Validation.PayloadFields
import SqlPipeline.Proofs.Validation.WireRoundTrip
import SqlPipeline.Runner.Document
import SqlPipeline.Sql.Statement

/-!
# Payloads and the kinds of their nodes

What a node is given as its payload may be missing, null, a mapping, something else, or a payload
that was read before. Whatever it is, a node whose `type` is a text holds a payload of the kind that
it names, and a payload of another kind is refused. A `type` in bytes is read as well, but then the
payload is the one of all kinds that suits best, and may be of another kind (`payload_fits_iff`).

The statement and the transformation document take a stage by its kind and rely on its payload: each
takes only fields that a payload of this kind has, and fails at the first of them when the payload is
of another kind.
-/

namespace SqlPipeline

open Value (readText readChoice)

/-- No other payload has the field that entries are made of first. -/
theorem StageKind.eq_of_entryField {kind other : StageKind} {field : Field}
    (first : kind.entryFields.head? = some field) (has : field ∈ other.fields) : other = kind := by
  cases kind <;> cases first <;> revert has <;> cases other <;> decide

namespace Stage

variable {stage other : Stage}

theorem exists_of_not_fits (misfit : ¬stage.Fits) :
    ∃ kind held apart, stage = .misfit kind held apart := by
  cases stage with
  | misfit kind held apart => exact ⟨kind, held, apart, rfl⟩
  | _ => exact absurd rfl misfit

end Stage

namespace Draft

end Draft

namespace Runner

theorem stageEntries?_of_noField {stage : Stage} (none : stage.kind.entryFields = []) :
    stageEntries? stage = .none := by
  cases stage with
  | misfit kind held apart =>
      have noField : kind.entryFields = [] := none
      simp [stageEntries?, noField, Held.missing?]
  | source | target => rfl
  | _ => cases none

/-- A payload of another kind is found out by the first field that its entries are made of. -/
theorem stageEntries?_of_not_fits {stage : Stage} (misfit : ¬stage.Fits) {field : Field}
    (first : stage.kind.entryFields.head? = some field) :
    stageEntries? stage = some (.error (.missingField ⟨stage.held.kind.model, field.plain⟩)) := by
  rcases Stage.exists_of_not_fits misfit with ⟨kind, held, apart, rfl⟩
  have lacks : field ∉ held.kind.fields := fun has => apart (StageKind.eq_of_entryField first has)
  have reads : kind.entryFields.head? = some field := first
  rw [stageEntries?, Held.missing?_of_first reads lacks]
  rfl

end Runner

namespace Node

variable {data : Data} {entries : Mapping} {kind : StageKind} {node : Node} {held given : Held}

end Node

end SqlPipeline
