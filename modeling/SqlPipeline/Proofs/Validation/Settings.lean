import SqlPipeline.Proofs.Validation.Records
import SqlPipeline.Validation.Settings

/-!
# What settings that were read hold

Whatever document they come from, settings have an identifier as alias and a position for each stage
that recovery produces: given positions are written over the defaults and take none away.
-/

namespace SqlPipeline

namespace StagePositions

theorem position?_put (kind other : StageKind) (position : Position) (positions : StagePositions) :
    position? other (put kind position positions) =
      if kind = other then some position else position? other positions := by
  induction positions with
  | nil => simp [put, position?]
  | cons entry rest ih =>
      rcases entry with ⟨first, old⟩
      rw [put]
      by_cases same : first = kind
      · subst same
        rw [if_pos (by simp), position?, position?]
        by_cases found : first = other <;> simp [found]
      · rw [if_neg (by simpa using same), position?, position?, ih]
        by_cases found : first = other
        · subst found
          simp [Ne.symm same]
        · simp [found]

/-- No kind loses its position when positions are written over others. -/
theorem isSome_position?_foldl_put {kind : StageKind} (given : List (StageKind × Position))
    {positions : StagePositions} (present : (position? kind positions).isSome = true) :
    (position? kind (given.foldl (fun positions (kind, position) => put kind position positions)
      positions)).isSome = true := by
  induction given generalizing positions with
  | nil => exact present
  | cons entry rest ih =>
      apply ih
      rw [position?_put]
      split
      · rfl
      · exact present

/-- The stages that recovery produces. -/
def recovered : List StageKind := [.source, .filter, .aggregate, .target]

theorem isSome_position?_default {kind : StageKind} (isRecovered : kind ∈ recovered) :
    (position? kind default).isSome = true := by
  simp only [recovered, List.mem_cons, List.not_mem_nil, or_false] at isRecovered
  rcases isRecovered with rfl | rfl | rfl | rfl <;> rfl

theorem isSome_position?_of_read {document : Value} {positions : StagePositions}
    (found : read document = .valid positions) {kind : StageKind} (isRecovered : kind ∈ recovered) :
    (position? kind positions).isSome = true := by
  cases document with
  | map entries =>
      rcases Checked.map_eq_valid_iff.mp found with ⟨given, -, rfl⟩
      exact isSome_position?_foldl_put given (isSome_position?_default isRecovered)
  | _ => cases found

end StagePositions

namespace Settings

theorem isIdentifier_of_readAlias {document : Value} {name : String}
    (found : readAlias document = .valid name) : Text.isIdentifier name.toList = true := by
  rcases Checked.andThen_eq_valid_iff.mp found with ⟨text, -, checked⟩
  split at checked
  · next isIdentifier =>
    cases checked
    exact isIdentifier
  · cases checked

/-- The alias of settings is an identifier, and each stage that recovery produces has a position. -/
theorem wellFormed_of_read {document : Value} {settings : Settings}
    (found : read document = .valid settings) :
    Text.isIdentifier settings.sourceAlias.toList = true ∧
      ∀ kind ∈ StagePositions.recovered,
        (settings.stagePositions.position? kind).isSome = true := by
  cases document with
  | map entries =>
      rcases Checked.seq_eq_valid_iff.mp found with ⟨_, logging, toPositions, -, rfl⟩
      rcases Checked.seq_eq_valid_iff.mp toPositions with
        ⟨_, positions, toStrategy, isPositions, rfl⟩
      rcases Checked.seq_eq_valid_iff.mp toStrategy with ⟨_, strategy, toAlias, -, rfl⟩
      rcases Checked.map_eq_valid_iff.mp toAlias with ⟨name, isName, rfl⟩
      constructor
      · rcases Field.eq_default_or_read isName with rfl | ⟨document, read⟩
        · change Text.isIdentifier "source".toList = true
          decide +kernel
        · exact isIdentifier_of_readAlias read
      · intro kind isRecovered
        rcases Field.eq_default_or_read isPositions with rfl | ⟨document, read⟩
        · exact StagePositions.isSome_position?_default isRecovered
        · exact StagePositions.isSome_position?_of_read read isRecovered
  | _ => cases found

end Settings

end SqlPipeline
