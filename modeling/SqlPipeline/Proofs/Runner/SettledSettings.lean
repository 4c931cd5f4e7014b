import SqlPipeline.Proofs.Runner.TypedSettings
import SqlPipeline.Proofs.Value.Mapping

/-!
# Settings that are given back

The settings of a transformation can be given back as its overrides. Every one of them is filled in
already: it is either a value that counts as given, which stands, or the default, which a value that
counts as empty gives way to (`fill_fill`). So giving settings back changes nothing, provided that
the same settings are asked for again. A computation on places without an operation of its own is
the one that asks for more the second time: the operation is then the default one, which is now
given explicitly and brings its own settings along. `typedSettings_settled` says that this is all
that happens.
-/

namespace SqlPipeline

namespace Runner

/-- Settings as overrides. -/
def asOverrides (settings : List (String × Value)) : Mapping :=
  settings.map fun (name, value) => (.str name, value)

variable {kind : TransformKind} {overrides : Mapping} {settings : List (String × Value)}

theorem field?_asOverrides (settings : List (String × Value)) (name : String) :
    (asOverrides settings).field? name = settings.lookup name := by
  induction settings with
  | nil => rfl
  | cons first rest ih =>
      rcases first with ⟨other, value⟩
      change (if (Key.str other).same (.str name) then some value else (asOverrides rest).field? name) = _
      rw [ih, List.lookup_cons, Key.same_str]
      by_cases found : other = name
      · simp [found]
      · have apart : (name == other) = false := by simpa using Ne.symm found
        simp [found, apart]

/-- A setting is either a value that counts as given or the default. -/
theorem isTruthy_setting_or_eq (overrides : Mapping) (name : String) (default : Value) :
    (setting overrides name default).isTruthy = true ∨ setting overrides name default = default := by
  rw [setting]
  split
  · split
    · next truthy => exact Or.inl truthy
    · exact Or.inr rfl
  · exact Or.inr rfl

/-- A setting that is given back keeps its value. -/
theorem setting_of_filled {others : Mapping} {name : String} {default : Value}
    (given : others.field? name = some (setting overrides name default)) :
    setting others name default = setting overrides name default := by
  rw [setting, given]
  change (if (setting overrides name default).isTruthy then setting overrides name default
    else default) = setting overrides name default
  rcases isTruthy_setting_or_eq overrides name default with truthy | isDefault
  · rw [if_pos truthy]
  · rw [isDefault, ite_self]

/-- Settings that were filled in are filled in already. -/
theorem fill_fill (distinct : (settings.map Prod.fst).Nodup) :
    fill (asOverrides (fill overrides settings)) settings = fill overrides settings := by
  apply List.map_congr_left
  rintro ⟨name, default⟩ member
  have given : (asOverrides (fill overrides settings)).field? name =
      some (setting overrides name default) := by
    rw [field?_asOverrides, lookup_fill distinct member]
  exact congrArg (Prod.mk name) (setting_of_filled given)

theorem typedSettings_filled_of_ne (typed : kind ≠ .basic) (elsewhere : kind ≠ .geolocation) :
    typedSettings kind (asOverrides (fill overrides (defaults kind))) =
      .ok (fill overrides (defaults kind)) := by
  have distinct := nodup_names_settingsOf kind overrides
  rw [settingsOf_of_ne elsewhere] at distinct
  rw [typedSettings_eq_of_ne typed elsewhere, fill_fill distinct]

/-- The operation among the settings of a computation on places. -/
theorem operation_filled (overrides : Mapping) (added : List (String × Value)) :
    (asOverrides (fill overrides (defaults .geolocation ++ added))).field? "operation" =
      some (setting overrides "operation" (.str "distance")) := by
  rw [field?_asOverrides]
  rfl

/-- The settings of a computation on places whose operation is a text, with those of the operation. -/
theorem typedSettings_of_operation {operation : String}
    (chosen : overrides.field? "operation" = some (.str operation)) :
    typedSettings .geolocation overrides =
      .ok (fill overrides (defaults .geolocation ++ operationDefaults operation)) :=
  typedSettings_eq_of_operation (by simp only [operationSettings, chosen])

theorem typedSettings_filled_of_operation {operation : String} (named : operation ≠ "")
    (chosen : overrides.field? "operation" = some (.str operation)) :
    typedSettings .geolocation
        (asOverrides (fill overrides (defaults .geolocation ++ operationDefaults operation))) =
      .ok (fill overrides (defaults .geolocation ++ operationDefaults operation)) := by
  have kept : setting overrides "operation" (.str "distance") = .str operation := by
    simp [setting, chosen, Value.isTruthy, named]
  have again := operation_filled overrides (operationDefaults operation)
  rw [kept] at again
  rw [typedSettings_of_operation again, fill_fill (nodup_names_geolocation operation)]

/-- Whether no operation is chosen: it is missing, null or the empty text. -/
def Unchosen (overrides : Mapping) : Prop :=
  overrides.field? "operation" = none ∨ overrides.field? "operation" = some .null ∨
    overrides.field? "operation" = some (.str "")

theorem operationSettings_of_unchosen (unchosen : Unchosen overrides) :
    operationSettings overrides = .ok [] := by
  rcases unchosen with missing | isNull | isEmpty
  · simp only [operationSettings, missing]
  · simp only [operationSettings, isNull]
    rfl
  · simp only [operationSettings, isEmpty]
    rfl

theorem setting_of_unchosen (unchosen : Unchosen overrides) (default : Value) :
    setting overrides "operation" default = default := by
  rcases unchosen with missing | isNull | isEmpty
  · simp only [setting, missing]
  · simp only [setting, isNull]
    rfl
  · simp only [setting, isEmpty]
    rfl

/-- Giving typed settings back as overrides changes nothing: not for a kind whose settings are
fixed, nor for a computation on places with an operation of its own. Without one the default
operation brings its settings along at the second time, and nothing changes after that. -/
theorem typedSettings_settled (overrides : Mapping) :
    (∀ kind, kind ≠ .basic → kind ≠ .geolocation →
      ∃ settings, typedSettings kind overrides = .ok settings ∧
        typedSettings kind (asOverrides settings) = .ok settings) ∧
    (∀ operation, operation ≠ "" → overrides.field? "operation" = some (.str operation) →
      ∃ settings, typedSettings .geolocation overrides = .ok settings ∧
        typedSettings .geolocation (asOverrides settings) = .ok settings) ∧
    (Unchosen overrides →
      ∃ first second, typedSettings .geolocation overrides = .ok first ∧
        typedSettings .geolocation (asOverrides first) = .ok second ∧
        typedSettings .geolocation (asOverrides second) = .ok second) := by
  refine ⟨?_, ?_, ?_⟩
  · intro kind typed elsewhere
    exact ⟨_, typedSettings_eq_of_ne typed elsewhere, typedSettings_filled_of_ne typed elsewhere⟩
  · intro operation named chosen
    exact ⟨_, typedSettings_of_operation chosen, typedSettings_filled_of_operation named chosen⟩
  · intro unchosen
    have first := typedSettings_eq_of_operation (operationSettings_of_unchosen unchosen)
    have chosen := operation_filled overrides []
    rw [setting_of_unchosen unchosen] at chosen
    exact ⟨_, _, first, typedSettings_of_operation chosen,
      typedSettings_filled_of_operation (by decide) chosen⟩

/-- A rank whose number is zero, which counts as empty. -/
def topNone : Mapping := [(.str "order_column", .str "score"), (.str "n", .int 0)]

theorem typedSettings_settled_places :
    (∃ settings, typedSettings .rank topNone = .ok settings ∧
      settings.lookup "n" = some (.int 10) ∧
      typedSettings .rank (asOverrides settings) = .ok settings) ∧
    (∃ settings, typedSettings .geolocation polygonChoice = .ok settings ∧
      typedSettings .geolocation (asOverrides settings) = .ok settings) ∧
    (∃ first second, typedSettings .geolocation topNone = .ok first ∧
      first.map Prod.fst = ["operation", "target_column"] ∧
      typedSettings .geolocation (asOverrides first) = .ok second ∧
      second.map Prod.fst = ["operation", "target_column", "point1_column", "point2_column"] ∧
      typedSettings .geolocation (asOverrides second) = .ok second) := by
  refine ⟨?_, ?_, ?_⟩
  · rcases (typedSettings_settled topNone).1 .rank (by decide) (by decide) with
      ⟨settings, known, settled⟩
    refine ⟨settings, known, ?_, settled⟩
    cases known
    rfl
  · exact (typedSettings_settled polygonChoice).2.1 "point_in_polygon" (by decide) rfl
  · rcases (typedSettings_settled topNone).2.2 (Or.inl rfl) with
      ⟨first, second, isFirst, isSecond, settled⟩
    refine ⟨first, second, isFirst, ?_, isSecond, ?_, settled⟩
    · cases isFirst
      rfl
    · cases isFirst
      cases isSecond
      rfl

end Runner

end SqlPipeline
