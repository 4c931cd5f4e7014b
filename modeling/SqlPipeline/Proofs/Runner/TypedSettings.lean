import Mathlib.Data.List.Basic
import Mathlib.Tactic.Common
import SqlPipeline.Runner.Typed

/-!
# What becomes of overrides

The typed settings of a transformation are those of its kind and those of the operation chosen, each
filled in on its own (`typedSettings_eq`). No name comes twice among them, so every setting has one
value. A value that is given for a setting is used unless it is empty. An empty value gives way to
the default even where it means something, such as a sequence that starts at zero:
`typedSettings_honours_iff` says that this is the only way for a given value to be overlooked.
-/

namespace SqlPipeline

namespace Runner

/-- The settings of a kind of transformation and, for a computation on places, those of the
operation that is chosen explicitly; with their defaults. -/
def settingsOf (kind : TransformKind) (overrides : Mapping) : List (String × Value) :=
  defaults kind ++
    match kind, overrides.field? "operation" with
    | .geolocation, some (.str operation) => operationDefaults operation
    | _, _ => []

/-- The value that is given for a setting. A null gives none. -/
def given? (overrides : Mapping) (name : String) : Option Value :=
  match overrides.field? name with
  | none | some .null => none
  | some value => some value

/-- Whether a value is given for a setting that counts as empty and is not the default. -/
def Overlooked (overrides : Mapping) (name : String) (default : Value) : Prop :=
  ∃ value, given? overrides name = some value ∧ value.isTruthy = false ∧ value ≠ default

variable {kind : TransformKind} {overrides : Mapping}

theorem settingsOf_of_ne (elsewhere : kind ≠ .geolocation) :
    settingsOf kind overrides = defaults kind := by
  cases kind <;> simp_all [settingsOf]

theorem typedSettings_eq_of_ne (typed : kind ≠ .basic) (elsewhere : kind ≠ .geolocation) :
    typedSettings kind overrides = .ok (fill overrides (defaults kind)) := by
  simp only [typedSettings]
  rw [if_neg typed, if_neg elsewhere]

theorem typedSettings_eq_of_operation {added : List (String × Value)}
    (chosen : operationSettings overrides = .ok added) :
    typedSettings .geolocation overrides =
      .ok (fill overrides (defaults .geolocation ++ added)) := by
  have filled : fill overrides (defaults .geolocation ++ added) =
      fill overrides (defaults .geolocation) ++ fill overrides added := List.map_append
  rw [filled, typedSettings, chosen]
  rfl

/-- The settings of a kind and of its operation are filled in, if the operation is a text. -/
theorem typedSettings_eq (typed : kind ≠ .basic)
    (named : ∀ value, overrides.field? "operation" = some value → ∃ operation, value = .str operation) :
    typedSettings kind overrides = .ok (fill overrides (settingsOf kind overrides)) := by
  by_cases place : kind = .geolocation
  · subst place
    rcases chosen : overrides.field? "operation" with _ | value
    · apply typedSettings_eq_of_operation
      simp only [operationSettings, chosen]
    · rcases named value chosen with ⟨operation, rfl⟩
      simp only [settingsOf, chosen]
      apply typedSettings_eq_of_operation
      simp only [operationSettings, chosen]
  · rw [settingsOf_of_ne place]
    exact typedSettings_eq_of_ne typed place

theorem nodup_names_geolocation (operation : String) :
    ((defaults .geolocation ++ operationDefaults operation).map Prod.fst).Nodup := by
  rw [operationDefaults]
  split
  · decide
  · split <;> decide

/-- No setting comes twice. -/
theorem nodup_names_settingsOf (kind : TransformKind) (overrides : Mapping) :
    ((settingsOf kind overrides).map Prod.fst).Nodup := by
  by_cases place : kind = .geolocation
  · subst place
    simp only [settingsOf]
    split
    · exact nodup_names_geolocation _
    · decide
  · rw [settingsOf_of_ne place]
    cases kind <;> decide

theorem map_fst_fill (overrides : Mapping) (settings : List (String × Value)) :
    (fill overrides settings).map Prod.fst = settings.map Prod.fst := by
  simp [fill]

/-- Where no name comes twice, each setting is filled in under its name. -/
theorem lookup_fill {settings : List (String × Value)} (distinct : (settings.map Prod.fst).Nodup)
    {name : String} {default : Value} (member : (name, default) ∈ settings) :
    (fill overrides settings).lookup name = some (setting overrides name default) := by
  rcases List.append_of_mem member with ⟨front, back, rfl⟩
  rw [List.lookup_eq_some_iff]
  refine ⟨fill overrides front, fill overrides back, by simp [fill], ?_⟩
  intro entry isEarlier
  rw [List.map_append, List.nodup_append] at distinct
  have earlier : entry.1 ∈ front.map Prod.fst := by
    rw [← map_fst_fill overrides front]
    exact List.mem_map_of_mem isEarlier
  have apart := distinct.2.2 entry.1 earlier name (by simp)
  simpa using Ne.symm apart

theorem given?_eq_some_iff {name : String} {value : Value} :
    given? overrides name = some value ↔ overrides.field? name = some value ∧ value ≠ .null := by
  rw [given?]
  rcases overrides.field? name with _ | other
  · simp
  · cases other <;> grind

/-- A setting has the value that is given for it, or else its default, unless the given value is
overlooked. -/
theorem setting_eq_iff {name : String} {default : Value} :
    setting overrides name default = (given? overrides name).getD default ↔
      ¬Overlooked overrides name default := by
  rcases given : given? overrides name with _ | value
  · have usesDefault : setting overrides name default = default := by
      rw [setting]
      rcases known : overrides.field? name with _ | value
      · rfl
      · have isNull : value = .null := by
          by_contra notNull
          rw [given?_eq_some_iff.mpr ⟨known, notNull⟩] at given
          cases given
        rw [isNull]
        rfl
    simp [usesDefault, Overlooked, given]
  · have known := (given?_eq_some_iff.mp given).1
    cases truthy : value.isTruthy with
    | false => simp [setting, known, truthy, Overlooked, given, @eq_comm _ default]
    | true => simp [setting, known, truthy, Overlooked, given]

/-- An overlooked value gives way to the default. -/
theorem setting_of_overlooked {name : String} {default : Value}
    (overlooked : Overlooked overrides name default) : setting overrides name default = default := by
  rcases overlooked with ⟨value, given, empty, -⟩
  simp [setting, (given?_eq_some_iff.mp given).1, empty]

/-- The settings are those of the kind and of the operation chosen. Each has the value that is given
for it, or else its default, exactly when the given value is not overlooked; an overlooked value
gives way to the default. -/
theorem typedSettings_honours_iff (typed : kind ≠ .basic)
    (named : ∀ value, overrides.field? "operation" = some value →
      ∃ operation, value = .str operation) :
    ∃ settings, typedSettings kind overrides = .ok settings ∧
      settings.map Prod.fst = (settingsOf kind overrides).map Prod.fst ∧
      (settings.map Prod.fst).Nodup ∧
      ∀ name default, (name, default) ∈ settingsOf kind overrides →
        (settings.lookup name = some ((given? overrides name).getD default) ↔
          ¬Overlooked overrides name default) ∧
        (Overlooked overrides name default → settings.lookup name = some default) := by
  have distinct := nodup_names_settingsOf kind overrides
  refine ⟨_, typedSettings_eq typed named, map_fst_fill _ _, ?_, ?_⟩
  · rwa [map_fst_fill]
  · intro name default member
    rw [lookup_fill distinct member]
    constructor
    · rw [Option.some_inj]
      exact setting_eq_iff
    · intro overlooked
      rw [setting_of_overlooked overlooked]

/-- A computation on places whose list of points is empty, like the default, and whose target column
is an empty text, unlike the default. -/
def polygonChoice : Mapping :=
  [(.str "operation", .str "point_in_polygon"), (.str "point_column", .str "place"),
    (.str "polygon", .list []), (.str "target_column", .str "")]

theorem typedSettings_honours_polygon :
    ∃ settings, typedSettings .geolocation polygonChoice = .ok settings ∧
      settings.map Prod.fst = ["operation", "target_column", "point_column", "polygon"] ∧
      settings.lookup "point_column" = some (.str "place") ∧
      settings.lookup "polygon" = some (.list []) ∧
      settings.lookup "target_column" = some (.str "geolocation_result") := by
  have named : ∀ value, polygonChoice.field? "operation" = some value →
      ∃ operation, value = .str operation := by
    rintro value chosen
    cases chosen
    exact ⟨_, rfl⟩
  have listed : settingsOf .geolocation polygonChoice =
      [("operation", .str "distance"), ("target_column", .str "geolocation_result"),
        ("point_column", .str ""), ("polygon", .list [])] := rfl
  rcases @typedSettings_honours_iff .geolocation polygonChoice (by decide) named with
    ⟨settings, known, names, -, honours⟩
  rw [listed] at names honours
  refine ⟨settings, known, names, ?_, ?_, ?_⟩
  · apply (honours "point_column" (.str "") (by simp)).1.mpr
    rintro ⟨value, given, empty, -⟩
    cases given
    cases empty
  · apply (honours "polygon" (.list []) (by simp)).1.mpr
    rintro ⟨value, given, -, other⟩
    cases given
    exact other rfl
  · apply (honours "target_column" _ (by simp)).2
    exact ⟨.str "", rfl, rfl, by simp⟩

/-- A sequence that is to start at zero starts at one. -/
theorem typedSettings_startAtZero :
    typedSettings .sequenceGenerator [(.str "start_value", .int 0)] =
        .ok [("target_column", .str ""), ("start_value", .int 1), ("increment", .int 1)] ∧
      given? [(.str "start_value", .int 0)] "start_value" = some (.int 0) ∧
      ¬∃ settings, typedSettings .sequenceGenerator [(.str "start_value", .int 0)] = .ok settings ∧
        settings.lookup "start_value" =
          some ((given? [(.str "start_value", .int 0)] "start_value").getD (.int 1)) := by
  have known : typedSettings .sequenceGenerator [(.str "start_value", .int 0)] =
      .ok [("target_column", .str ""), ("start_value", .int 1), ("increment", .int 1)] := rfl
  refine ⟨known, rfl, ?_⟩
  rintro ⟨settings, found, value⟩
  rw [known] at found
  cases found
  cases value

end Runner

end SqlPipeline
