import SqlPipeline.Pipeline.Stage
import SqlPipeline.Text.UpperCase

/-!
# Typed transformation settings

Each kind of column transformation has its settings with defaults. What a transform gives for a
setting stands unless it is empty: a null, false, a zero, and an empty text, list or mapping all
give way to the default. A computation on places has two more settings that depend on the operation
chosen. A basic transformation has no typed settings.
-/

namespace SqlPipeline

namespace Runner

/-- Why a transformation document cannot be produced. -/
inductive RunnerError where
  /-- The operation on places is of a kind that cannot be looked up, such as a list. -/
  | unusableOperation
  /-- The kind of transformation has no typed settings. -/
  | untyped (kind : TransformKind)
  /-- The payload of a node does not have a field that is read. -/
  | missingField (missing : MissingField)
  deriving DecidableEq, Repr

/-- The wording of an error. -/
def RunnerError.message : RunnerError → String
  | .unusableOperation => "the operation cannot be looked up"
  | .untyped kind =>
    "<TransformationType." ++ String.ofList (Text.upper kind.label.toList) ++ ": '" ++ kind.label ++
      "'>"
  | .missingField missing => missing.message

/-- The settings of a kind of transformation with their defaults. -/
def defaults : TransformKind → List (String × Value)
  | .basic => []
  | .sorter => [("sort_columns", .list [])]
  | .expression => [("expressions", .list [])]
  | .dataCleansing => [("rules", .list [])]
  | .rank =>
    [("rank_type", .str "top_n"), ("order_column", .str ""), ("n", .int 10),
      ("partition_by", .list [])]
  | .sequenceGenerator =>
    [("target_column", .str ""), ("start_value", .int 1), ("increment", .int 1)]
  | .windowFunctions => [("windows", .list [])]
  | .normalizer =>
    [("columns_to_denormalize", .list []), ("key_column_name", .str "key"),
      ("value_column_name", .str "value")]
  | .jsonReader =>
    [("source_column", .str ""), ("format", .str "json"), ("fields_to_extract", .list [])]
  | .geolocation => [("operation", .str "distance"), ("target_column", .str "geolocation_result")]
  | .dataValidation =>
    [("validation_type", .str "email"), ("source_column", .str ""), ("target_column", .str ""),
      ("is_valid_column", .str "")]
  | .deduplication =>
    [("key_columns", .list []), ("method", .str "exact"), ("similarity_threshold", .float 0.8),
      ("keep_strategy", .str "first")]

/-- The settings that an operation on places adds, with their defaults. -/
def operationDefaults (operation : String) : List (String × Value) :=
  if operation = "distance" then [("point1_column", .str ""), ("point2_column", .str "")]
  else if operation = "point_in_polygon" then [("point_column", .str ""), ("polygon", .list [])]
  else []

/-- The given value of a setting, or its default when the given one is missing or empty. -/
def setting (overrides : Mapping) (name : String) (default : Value) : Value :=
  match overrides.field? name with
  | some value => if value.isTruthy then value else default
  | none => default

/-- Settings with their defaults, filled in from overrides. -/
def fill (overrides : Mapping) (settings : List (String × Value)) : List (String × Value) :=
  settings.map fun (name, default) => (name, setting overrides name default)

/-- Whether a value can be looked up in a table: lists, mappings and sets cannot, and a pair only
if both its parts can. -/
def canBeLookedUp : Value → Bool
  | .list _ | .map _ | .set _ => false
  | .pair first second => canBeLookedUp first && canBeLookedUp second
  | _ => true

/-- The settings that the chosen operation adds. The operation has to be chosen explicitly. -/
def operationSettings (overrides : Mapping) : Except RunnerError (List (String × Value)) :=
  match overrides.field? "operation" with
  | some (.str operation) => .ok (operationDefaults operation)
  | some other => if canBeLookedUp other then .ok [] else .error .unusableOperation
  | none => .ok []

/-- The settings of a kind of transformation after overrides. -/
def typedSettings (kind : TransformKind) (overrides : Mapping) :
    Except RunnerError (List (String × Value)) :=
  let common := fill overrides (defaults kind)
  if kind = .basic then .error (.untyped kind)
  else if kind = .geolocation then
    (operationSettings overrides).map fun added => common ++ fill overrides added
  else .ok common

end Runner

end SqlPipeline
