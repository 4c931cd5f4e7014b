import SqlPipeline.Log.Event

/-!
# Overlaying one document on another

The entries of the stronger mapping win over those of the weaker one; where both hold mappings at a
key these are overlaid in turn. Keys keep the order of the weaker mapping, followed by what is new
in the stronger one.
-/

namespace SqlPipeline

namespace Mapping

mutual

/-- Overlays the entries of the second mapping on the first. -/
def overlay (weaker : List (Key × Value)) : List (Key × Value) → List (Key × Value)
  | [] => weaker
  | (key, value) :: rest => overlay (put key (overlayValue (find? key weaker) value) weaker) rest

/-- The value that results at a key: two mappings are overlaid, otherwise the stronger value
stands. -/
def overlayValue (old : Option Value) : Value → Value
  | .map entries =>
    match old with
    | some (.map below) => .map (overlay below entries)
    | _ => .map entries
  | value => value

end

mutual

/-- The keys at which both sides hold mappings, in the order in which they are overlaid. -/
def sharedMappings (weaker : List (Key × Value)) : List (Key × Value) → List Key
  | [] => []
  | (key, value) :: rest =>
    let old := find? key weaker
    sharedBelow key old value ++ sharedMappings (put key (overlayValue old value) weaker) rest

/-- The shared mappings at one key and below. -/
def sharedBelow (key : Key) (old : Option Value) : Value → List Key
  | .map entries =>
    match old with
    | some (.map below) => key :: sharedMappings below entries
    | _ => []
  | _ => []

end

/-- The report on the mappings that are overlaid. -/
def overlayEvents (weaker stronger : Mapping) : List Event :=
  (sharedMappings weaker stronger).map fun key =>
    { level := .debug
      message := "Deep merging nested dictionary"
      details := [("key", key.toValue)] }

@[simp] theorem overlay_nil (weaker : Mapping) : overlay weaker [] = weaker := by
  simp [overlay]

theorem overlay_cons (weaker rest : Mapping) (key : Key) (value : Value) :
    overlay weaker ((key, value) :: rest) =
      overlay (put key (overlayValue (find? key weaker) value) weaker) rest := by
  simp [overlay]

end Mapping

end SqlPipeline
