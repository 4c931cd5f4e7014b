import SqlPipeline.Validation.Scalar
import SqlPipeline.Value.Display

/-!
# Reading mappings entry by entry

Some mappings are no records: their keys are data too. Each entry is checked under its key, the key
before the value.
-/

namespace SqlPipeline

/-- A key as a step on the way to a place: numbers stay numbers, a truth value counts as one. -/
def Key.toStep : Key → Step
  | .str text => .field text
  | .int number =>
    if -Value.machineLimit ≤ number && number < Value.machineLimit then .index number
    else .field (toString number)
  | .bool flag => .index (if flag then 1 else 0)
  | other => .field other.quoted

/-- Checks the entries of a mapping in order. -/
def Checked.entries {κ α : Type} (readKey : Value → Checked κ) (readValue : Value → Checked α) :
    Mapping → Checked (List (κ × α))
  | [] => .valid []
  | (key, value) :: rest =>
    let name := (readKey key.toValue).under (.field "[key]")
    let entry := (Prod.mk <$> name <*> readValue value).under key.toStep
    List.cons <$> entry <*> entries readKey readValue rest

/-- A mapping with textual keys; of two entries with one key the later wins. -/
def Mapping.named (fields : List (String × Value)) : Mapping :=
  ofEntries (fields.map fun (name, value) => (.str name, value))

/-- Reads a free mapping: its keys are texts, its values are taken as they are. -/
def Value.readMapping : Value → Checked Mapping
  | .map entries => Mapping.named <$> Checked.entries readText .valid entries
  | _ => .complain .notMapping

end SqlPipeline
