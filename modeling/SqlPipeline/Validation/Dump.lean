import SqlPipeline.Validation.Field

/-!
# Writing records

A record is written field by field, under either spelling, with or without the fields that are null.
Free mappings inside a record are data and written as they are.
-/

namespace SqlPipeline

/-- How records are written. -/
structure DumpStyle where
  /-- Whether the wire spelling is used. -/
  wire : Bool := true
  /-- Whether fields that are null are left out. -/
  skipNull : Bool := false

/-- The spelling of a field in a style. -/
def DumpStyle.spelling (style : DumpStyle) (field : Field) : String :=
  if style.wire then field.wire else field.plain

/-- Whether a document is null. -/
def Value.isNull : Value → Bool
  | .null => true
  | _ => false

/-- Writes a record. -/
def DumpStyle.record (style : DumpStyle) (fields : List (Field × Value)) : Value :=
  let kept := fields.filter fun (_, value) => !(style.skipNull && value.isNull)
  .record (kept.map fun (field, value) => (style.spelling field, value))

/-- Writes a member of a closed choice. -/
def Value.choice {α : Type} [Choice α] (member : α) : Value :=
  .str (Choice.label member)

/-- Writes a value that may be missing. -/
def Value.orNull {α : Type} (write : α → Value) : Option α → Value
  | some value => write value
  | none => .null

end SqlPipeline
