import SqlPipeline.Choice
import SqlPipeline.Pipeline.Field
import SqlPipeline.Text.Encoding
import SqlPipeline.Validation.Fault

/-!
# Fields and readers

A reader checks a document and gives it a type. A record is read field by field. A field has two
spellings: the one on the wire and a plain one; the wire spelling is looked for first, and a fault
names the spelling that was found (the wire spelling when the field is missing). Bytes are read as
the text that they encode.
-/

namespace SqlPipeline

namespace Field

variable {α : Type}

/-- The spelling under which a field is present, and its value. -/
def find? (field : Field) (entries : Mapping) : Option (String × Value) :=
  match entries.field? field.wire with
  | some value => some (field.wire, value)
  | none => (entries.field? field.plain).map fun value => (field.plain, value)

/-- Reads a field that has to be present. -/
def required (field : Field) (read : Value → Checked α) (entries : Mapping) : Checked α :=
  match field.find? entries with
  | some (name, value) => (read value).under (.field name)
  | none => (Checked.complain .missing).under (.field field.wire)

/-- Reads a field that has a default. -/
def orElse (field : Field) (default : α) (read : Value → Checked α) (entries : Mapping) :
    Checked α :=
  match field.find? entries with
  | some (name, value) => (read value).under (.field name)
  | none => .valid default

end Field

namespace Value

variable {α : Type}

/-- The text that a value holds, plainly or encoded in bytes; bytes that encode no text hold
none. -/
def heldText? : Value → Option (Option String)
  | .str text => some (some text)
  | .bytes content => some (Text.decode content).toOption
  | _ => none

/-- Reads a text. -/
def readText (value : Value) : Checked String :=
  match value.heldText? with
  | some (some text) => .valid text
  | some none => .complain .unreadableText
  | none => .complain .notText

/-- Reads a value that may be null. -/
def readOptional (read : Value → Checked α) : Value → Checked (Option α)
  | .null => .valid none
  | value => some <$> read value

/-- The items of what counts as a list: a list, a set or a pair. -/
def items? : Value → Option (List Value)
  | .list items => some items
  | .set members => some (members.map Key.toValue)
  | .pair first second => some [first, second]
  | _ => none

/-- Reads a list. -/
def readList (read : Value → Checked α) (value : Value) : Checked (List α) :=
  match value.items? with
  | some items => Checked.items read 0 items
  | none => .complain .notList

/-- Reads a member of a closed choice by its exact written form. -/
def readChoice (α : Type) [Choice α] (value : Value) : Checked α :=
  match value.heldText?.join.bind Choice.ofLabel? with
  | some member => .valid member
  | none => .complain (.notOption (Choice.labels α))

/-- Reads a record of a named model. -/
def readRecord (model : String) (read : Mapping → Checked α) : Value → Checked α
  | .map entries => read entries
  | _ => .complain (.notRecord model)

end Value

end SqlPipeline
