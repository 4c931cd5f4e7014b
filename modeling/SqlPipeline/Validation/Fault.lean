import SqlPipeline.Value.Writable

/-!
# Faults

Checking a document either succeeds or yields its faults. A fault is a complaint together with the
way from the top of the document to the offending place. `Checked` collects the faults of
independent parts, in order, instead of stopping at the first.
-/

namespace SqlPipeline

/-- One step on the way to a place in a document. -/
inductive Step where
  | field (name : String)
  | index (position : Int)
  deriving DecidableEq, Repr

/-- What is wrong at a place. -/
inductive Complaint where
  | missing
  | notRecord (model : String)
  | notText
  | unreadableText
  | notList
  | notMapping
  | notOption (options : List String)
  | notNumber
  | unreadableNumber
  | notWhole
  | unreadableWhole
  | notFlag
  | unreadableFlag
  | notIdentifier (text : String)
  | foreignPayload (id kind needed got : String)
  /-- The complaint cannot be worded, because it would mention a number with too many digits. -/
  | unwritable
  deriving DecidableEq, Repr

/-- The options between quotation marks, with `or` before the last. -/
def listOptions : List String → String
  | [] => ""
  | [only] => "'" ++ only ++ "'"
  | [first, last] => "'" ++ first ++ "' or '" ++ last ++ "'"
  | first :: others => "'" ++ first ++ "', " ++ listOptions others

/-- The short name of a complaint. -/
def Complaint.code : Complaint → String
  | .missing => "missing"
  | .notRecord _ => "model_type"
  | .notText => "string_type"
  | .unreadableText => "string_unicode"
  | .notList => "list_type"
  | .notMapping => "dict_type"
  | .notOption _ => "enum"
  | .notNumber => "float_type"
  | .unreadableNumber => "float_parsing"
  | .notWhole => "int_type"
  | .unreadableWhole => "int_parsing"
  | .notFlag => "bool_type"
  | .unreadableFlag => "bool_parsing"
  | .notIdentifier _ | .foreignPayload .. | .unwritable => "value_error"

/-- The wording of a complaint. -/
def Complaint.message : Complaint → String
  | .missing => "Field required"
  | .notRecord model => "Input should be a valid dictionary or instance of " ++ model
  | .notText => "Input should be a valid string"
  | .unreadableText =>
    "Input should be a valid string, unable to parse raw data as a unicode string"
  | .notList => "Input should be a valid list"
  | .notMapping => "Input should be a valid dictionary"
  | .notOption options => "Input should be " ++ listOptions options
  | .notNumber => "Input should be a valid number"
  | .unreadableNumber => "Input should be a valid number, unable to parse string as a number"
  | .notWhole => "Input should be a valid integer"
  | .unreadableWhole => "Input should be a valid integer, unable to parse string as an integer"
  | .notFlag => "Input should be a valid boolean"
  | .unreadableFlag => "Input should be a valid boolean, unable to interpret input"
  | .notIdentifier text =>
    "Value error, source_alias must be a plain SQL identifier, got '" ++ text ++ "'"
  | .foreignPayload id kind needed got =>
    "Value error, Node '" ++ id ++ "' of type '" ++ kind ++ "' needs " ++ needed ++ ", got " ++ got
  | .unwritable => "Value error, " ++ longNumberMessage

/-- A complaint and the way to its place. -/
structure Fault where
  path : List Step
  complaint : Complaint
  deriving DecidableEq, Repr

/-- The same fault one step further down. -/
def Fault.under (step : Step) (fault : Fault) : Fault := { fault with path := step :: fault.path }

/-- A checked document: its value, or its faults, of which there is at least one. -/
inductive Checked (α : Type) where
  | valid (value : α)
  | invalid (first : Fault) (later : List Fault)

namespace Checked

variable {α β : Type}

/-- The faults that were found. -/
def faults : Checked α → List Fault
  | valid _ => []
  | invalid first later => first :: later

/-- A single complaint at the place itself. -/
def complain (complaint : Complaint) : Checked α := .invalid ⟨[], complaint⟩ []

/-- The same result one step further down. -/
def under (step : Step) : Checked α → Checked α
  | valid value => .valid value
  | invalid first later => .invalid (first.under step) (later.map (Fault.under step))

/-- A second check on a value that passed the first. -/
def andThen (checked : Checked α) (next : α → Checked β) : Checked β :=
  match checked with
  | valid value => next value
  | invalid first later => .invalid first later

/-- Independent parts are both checked, and their faults come in order. -/
instance : Applicative Checked where
  pure := .valid
  seq build part :=
    match build, part () with
    | valid build, valid part => .valid (build part)
    | valid _, invalid first later => .invalid first later
    | invalid first later, valid _ => .invalid first later
    | invalid first later, invalid other others => .invalid first (later ++ other :: others)

@[simp] theorem pure_eq (value : α) : (pure value : Checked α) = .valid value := rfl

@[simp] theorem faults_seq (build : Checked (α → β)) (part : Checked α) :
    (build <*> part).faults = build.faults ++ part.faults := by
  cases build <;> cases part <;> simp [Seq.seq, faults]

theorem seq_eq_valid_iff {build : Checked (α → β)} {part : Checked α} {result : β} :
    build <*> part = .valid result ↔
      ∃ function argument, build = .valid function ∧ part = .valid argument ∧
        function argument = result := by
  cases build <;> cases part <;> simp [Seq.seq]

/-- A document is checked if and only if there are no faults. -/
theorem faults_eq_nil_iff {checked : Checked α} :
    checked.faults = [] ↔ ∃ value, checked = .valid value := by
  cases checked <;> simp [faults]

/-- Checks every item of a list under its index. -/
def items (read : Value → Checked α) (index : Nat) : List Value → Checked (List α)
  | [] => .valid []
  | item :: rest => List.cons <$> (read item).under (.index index) <*> items read (index + 1) rest

/-- The better of two weighed readings: one that succeeds, and of two that do the heavier one, the
first if both weigh the same. -/
def better : Checked (Nat × α) → Checked (Nat × α) → Checked (Nat × α)
  | valid reading, valid other => .valid (if reading.1 < other.1 then other else reading)
  | valid reading, invalid _ _ => .valid reading
  | invalid _ _, valid other => .valid other
  | invalid first later, invalid other others => .invalid first (later ++ other :: others)

end Checked

end SqlPipeline
