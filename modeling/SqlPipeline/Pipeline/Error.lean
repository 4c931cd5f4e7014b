import SqlPipeline.Pipeline.Field
import SqlPipeline.Value.Writable

/-!
# What is wrong with a pipeline

The causes for which a graph cannot be compiled or settings cannot be used, and their wording. A
cause carries a short message of its own; its text adds the place.
-/

namespace SqlPipeline

/-- Why a pipeline or its settings cannot be used. -/
inductive PipelineError where
  | missingSource (message : String)
  | invalidSource (node : Option String) (message : String)
  | cyclic (message : String) (cycle : Option (List String))
  | badSettings (message : String) (file : Option String)
  /-- A whole number has more digits than are written. -/
  | numberTooLong
  /-- The payload of a node does not have a field that is read. -/
  | missingField (missing : MissingField)
  deriving DecidableEq, Repr

namespace PipelineError

/-- The message for a graph without a source. -/
def noSourceMessage : String := "Pipeline must have a source node"

/-- The message for a source that reads from nowhere. -/
def emptySourceMessage : String := "Source node must have either a table or query"

/-- The message for a graph with a cycle. -/
def cycleMessage : String := "Pipeline graph contains a cycle"

/-- The message without the place. -/
def message : PipelineError → String
  | missingSource message => message
  | invalidSource _ message => message
  | cyclic message _ => message
  | badSettings message _ => message
  | numberTooLong => longNumberMessage
  | missingField missing => missing.message

/-- The whole text of an error. An empty place is not mentioned. -/
def text : PipelineError → String
  | missingSource message => message
  | invalidSource node message =>
    match node with
    | none | some "" => message
    | some id => message ++ " (node: " ++ id ++ ")"
  | cyclic message cycle =>
    let heading := "✗ Graph error: " ++ message
    match cycle with
    | none | some [] => heading
    | some ids => heading ++ "\n  Cycle detected: " ++ " → ".intercalate ids
  | badSettings message file =>
    let place :=
      match file with
      | none | some "" => ""
      | some path => "\n  File: " ++ path
    "Settings validation error" ++ place ++ "\n  Error: " ++ message
  | numberTooLong => longNumberMessage
  | missingField missing => missing.message

end PipelineError

end SqlPipeline
