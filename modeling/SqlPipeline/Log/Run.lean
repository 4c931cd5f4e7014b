import SqlPipeline.Log.Line

/-!
# Runs of the logger

One logger is shared by all, so what it does depends on the calls before: each may configure it,
register a secret or tell an event. When a call cannot configure the logger, events cannot be told
until a later one can; registered secrets stay throughout.
-/

namespace SqlPipeline

/-- A call of the logger. -/
inductive LoggerCall where
  | configure (structured : Bool) (level : String)
  | registerSecret (value : Value)
  | tell (level : Level) (message : Value) (details : List (String × Value))

/-- The logger between calls. -/
structure SharedLogger where
  logger : Logger := {}
  /-- Whether the last call that was to configure the logger did so. -/
  configured : Bool := true

namespace SharedLogger

/-- The logger after a call. -/
def next (shared : SharedLogger) : LoggerCall → SharedLogger
  | .configure structured level =>
    match shared.logger.configure structured level with
    | .ok logger => ⟨logger, true⟩
    | .error _ => { shared with configured := false }
  | .registerSecret value => { shared with logger := shared.logger.registerSecret value }
  | .tell .. => shared

/-- What a call writes, if it yields a record. -/
def emits? (shared : SharedLogger) : LoggerCall → Option Written
  | .tell level message details =>
    if shared.configured then
      (Event.withDetails? level message.display details).bind shared.logger.written?
    else none
  | _ => none

/-- The logger after some calls. -/
def after (calls : List LoggerCall) : SharedLogger :=
  calls.foldl next {}

/-- The same logger with its secrets in another order. -/
def withSecrets (shared : SharedLogger) (secrets : List String) : SharedLogger :=
  { shared with logger := { shared.logger with secrets := secrets } }

end SharedLogger

/-- The secret that a call registers, if it does. -/
def LoggerCall.secret? : LoggerCall → Option String
  | .registerSecret (.str secret) =>
    if (Text.trim secret.toList).isEmpty then none else some secret
  | _ => none

/-- The secrets that some calls register. -/
def registered (calls : List LoggerCall) : List String :=
  calls.filterMap LoggerCall.secret?

end SqlPipeline
