import SqlPipeline.Log.Logger
import SqlPipeline.Value.Json

/-!
# Lines of the log

A plain record is a line as it is. A structured record is written as an object that begins with the
time, the level and the message; a detail called like one of these takes its place. What an event
contributes to the line is *written*: its message and the values of its details, as messages show
them or as JSON.
-/

namespace SqlPipeline

/-- The line of a record, if it has a JSON form. -/
def Record.line? (time : String) : Record → Option String
  | .plain _ text => some text
  | .structured level message details =>
    (Value.map (Mapping.ofEntries ((.str "timestamp", .str time) ::
      (.str "level", .str level.name) :: (.str "message", .str message) ::
        details.map fun (name, value) => (.str name, value)))).json?

/-- What is written of an event. -/
structure Written where
  message : String
  details : List (String × String)
  deriving DecidableEq

namespace Logger

/-- A text in records of the present kind. -/
def writeText (logger : Logger) (text : String) : String :=
  if logger.structured then Json.quote text else text

/-- The value of a detail in records of the present kind. -/
def writeValue? (logger : Logger) (value : Value) : Option String :=
  if logger.structured then value.json? else some value.display

/-- The details of an event in records of the present kind. -/
def writeDetails? (logger : Logger) : List (String × Value) → Option (List (String × String))
  | [] => some []
  | (name, value) :: details => do
    return (name, ← logger.writeValue? value) :: (← logger.writeDetails? details)

/-- Whether events of a level yield a record. -/
def passes (logger : Logger) (level : Level) : Bool :=
  logger.threshold ≤ level.rank && (logger.structured || logger.passesPlain level)

/-- What is written of an event, if it yields a record. -/
def written? (logger : Logger) (event : Event) : Option Written :=
  if logger.passes event.level then do
    let details ← logger.writeDetails? (logger.redactDetails event.details)
    return ⟨logger.writeText (redact logger.secrets event.message), details⟩
  else none

end Logger

namespace Written

/-- The written details behind a plain message, between parentheses. -/
def context : List (String × String) → String
  | [] => ""
  | details => " (" ++ ", ".intercalate (details.map fun (name, text) => name ++ "=" ++ text) ++ ")"

/-- The line that is put together from what is written. -/
def line (logger : Logger) (time : String) (level : Level) (written : Written) : String :=
  if logger.structured then
    enclose "\x7b" "\x7d" (((Json.quote "timestamp", Json.quote time) ::
      (Json.quote "level", Json.quote level.name) :: (Json.quote "message", written.message) ::
        written.details.map fun (name, text) => (Json.quote name, text)).map
          fun (name, text) => name ++ ": " ++ text)
  else level.tag ++ written.message ++ context written.details

end Written

end SqlPipeline
