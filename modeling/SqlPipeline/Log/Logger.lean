import SqlPipeline.Log.Event
import SqlPipeline.Log.Redaction
import SqlPipeline.Text.UpperCase
import SqlPipeline.Value.Display

/-!
# The logger

The logger has a threshold, a choice between plain and structured records, and the secrets that it
was told. An event below the threshold yields no record. Secrets are struck out of the message and
of the details that are texts; details of other kinds are written as they are.

Plain records pass a second gate: when no threshold is set at all, only warnings and errors pass.
-/

namespace SqlPipeline

namespace Level

/-- The rank of a level; a higher one is more serious. -/
def rank : Level → Nat
  | .debug => 10
  | .info => 20
  | .warning => 30
  | .error => 40

/-- The name of a level. -/
def name : Level → String
  | .debug => "DEBUG"
  | .info => "INFO"
  | .warning => "WARNING"
  | .error => "ERROR"

/-- What stands before a plain message of a level. -/
def tag : Level → String
  | .debug => "[DEBUG] "
  | .info => ""
  | .warning => "[WARN] "
  | .error => "[ERROR] "

end Level

/-- The thresholds that have a name. -/
def namedThresholds : List (String × Nat) :=
  [("NOTSET", 0), ("DEBUG", 10), ("INFO", 20), ("WARN", 30), ("WARNING", 30), ("ERROR", 40),
    ("CRITICAL", 50), ("FATAL", 50)]

/-- Why a name cannot be a threshold: it stands for a text, or for something else. -/
inductive ThresholdFault where
  | text (shown : String)
  | other
  deriving DecidableEq, Repr

/-- The wording for a name that cannot be a threshold. -/
def ThresholdFault.message : ThresholdFault → String
  | .text shown => "Unknown level: '" ++ shown ++ "'"
  | .other => "Level not an integer or a valid string"

/-- The names that stand for something else than a threshold. -/
def takenNames : List (String × ThresholdFault) :=
  [("BASIC_FORMAT", .text "%(levelname)s:%(name)s:%(message)s"), ("_STYLES", .other)]

/-- The threshold with a name, in any letter case; an unknown name means information. -/
def thresholdNamed (name : String) : Except ThresholdFault Nat :=
  let capitals := Text.upper name.toList
  match takenNames.find? fun (known, _) => known.toList == capitals with
  | some (_, fault) => .error fault
  | none =>
    match namedThresholds.find? fun (known, _) => known.toList == capitals with
    | some (_, rank) => .ok rank
    | none => .ok 20

/-- One record of the log. -/
inductive Record where
  | plain (level : Level) (text : String)
  | structured (level : Level) (message : String) (details : List (String × Value))

/-- The state of the logger. -/
structure Logger where
  structured : Bool := false
  threshold : Nat := 20
  secrets : List String := []

namespace Logger

/-- Changes the kind of records and the threshold; secrets stay. -/
def configure (logger : Logger) (structured : Bool) (level : String) :
    Except ThresholdFault Logger :=
  (thresholdNamed level).map fun rank =>
    { logger with structured := structured, threshold := rank }

/-- Registers a secret: a text that is not blank. -/
def registerSecret (logger : Logger) : Value → Logger
  | .str secret =>
    if (Text.trim secret.toList).isEmpty || logger.secrets.contains secret then logger
    else { logger with secrets := logger.secrets ++ [secret] }
  | _ => logger

/-- A detail without secrets: only texts are changed. -/
def redactDetail (logger : Logger) : Value → Value
  | .str text => .str (redact logger.secrets text)
  | other => other

/-- The details of an event without secrets. -/
def redactDetails (logger : Logger) (details : List (String × Value)) : List (String × Value) :=
  details.map fun (name, value) => (name, logger.redactDetail value)

/-- Details behind a plain message, between parentheses. -/
def context : List (String × Value) → String
  | [] => ""
  | details =>
    " (" ++ ", ".intercalate (details.map fun (name, value) => name ++ "=" ++ value.display) ++ ")"

/-- Whether plain records of a level pass. -/
def passesPlain (logger : Logger) (level : Level) : Bool :=
  let threshold := if logger.threshold = 0 then Level.warning.rank else logger.threshold
  threshold ≤ level.rank

/-- The record of an event, if there is one. -/
def record? (logger : Logger) (event : Event) : Option Record :=
  if event.level.rank < logger.threshold then none
  else
    let message := redact logger.secrets event.message
    let details := logger.redactDetails event.details
    if logger.structured then some (.structured event.level message details)
    else if logger.passesPlain event.level then
      some (.plain event.level (event.level.tag ++ message ++ context details))
    else none

/-- The records of events, in order. -/
def records (logger : Logger) (events : List Event) : List Record :=
  events.filterMap logger.record?

end Logger

end SqlPipeline
