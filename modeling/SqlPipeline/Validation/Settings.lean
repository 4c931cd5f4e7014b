import SqlPipeline.Settings
import SqlPipeline.Text.Word
import SqlPipeline.Validation.Graph

/-!
# Reading and writing settings

Settings come from files, so the keys of their mappings need not be texts. A given position replaces
the default of its kind as a whole, and kinds that are not given keep their defaults.
-/

namespace SqlPipeline

open Value (readText readChoice readRecord readFlag)

namespace Fields

def level : Field := .named "level"
def structured : Field := .named "structured"
def sourceAlias : Field := .named "source_alias"
def targetLoadStrategy : Field := .named "target_load_strategy"
def stagePositions : Field := .named "stage_positions"
def logging : Field := .named "logging"

end Fields

namespace LoggingSettings

/-- Reads how to log. -/
def read : Value → Checked LoggingSettings :=
  readRecord "LoggingConfig" fun entries =>
    LoggingSettings.mk <$> Fields.level.orElse .info (readChoice LogThreshold) entries
      <*> Fields.structured.orElse false readFlag entries

/-- Writes how to log. -/
def dump (style : DumpStyle) (logging : LoggingSettings) : Value :=
  style.record
    [(Fields.level, .choice logging.level), (Fields.structured, .bool logging.structured)]

end LoggingSettings

namespace StagePositions

/-- Reads a table of positions and fills in the defaults. -/
def read : Value → Checked StagePositions
  | .map entries => overDefaults <$> Checked.entries (readChoice StageKind) Position.read entries
  | _ => .complain .notMapping

/-- Writes a table of positions. -/
def dump (style : DumpStyle) (positions : StagePositions) : Value :=
  .record (positions.map fun (kind, position) => (kind.label, position.dump style))

end StagePositions

namespace Settings

/-- Reads an alias, which has to be an identifier. -/
def readAlias (value : Value) : Checked String :=
  (readText value).andThen fun name =>
    if Text.isIdentifier name.toList then .valid name else .complain (.notIdentifier name)

/-- Reads settings. -/
def read : Value → Checked Settings :=
  readRecord "SyncSettings" fun entries =>
    Settings.mk <$> Fields.sourceAlias.orElse "source" readAlias entries
      <*> Fields.targetLoadStrategy.orElse .truncate (readChoice LoadStrategy) entries
      <*> Fields.stagePositions.orElse .default StagePositions.read entries
      <*> Fields.logging.orElse {} LoggingSettings.read entries

/-- Writes settings. -/
def dump (style : DumpStyle) (settings : Settings) : Value :=
  style.record [(Fields.sourceAlias, .str settings.sourceAlias),
    (Fields.targetLoadStrategy, .choice settings.targetLoadStrategy),
    (Fields.stagePositions, settings.stagePositions.dump style),
    (Fields.logging, settings.logging.dump style)]

end Settings

end SqlPipeline
