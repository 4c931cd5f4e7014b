import SqlPipeline.Config.Load
import SqlPipeline.Pipeline.Error
import SqlPipeline.Validation.Settings

/-!
# Loading settings

Settings are loaded as a configuration and then checked. A configuration that cannot be read and
settings that are not valid are errors about the settings file. A file that is not there, and
imports of the wrong type, stay errors of loading.
-/

namespace SqlPipeline

namespace Config

/-- Why settings cannot be loaded. -/
inductive SettingsFailure where
  | loading (error : LoadError)
  | unreadable (path : String) (error : LoadError)
  | invalid (path : String) (faults : List Fault)

/-- Whether an error of loading becomes an error about the settings file. -/
def LoadError.concernsSettings (error : LoadError) : Bool :=
  error.kind == .badValue || error.kind == .badDocument

/-- The error about a settings file that cannot be read. -/
def unreadableSettings (path : String) (error : LoadError) : PipelineError :=
  .badSettings error.message (some path)

/-- The result of loading the configuration of settings. -/
def settingsDocument (site : Site) (path : String) (environment : Option String) :
    Traced SettingsFailure Mapping :=
  let loaded := load site path environment
  match loaded.outcome with
  | .ok data => ⟨loaded.events, .ok data⟩
  | .error error =>
    if error.concernsSettings then do
      Traced.tellAll loaded.events
      Traced.tell .error "Unreadable settings file"
        [("path", .str path), ("error", .str error.message)]
      Traced.fail (.unreadable path error)
    else ⟨loaded.events, .error (.loading error)⟩

/-- Loads settings for an optional environment. -/
def loadSettings (site : Site) (path : String) (environment : Option String) :
    Traced SettingsFailure Settings := do
  let data ← settingsDocument site path environment
  match Settings.read (.map data) with
  | .valid settings =>
    Traced.tell .debug "Settings loaded"
      [("path", .str path), ("source_alias", .str settings.sourceAlias)]
    return settings
  | .invalid first later =>
    let faults := first :: later
    Traced.tell .error "Invalid settings" [("path", .str path), ("errors", .int faults.length)]
    Traced.fail (.invalid path faults)

end Config

end SqlPipeline
