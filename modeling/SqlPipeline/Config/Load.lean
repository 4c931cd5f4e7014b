import SqlPipeline.Config.Files
import SqlPipeline.Config.Placeholder
import SqlPipeline.Value.Overlay
import SqlPipeline.Yaml.Document

/-!
# Loading layered configurations

A configuration file is a mapping. It may import other files, over which it wins; it may hold a
block for each of several environments, of which the chosen one wins over it; and a file beside it,
named after the chosen environment, wins over all. Placeholders are replaced before a file is read
as a document.

The files, the variables and the reader of documents are given as a `Site`, so that nothing here
depends on the format of documents. Imports are followed to a depth that only a circle of imports
can exceed.
-/

namespace SqlPipeline

namespace Config

/-- Where configurations are loaded: files, values of variables, and a reader of documents. -/
structure Site where
  files : FileTree
  valueOf : String → Option String
  parse : String → Except Yaml.Fault Value

/-- Why a configuration cannot be loaded. -/
inductive LoadError where
  | noFile (path : Route)
  | noImport (path : String)
  | directory (path : Route)
  | notText (error : Text.DecodeError)
  | unset (name : String)
  | unreadable (fault : Yaml.Fault)
  | notMapping (path : Route)
  | environmentsNotMapping (path : Route)
  | environmentNotMapping (environment : String) (path : Route)
  | importsNotList (kind : String)
  | importNotText (kind : String)
  | mixedPath
  | circularImports
  | failedImport (path resolved : String) (cause : LoadError)

/-- The kinds of loading errors. -/
inductive LoadErrorKind where
  | missingFile
  | directory
  | badDocument
  | badValue
  | badType
  | unknownWord
  | emptyText
  | tooLarge
  | noMatch
  | endless
  deriving DecidableEq, Repr

namespace LoadError

/-- The wording of an error. -/
def message : LoadError → String
  | noFile path => "YAML file not found: " ++ path.display
  | noImport path => "Imported YAML file not found: " ++ path
  | directory path => "[Errno 21] Is a directory: " ++ path.toValue.quoted
  | notText error => error.message
  | unset name => "Missing environment variable: " ++ name
  | unreadable fault => fault.message
  | notMapping path => "Top level of " ++ path.display ++ " must be a mapping"
  | environmentsNotMapping path => "'environments' in " ++ path.display ++ " must be a mapping"
  | environmentNotMapping environment path =>
    "Environment '" ++ environment ++ "' in " ++ path.display ++ " must be a mapping"
  | importsNotList kind => "'" ++ kind ++ "' object is not iterable"
  | importNotText kind => "expected str, bytes or os.PathLike object, not " ++ kind
  | mixedPath => "Can't mix strings and bytes in path components"
  | circularImports => "imports form a circle"
  | failedImport path resolved cause =>
    "Failed to load import '" ++ path ++ "' (resolved: " ++ resolved ++ "): " ++ cause.message

/-- The kind of an error in a document. -/
def faultKind : Yaml.Fault → LoadErrorKind
  | .malformed => .badDocument
  | .badWord _ => .unknownWord
  | .emptyNumber => .emptyText
  | .hugeNumber | .hugeCharacter => .tooLarge
  | .notMoment => .noMatch
  | .momentOfMapping => .badType
  | .endless => .endless
  | _ => .badValue

/-- The kind of an error. A failed import is a bad value, whatever its cause. -/
def kind : LoadError → LoadErrorKind
  | noFile _ | noImport _ => .missingFile
  | LoadError.directory _ => .directory
  | unreadable fault => faultKind fault
  | importsNotList _ | importNotText _ | mixedPath => .badType
  | circularImports => .endless
  | _ => .badValue

/-- The innermost cause of an error. -/
def root : LoadError → LoadError
  | failedImport _ _ cause => cause.root
  | other => other

end LoadError

/-- An environment that is chosen by a name that is not empty. -/
def chosen? : Option String → Option String
  | some "" => none
  | other => other

/-- The path of the file of an environment beside a file in a directory. -/
def environmentFile (directory : Route) (environment : String) : Route :=
  { path := Path.within directory.path ("env." ++ environment ++ ".yaml") }

/-- A mapping, or an empty one where nothing is given. -/
def mappingOr (error : LoadError) (value : Value) : Except LoadError Mapping :=
  match value with
  | .map entries => .ok entries
  | other => if other.isTruthy then .error error else .ok []

/-- The imports that a value lists: a text by itself, the items of a list or of a pair, the keys of a
mapping, the members of a set, or the bytes as numbers. -/
def importList (value : Value) : Except LoadError (List Value) :=
  match value with
  | .list items => .ok items
  | .pair first second => .ok [first, second]
  | .map entries => .ok (entries.map fun (key, _) => key.toValue)
  | .set members => .ok (members.map Key.toValue)
  | .bytes content => .ok (content.map fun byte => .int byte.toNat)
  | .str path => .ok (if path.isEmpty then [] else [.str path])
  | other => if other.isTruthy then .error (.importsNotList other.qualifiedKindName) else .ok []

/-- An import: how it is named, how its path reads from the file that names it, and the path, unless
it is given in bytes that spell no text. -/
structure Import where
  name : Value
  resolved : String
  route? : Option Route

/-- The bytes of a path as seen from a directory. -/
def bytesWithin (directory : Route) (content : List UInt8) : List UInt8 :=
  if content.head? == some 0x2F then content
  else
    let front := directory.content
    (if front.getLast? == some 0x2F then front else front ++ [0x2F]) ++ content

/-- The import that an item names in a file in a directory. A path that has to be joined with the
directory must be given as the directory is, as a text or in bytes. -/
def importNamed (directory : Route) : Value → Except LoadError Import
  | .str name =>
    if directory.inBytes && !Path.isAbsolute name then .error .mixedPath
    else
      let resolved := Path.within directory.path name
      .ok ⟨.str name, resolved, some resolved⟩
  | .bytes content =>
    if !directory.inBytes && content.head? != some 0x2F then .error .mixedPath
    else
      let resolved := bytesWithin directory content
      .ok ⟨.bytes content, Text.quotedBytes resolved,
        (Text.decode resolved).toOption.map fun path => ⟨path, true⟩⟩
  | other => .error (.importNotText other.kindName)

/-- Where an import leads. -/
def Import.target? (found : Import) (files : FileTree) : Option Route :=
  found.route?.filter files.leads

/-- The content of a file; a directory has none. -/
def contentAt (site : Site) (path : Route) : Except LoadError Content :=
  match site.files.look? path with
  | some (.file content) => .ok content
  | _ => .error (.directory path)

/-- The text of a file with its placeholders replaced. -/
def substituted (site : Site) (path : Route) : Traced LoadError String := do
  let content ← Traced.ofExcept (contentAt site path)
  let text ← (Traced.ofExcept content.read).mapError .notText
  match Placeholder.substitute site.valueOf text.toList with
  | .ok result => return String.ofList result
  | .error unset =>
    Traced.tell .error "Missing required environment variable"
      [("variable", .str unset.name), ("file", path.toValue)]
    Traced.fail (.unset unset.name)

/-- The mapping at the top of a file. -/
def topMapping (site : Site) (path : Route) : Traced LoadError Mapping := do
  let text ← substituted site path
  match site.parse text with
  | .ok value => Traced.ofExcept (mappingOr (.notMapping path) value)
  | .error fault =>
    if fault = .malformed then
      Traced.tell .error "YAML parsing failed"
        [("path", path.toValue), ("error", .str fault.message)]
    Traced.fail (.unreadable fault)

/-- Overlays one mapping on another and reports the mappings that are merged. -/
def overlaid (weaker stronger : Mapping) : Traced LoadError Mapping := do
  Traced.tellAll (Mapping.overlayEvents weaker stronger)
  return Mapping.overlay weaker stronger

/-- Overlays a mapping on the imports of its file, each import being loaded by the given function.
Among imports the later one is weaker. -/
def withImports (site : Site) (path : Route) (load : Route → Traced LoadError Mapping) :
    List Value → Mapping → Traced LoadError Mapping
  | [], merged => pure merged
  | item :: rest, merged => do
    let found ← Traced.ofExcept (importNamed path.directory item)
    match found.target? site.files with
    | some target => do
      let imported ← (load target).mapError (.failedImport found.name.display found.resolved)
      withImports site path load rest (← overlaid imported merged)
    | none => do
      Traced.tell .error "Imported configuration file not found"
        [("import_path", found.name), ("parent_file", path.toValue)]
      Traced.fail (.noImport found.resolved)

/-- Overlays the block of the chosen environment, if there is one. -/
def withBlock (path : Route) (environments : Mapping) (environment : Option String)
    (data : Mapping) : Traced LoadError Mapping :=
  match chosen? environment with
  | none => pure data
  | some name =>
    match environments.field? name with
    | none => pure data
    | some block => do
      let entries ← Traced.ofExcept (mappingOr (.environmentNotMapping name path) block)
      Traced.tell .debug "Applying environment overrides" [("env", .str name)]
      overlaid data entries

/-- Overlays the file of the chosen environment, if there is one, loaded by the given function. It
cannot be looked for beside a file whose path is given in bytes. -/
def withOverlay (site : Site) (path : Route) (load : Route → Traced LoadError Mapping)
    (environment : Option String) (data : Mapping) : Traced LoadError Mapping :=
  match chosen? environment with
  | none => pure data
  | some name =>
    if path.inBytes then Traced.fail .mixedPath
    else
      let overlay := environmentFile path.directory name
      if site.files.leads overlay then do
        Traced.tell .debug "Loading external environment override file"
          [("env_file", overlay.toValue)]
        overlaid data (← load overlay)
      else pure data

/-- The mapping of a file with its imports and with the block of the chosen environment. -/
def fileMapping (site : Site) (load : Route → Option String → Traced LoadError Mapping)
    (path : Route) (environment : Option String) : Traced LoadError Mapping := do
  let top ← topMapping site path
  let imports ← Traced.ofExcept (importList ((top.field? "imports").getD .null))
  let data ← withImports site path (fun resolved => load resolved environment) imports
    (top.erase "imports")
  let environments ← Traced.ofExcept
    (mappingOr (.environmentsNotMapping path) ((data.field? "environments").getD .null))
  withBlock path environments environment (data.erase "environments")

/-- Loads a configuration; the files it refers to are loaded by the given function. -/
def loadWith (site : Site) (load : Route → Option String → Traced LoadError Mapping)
    (path : Route) (environment : Option String) : Traced LoadError Mapping := do
  Traced.tell .debug "Loading YAML configuration"
    [("path", path.toValue), ("env", .optional environment)]
  if site.files.leads path then do
    let file := path.plain
    let data ← fileMapping site load file environment
    let result ← withOverlay site file (fun overlay => load overlay none) environment data
    Traced.tell .debug "Configuration loading complete"
      [("path", path.toValue), ("final_keys", .list (result.keys.map Key.toValue))]
    return result
  else do
    Traced.tell .error "Configuration file not found" [("path", path.toValue)]
    Traced.fail (.noFile path)

/-- Loads a configuration, following imports to a given depth. -/
def loadTo (site : Site) : Nat → Route → Option String → Traced LoadError Mapping
  | 0, _, _ => .fail .circularImports
  | depth + 1, path, environment => loadWith site (loadTo site depth) path environment

/-- How deep imports can go without a circle: each file once with an environment and once without,
and each time by a path that is a text and by one in bytes. -/
def depthFor (site : Site) : Nat := 4 * site.files.files.length + 1

/-- Loads a configuration for an optional environment. -/
def load (site : Site) (path : Route) (environment : Option String) : Traced LoadError Mapping :=
  loadTo site (depthFor site) path environment

end Config

end SqlPipeline
