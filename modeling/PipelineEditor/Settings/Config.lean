import PipelineEditor.Toml.Read
import PipelineEditor.Toml.Write
import PipelineEditor.Storage.Basic
import PipelineEditor.Storage.Path
import PipelineEditor.Text.Blank

/-!
The application's settings and the file that holds them.

The settings are the address of the script decompiler, the catalog file and the log directory
(both relative to the data directory unless absolute), and the repository exports run against
by default. The settings file is TOML with the sections `[backend]` (`url`), `[paths]`
(`catalog_file`, `logs_dir`) and `[repository]` (`default`). A missing section or key takes its
default, unknown sections and keys are ignored, and a known key must hold a string; a section may
also be an array that gives its keys in order. A file that does not exist, or holds only blanks,
gives the defaults.

The data directory is the one the command line names, else the one the environment names, else
`data`; the settings file is `config.toml` in it.
-/

namespace PipelineEditor

/-- The application's settings. -/
structure Settings where
  /-- The address of the script decompiler. -/
  backendUrl : String := "http://localhost:5000"
  /-- The catalog file, relative to the data directory unless absolute. -/
  catalogFile : String := "catalog.json"
  /-- The log directory, relative to the data directory unless absolute. -/
  logsDir : String := "logs"
  /-- The repository that exports run against when none is given. -/
  defaultRepository : Option String := none
  deriving BEq, Inhabited, Repr

/-- Why the settings could not be read or written. -/
inductive SettingsError where
  /-- The settings file exists but could not be read. -/
  | unreadable (path : String) (cause : OsError)
  /-- The settings file is not TOML. -/
  | malformed (path : String) (cause : Toml.ReadError)
  /-- A key of the settings holds a value of the wrong type. -/
  | wrongType (path : String) (key : String)
  /-- The settings file would have no directory to live in. -/
  | noParent
  /-- The directory of the settings file could not be made. -/
  | unwritableDirectory (path : String) (cause : OsError)
  /-- The settings file could not be written. -/
  | unwritable (path : String) (cause : OsError)
  /-- The data directory could not be made. -/
  | noDataDirectory (path : String) (cause : OsError)
  deriving Inhabited

namespace SettingsError

/-- The message of the failure, its context first. -/
def message : SettingsError → String
  | .unreadable path cause => s!"failed to read config file: {path}: " ++ cause.message
  | .malformed path _ => s!"failed to parse config TOML: {path}: not a valid TOML document"
  | .wrongType path key => s!"failed to parse config TOML: {path}: invalid type for key {key}"
  | .noParent => "config path does not have a parent directory"
  | .unwritableDirectory path cause =>
    s!"failed to create config directory: {path}: " ++ cause.message
  | .unwritable path cause => s!"failed to write config file: {path}: " ++ cause.message
  | .noDataDirectory path cause => s!"failed to create data directory: {path}: " ++ cause.message

end SettingsError

/-- The name of the settings file in the data directory. -/
def settingsFileName : String := "config.toml"

/-- The data directory: the one the command line names, else the one the environment names,
else `data`. -/
def dataDirectory (fromCommandLine fromEnvironment : Option String) : String :=
  fromCommandLine.getD (fromEnvironment.getD "data")

/-- The path of the settings file of a data directory. -/
def settingsPath (dataDir : String) : String := Path.join dataDir settingsFileName

namespace Settings

/-- The values a section gives its keys, in the order of `keys`: a table by name, an array by
position; a missing section gives none. -/
def sectionValues (file name : String) (keys : List String) (root : TomlValue) :
    Except SettingsError (List (Option TomlValue)) :=
  match root.field? name with
  | none => .ok (keys.map fun _ => none)
  | some (.table entries) => .ok (keys.map fun key => entries.lookup key)
  | some (.array items) => .ok ((List.range keys.length).map fun i => items[i]?)
  | some _ => .error (.wrongType file name)

/-- A string key: its default when missing. -/
def stringValue (file key : String) (fallback : String) :
    Option TomlValue → Except SettingsError String
  | none => .ok fallback
  | some (.string text) => .ok text
  | some _ => .error (.wrongType file key)

/-- An optional string key. -/
def optionalValue (file key : String) : Option TomlValue → Except SettingsError (Option String)
  | none => .ok none
  | some (.string text) => .ok (some text)
  | some _ => .error (.wrongType file key)

/-- The settings a TOML document gives. -/
def ofToml (file : String) (root : TomlValue) : Except SettingsError Settings := do
  let defaults : Settings := {}
  let backend ← sectionValues file "backend" ["url"] root
  let paths ← sectionValues file "paths" ["catalog_file", "logs_dir"] root
  let repository ← sectionValues file "repository" ["default"] root
  pure {
    backendUrl := ← stringValue file "url" defaults.backendUrl (backend.headD none)
    catalogFile := ← stringValue file "catalog_file" defaults.catalogFile (paths.headD none)
    logsDir := ← stringValue file "logs_dir" defaults.logsDir ((paths.drop 1).headD none)
    defaultRepository := ← optionalValue file "default" (repository.headD none) }

/-- The settings a settings text gives, for the file `file`: the defaults when it holds only
blanks. -/
def ofText (file : String) (text : String) : Except SettingsError Settings :=
  if isBlankText text then .ok {}
  else match Toml.parse text with
    | .ok root => ofToml file root
    | .error e => .error (.malformed file e)

/-- The settings as a settings text. -/
def toText (s : Settings) : String :=
  Toml.writeSections [
    ⟨"backend", [("url", s.backendUrl)]⟩,
    ⟨"paths", [("catalog_file", s.catalogFile), ("logs_dir", s.logsDir)]⟩,
    ⟨"repository", match s.defaultRepository with
      | some r => [("default", r)]
      | none => []⟩]

variable {m : Type → Type} [Monad m] [FileStore m]

/-- The settings of a settings file; a file that does not exist gives the defaults. -/
def load (path : String) : m (Except SettingsError Settings) := do
  if !(← FileStore.pathExists path) then return .ok {}
  match ← FileStore.readText path with
  | .error e => return .error (.unreadable path e)
  | .ok text => return ofText path text

/-- Writes the settings to a settings file, making its directory first. -/
def save (s : Settings) (path : String) : m (Except SettingsError Unit) := do
  let some parent := Path.parent? path | return .error .noParent
  match ← FileStore.createDirAll parent with
  | .error e => return .error (.unwritableDirectory parent e)
  | .ok () =>
    match ← FileStore.writeText path s.toText with
    | .error e => return .error (.unwritable path e)
    | .ok () => return .ok ()

end Settings

/-- Makes the data directory if it is missing, and writes the default settings file into it if
that is missing; an existing settings file is left alone. -/
def initializeDataDirectory {m : Type → Type} [Monad m] [FileStore m] (dataDir : String) :
    m (Except SettingsError Unit) := do
  if !(← FileStore.pathExists dataDir) then
    if let .error e ← FileStore.createDirAll dataDir then
      return .error (.noDataDirectory dataDir e)
  let path := settingsPath dataDir
  if !(← FileStore.pathExists path) then ({} : Settings).save path else return .ok ()

end PipelineEditor
