import PipelineEditor.Snapshot.Load
import PipelineEditor.Script.Load
import PipelineEditor.Storage.Basic
import PipelineEditor.Storage.Path
import PipelineEditor.Url.Basic
import PipelineEditor.Json.Write

/-!
Loading documents from files and writing JSON files.

Every loader reads and parses the whole document before touching the editor, so a failed read,
parse or load leaves the editor as it was. A catalog file is a JSON list of catalog entries; a
snapshot file replaces the editor's contents, catalog included; a decompiled script file is
loaded over the editor's catalog. Writing a JSON file makes its directory first and writes the
value pretty-printed.

Failures carry what was being done, the path, and the cause; their message puts the action
first (`failed to read snapshot file: ui.json: No such file or directory (os error 2)`).
-/

namespace PipelineEditor

/-- The kinds of document the program reads. -/
inductive Document where
  | catalog
  | snapshot
  | decompiledScript
  | script
  deriving BEq, Inhabited, Repr

/-- Why a command failed. -/
inductive AppError where
  /-- A document could not be read. -/
  | unreadable (document : Document) (path : String) (cause : OsError)
  /-- A document is not what its kind requires. -/
  | unparsable (document : Document) (path : String)
  /-- A document does not describe a valid editor state. -/
  | unloadable (document : Document) (path : String) (cause : EditorError)
  /-- The directory of an output file could not be made. -/
  | noDirectory (path : String) (cause : OsError)
  /-- An output file could not be written. -/
  | unwritable (path : String) (cause : OsError)
  /-- The decompiler's address is not a URL. -/
  | invalidBaseUrl (cause : Url.ParseError)
  /-- The decompiler's endpoint could not be formed from its address. -/
  | noEndpoint (endpoint : String) (cause : Url.ParseError)
  /-- The decompiler could not be reached. -/
  | unreachable (reason : String)
  /-- The decompiler answered with a failure status. -/
  | httpStatus (status : Nat)
  /-- The decompiler's answer is not a decompiled script. -/
  | invalidResponse
  /-- The decompiled script does not describe a valid editor state. -/
  | invalidGraph (cause : EditorError)
  /-- An editor command failed. -/
  | editor (cause : EditorError)
  deriving Inhabited

namespace AppError

/-- The message of a failure, its context first. -/
def message : AppError → String
  | .unreadable .catalog path cause => s!"failed to read catalog file: {path}: " ++ cause.message
  | .unreadable .snapshot path cause => s!"failed to read snapshot file: {path}: " ++ cause.message
  | .unreadable .decompiledScript path cause =>
    s!"failed to read reversed script: {path}: " ++ cause.message
  | .unreadable .script path cause => s!"failed to read script: {path}: " ++ cause.message
  | .unparsable .catalog path => s!"failed to parse catalog JSON: {path}: invalid catalog"
  | .unparsable .snapshot path => s!"failed to parse snapshot JSON: {path}: invalid snapshot"
  | .unparsable .decompiledScript path =>
    s!"failed to parse reversed script JSON: {path}: invalid reversed script"
  | .unparsable .script path => s!"failed to read script: {path}: invalid text"
  | .unloadable .snapshot path cause => s!"failed to load snapshot: {path}: " ++ cause.message
  | .unloadable .decompiledScript path cause =>
    s!"failed to load reversed script: {path}: " ++ cause.message
  | .unloadable _ path cause => s!"failed to load: {path}: " ++ cause.message
  | .noDirectory path cause => s!"failed to create directory: {path}: " ++ cause.message
  | .unwritable path cause => s!"failed to write file: {path}: " ++ cause.message
  | .invalidBaseUrl cause => "invalid backend base URL: " ++ cause.message
  | .noEndpoint endpoint cause => s!"failed to build URL for path: {endpoint}: " ++ cause.message
  | .unreachable reason => "failed to reach script decompiler: " ++ reason
  | .httpStatus status => s!"decompiler /script returned HTTP {status}"
  | .invalidResponse => "failed to parse decompiler response: invalid reversed script"
  | .invalidGraph cause => "decompiled script does not describe a valid graph: " ++ cause.message
  | .editor cause => cause.message

/-- The first part of the message, before its first `": "`. -/
def headline (e : AppError) : String := (e.message.splitOn ": ").headD ""

end AppError

namespace Catalog

/-- Reads a catalog text: a JSON list of catalog entries. -/
def readText? (text : String) : Option Catalog :=
  match Json.parse text with
  | .ok j => (Json.asList NodeStructure.ofJson? j).map ofStructures
  | .error _ => none

end Catalog

variable {m : Type → Type} [Monad m] [FileStore m]

/-- Reads a document's text. -/
def readDocument (document : Document) (path : String) : m (Except AppError String) := do
  return (← FileStore.readText path).mapError (AppError.unreadable document path)

/-- Reads a catalog file. -/
def readCatalogFile (path : String) : m (Except AppError Catalog) := do
  match ← readDocument .catalog path with
  | .error e => return .error e
  | .ok text =>
    match Catalog.readText? text with
    | some catalog => return .ok catalog
    | none => return .error (.unparsable .catalog path)

namespace Editor

/-- Replaces the editor's contents with a snapshot file. -/
def loadSnapshotFile (e : Editor) (path : String) : m (Except AppError Editor) := do
  match ← readDocument .snapshot path with
  | .error err => return .error err
  | .ok text =>
    match readSnapshot text with
    | .error _ => return .error (.unparsable .snapshot path)
    | .ok snapshot => return (e.stageSnapshot snapshot).mapError (.unloadable .snapshot path)

/-- Replaces the editor's contents with a decompiled script file, over its catalog. -/
def loadDecompiledFile (e : Editor) (path : String) : m (Except AppError Editor) := do
  match ← readDocument .decompiledScript path with
  | .error err => return .error err
  | .ok text =>
    match readScript text with
    | .error _ => return .error (.unparsable .decompiledScript path)
    | .ok script =>
      return (e.stageScript script).mapError (.unloadable .decompiledScript path)

end Editor

/-- Writes a JSON value to a file, pretty-printed, making its directory first. -/
def writeJsonFile (path : String) (value : Json) : m (Except AppError Unit) := do
  if let some parent := Path.parent? path then
    if !parent.isEmpty then
      if let .error e ← FileStore.createDirAll parent then
        return .error (.noDirectory parent e)
  return (← FileStore.writeText path (Json.pretty value)).mapError (AppError.unwritable path)

end PipelineEditor
