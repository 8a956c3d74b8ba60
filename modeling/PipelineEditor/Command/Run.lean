import PipelineEditor.Command.Args
import PipelineEditor.Command.Summary
import PipelineEditor.Loading.Decompiler
import PipelineEditor.Settings.Config
import PipelineEditor.Logging.Sink
import PipelineEditor.Export.Basic

/-!
A run of the command line.

A run reads its arguments (a usage error ends it with status 2, help with status 0), finds the
data directory, makes it and its settings file if missing, reads the settings (falling back to
the defaults when they cannot be read) and sets up logging: the console and file filters, and the
log file sink in the settings' log directory (the default one when the settings cannot be read).
A filter that is not well formed, and a missing file sink, are reported on the error stream;
a console filter that is not well formed is replaced by `info`. A filter whose reading cuts a
character in two stops the program with status 101 before the command runs.

Then the command runs. `export` loads a snapshot file into an empty editor and writes its
execution config for the repository given, else the settings' default one. `import-reversed`
loads a decompiled script file over the configured catalog (an empty one when its file does not
exist) and writes the snapshot. `import-script` reads a script file, sends it to the decompiler
named in the settings and writes the snapshot of the result. `inspect` prints the summary of a
snapshot file. Output goes to the file given with `-o`, pretty-printed, or to the standard
output. A failed command ends the run with status 1, and its error is logged as an error line of
the program, which reaches the error stream when the console filter lets it through.
-/

namespace PipelineEditor

/-- The environment variables a run reads. -/
structure Environment where
  /-- The log filter (`RUST_LOG`). -/
  logFilter : Option String := none
  /-- The data directory (`FLOWCANVAS_DATA_DIR`). -/
  dataDir : Option String := none
  deriving Inhabited, Repr

/-- A line a run writes to its error stream for the user. -/
inductive Note where
  /-- A log filter is not well formed, and `info` is used instead. -/
  | invalidFilter (sink : String) (filter : String)
  /-- There is no log file, only the console. -/
  | consoleOnly (attempted : String) (reason : SinkFailure)
  deriving Inhabited, Repr

/-- The text of a note. -/
def Note.text : Note → String
  | .invalidFilter sink filter =>
    s!"Invalid {sink} log filter '{filter}': invalid filter directive. Falling back to 'info'."
  | .consoleOnly attempted reason =>
    "Warning: persistent file logging unavailable (path: " ++ attempted ++ "; reason: " ++
      reason.reason ++ "). Continuing with console-only logging."

/-- What a run ends with. -/
structure Outcome where
  /-- The exit status: 0 for success, 1 for a failed command, 2 for a usage error, 101 when the
  program stopped while setting up logging. -/
  exitCode : Nat
  /-- What was written to the standard output. -/
  stdout : String := ""
  /-- The notes written to the error stream. -/
  notes : List Note := []
  /-- Why the command failed. -/
  failure : Option AppError := none
  /-- Whether the console filter lets the failure's line through to the error stream. -/
  failureShown : Bool := false
  /-- Why the command line was refused. -/
  usage : Option UsageError := none
  deriving Inhabited

/-- The status of a program stopped while setting up logging. -/
def stoppedStatus : Nat := 101

/-- How the logging set-up ends. -/
structure LoggingSetup where
  /-- The notes written to the error stream. -/
  notes : List Note
  /-- The directives of the console filter in use. -/
  console : List LogFilter.Directive
  /-- Whether reading a filter stopped the program. -/
  stopped : Bool

/-- Sets up logging: the console filter is read first, then the file filter when there is a log
file; a filter that is not well formed gives a note (the console then uses `info`), one whose
reading cuts a character stops the program, and a missing log file gives a note last. -/
def setUpLogging (filters : LogFilters) (sink : FileSink) : LoggingSetup :=
  match LogFilter.read filters.console with
  | .error .splitCharacter => ⟨[], [], true⟩
  | console =>
    let consoleNotes := match console with
      | .error _ => [Note.invalidFilter "console" filters.console]
      | .ok _ => []
    let inUse := match console with
      | .ok directives => directives
      | .error _ => LogFilter.defaultDirectives
    match sink with
    | .ready _ _ =>
      match LogFilter.read filters.file with
      | .error .splitCharacter => ⟨consoleNotes, inUse, true⟩
      | .error .malformed => ⟨consoleNotes ++ [.invalidFilter "file" filters.file], inUse, false⟩
      | .ok _ => ⟨consoleNotes, inUse, false⟩
    | .fallback attempted _ reason =>
      ⟨consoleNotes ++ [.consoleOnly (attempted.getD "<none>") reason], inUse, false⟩

section Commands

variable {m : Type → Type} [Monad m] [FileStore m] [ScriptTransport m]

/-- Writes a value to the file given, or gives it as the standard output. -/
def emit (output : Option String) (value : Json) : ExceptT AppError m String :=
  match output with
  | some path => do
    ExceptT.mk (writeJsonFile path value)
    pure ""
  | none => pure (Json.pretty value ++ "\n")

/-- The configured catalog; an empty one when its file does not exist. -/
def loadCatalog (dataDir : String) (settings : Settings) : ExceptT AppError m Catalog := do
  let path := Path.resolveRelativeTo dataDir settings.catalogFile
  if !(← (FileStore.pathExists path : m Bool)) then return Catalog.empty
  ExceptT.mk (readCatalogFile path)

/-- Runs a command; its standard output. -/
def runCommand (dataDir : String) (settings : Settings) (random : Nat) :
    Command → ExceptT AppError m String
  | .export snapshot output repository => do
    let editor ← ExceptT.mk ((Editor.ofCatalog Catalog.empty).loadSnapshotFile snapshot)
    let repository := repository.or settings.defaultRepository
    let config ← ExceptT.mk (pure ((editor.exportExecutionConfig editor.graph.nameOrders repository random).mapError .editor))
    emit output config.toJson
  | .importScript input output => do
    let script ← ExceptT.mk (readDocument .script input)
    let base ← ExceptT.mk (pure (decompilerBase settings.backendUrl))
    let catalog ← loadCatalog dataDir settings
    let editor ← ExceptT.mk ((Editor.ofCatalog catalog).loadScriptViaDecompiler base script)
    emit output editor.snapshot.toJson
  | .importDecompiled input output => do
    let catalog ← loadCatalog dataDir settings
    let editor ← ExceptT.mk ((Editor.ofCatalog catalog).loadDecompiledFile input)
    emit output editor.snapshot.toJson
  | .inspect snapshot => do
    let editor ← ExceptT.mk ((Editor.ofCatalog Catalog.empty).loadSnapshotFile snapshot)
    pure (editor.summary editor.graph.nameOrders)

/-- Runs the command line `args` in an environment; `random` draws the pipeline id. -/
def run (env : Environment) (random : Nat) (args : List String) : m Outcome := do
  match readArgs args with
  | .usage e => return { exitCode := 2, usage := some e }
  | .help text => return { exitCode := 0, stdout := text }
  | .run invocation =>
    let dataDir := dataDirectory invocation.dataDir env.dataDir
    let _ ← initializeDataDirectory dataDir
    let loaded ← Settings.load (settingsPath dataDir)
    let logDir := match loaded with
      | .ok s => s.logsDir
      | .error _ => ({} : Settings).logsDir
    let options : LogOptions :=
      { verbose := invocation.verbose, commandLineFilter := invocation.logFilter,
        environmentFilter := env.logFilter }
    let sink ← ({ dataDir := some dataDir, logDir } : SinkOptions).plan
    let setup := setUpLogging options.filters sink
    let notes := setup.notes
    if setup.stopped then return { exitCode := stoppedStatus, notes }
    let settings := match loaded with
      | .ok s => s
      | .error _ => {}
    let failureShown := LogFilter.enables setup.console LogFilter.programTarget
      LogFilter.programFields LogFilter.errorLevel
    match ← (runCommand dataDir settings random invocation.command).run with
    | .ok stdout => return { exitCode := 0, stdout, notes }
    | .error e => return { exitCode := 1, notes, failure := some e, failureShown }

end Commands

end PipelineEditor
