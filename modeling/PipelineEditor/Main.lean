import PipelineEditor.Command.Run
import Std.Time.DateTime.Timestamp

/-!
The command line program: a run of `PipelineEditor.run` on the machine's file system.

Files are read and written through the system, and the clock gives today's date for the log
file. There is no HTTP transport, so the decompiler is never reached.
-/

namespace PipelineEditor

namespace Machine

/-- The error number of a failure of the system, if it has one. -/
def osCode? : IO.Error → Option UInt32
  | .alreadyExists _ code _ | .otherError code _ | .resourceBusy code _
  | .resourceVanished code _ | .unsupportedOperation code _ | .hardwareFault code _
  | .unsatisfiedConstraints code _ | .illegalOperation code _ | .protocolError code _
  | .timeExpired code _ | .interrupted _ code _ | .noFileOrDirectory _ code _
  | .invalidArgument _ code _ | .permissionDenied _ code _ | .resourceExhausted _ code _
  | .inappropriateType _ code _ | .noSuchThing _ code _ => some code
  | _ => none

/-- A failure of the system as the program sees it. -/
def osErrorOf (e : IO.Error) : OsError :=
  match osCode? e with
  | some 2 => .notFound
  | some 17 => .alreadyExists
  | some 20 => .notADirectory
  | some 21 => .isADirectory
  | some code => .other code.toNat (toString e)
  | none => .other 0 (toString e)

/-- Runs a system action, keeping its failure. -/
def attempt {α : Type} (action : IO α) : IO (Except OsError α) := do
  try return .ok (← action) catch e => return .error (osErrorOf e)

/-- What a path names on the machine: what cannot be opened names nothing, and what can be
opened but not read is a directory. -/
def entryKind (path : String) : IO EntryKind := do
  if path.isEmpty then return .missing
  match ← attempt (IO.FS.Handle.mk path .read) with
  | .error _ => return .missing
  | .ok handle =>
    match ← attempt (handle.read 1) with
    | .ok _ => return .file
    | .error .isADirectory => return .directory
    | .error _ => return .file

/-- Adds a text to the end of a file, creating it if needed. -/
def appendText (path text : String) : IO (Except OsError Unit) :=
  attempt do
    let handle ← IO.FS.Handle.mk path .append
    handle.putStr text
    handle.flush

/-- Today's date in UTC. -/
def today : IO String := do
  let seconds := (← Std.Time.Timestamp.now).toSecondsSinceUnixEpoch.val
  return dayText (seconds / 86400)

instance : FileStore IO where
  entryKind := entryKind
  readText path := attempt (IO.FS.readFile path)
  createDirAll path := if path.isEmpty then pure (.ok ()) else attempt (IO.FS.createDirAll path)
  writeText path text := attempt (IO.FS.writeFile path text)
  appendText := appendText
  today := today

instance : ScriptTransport IO where
  postJson _ _ := pure (.error "no HTTP transport is available")

end Machine

end PipelineEditor

open PipelineEditor in
/-- Runs the command line and exits with its status. -/
def main (args : List String) : IO UInt32 := do
  let env : Environment := {
    logFilter := ← IO.getEnv "RUST_LOG"
    dataDir := ← IO.getEnv "FLOWCANVAS_DATA_DIR" }
  let outcome ← run env (← IO.rand 0 (Editor.pipelineUidRange - 1)) args
  let stderr ← IO.getStderr
  for note in outcome.notes do
    stderr.putStrLn note.text
  if outcome.exitCode == stoppedStatus then
    stderr.putStrLn "log filter cut inside a character"
  if let some usage := outcome.usage then
    stderr.putStrLn ("error: " ++ usage.message)
  if let some failure := outcome.failure then
    if outcome.failureShown then
      stderr.putStrLn ("ERROR " ++ LogFilter.programTarget ++ ": " ++ failure.message)
  IO.print outcome.stdout
  return outcome.exitCode.toUInt32
