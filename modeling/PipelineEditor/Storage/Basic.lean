/-!
What the program asks of the file system it runs on.

The program looks at what a path names, reads whole text files, creates directories with their
missing parents, writes whole text files and appends to them. `FileStore m` gives these in a
monad `m`; the command line runs them on the machine's file system and tests run them on a file
tree in memory (`World`). Failures are the system's error numbers, each with its usual text.
-/

namespace PipelineEditor

/-- What a path names. -/
inductive EntryKind where
  | file
  | directory
  | missing
  deriving BEq, Repr, Inhabited

/-- A failure of the file system, by its error number. -/
inductive OsError where
  /-- A component of the path does not exist. -/
  | notFound
  /-- A component on the way is a file. -/
  | notADirectory
  /-- A file was asked for and a directory found. -/
  | isADirectory
  /-- Something already exists where a directory was to be made. -/
  | alreadyExists
  /-- Any other failure, with its number and text. -/
  | other (code : Nat) (text : String)
  deriving BEq, Repr, Inhabited

namespace OsError

/-- The error number. -/
def code : OsError → Nat
  | .notFound => 2
  | .notADirectory => 20
  | .isADirectory => 21
  | .alreadyExists => 17
  | .other code _ => code

/-- The text of the error, as the system words it. -/
def description : OsError → String
  | .notFound => "No such file or directory"
  | .notADirectory => "Not a directory"
  | .isADirectory => "Is a directory"
  | .alreadyExists => "File exists"
  | .other _ text => text

/-- The text of the error with its number. -/
def message (e : OsError) : String :=
  let number := e.code
  e.description ++ s!" (os error {number})"

end OsError

/-- The file system operations the program needs, in a monad `m`. Paths are texts; a relative
path is taken from the working directory. -/
class FileStore (m : Type → Type) where
  /-- What a path names; a path that cannot be looked at names nothing. -/
  entryKind : String → m EntryKind
  /-- The text of a file. -/
  readText : String → m (Except OsError String)
  /-- Makes a directory and the missing directories above it. -/
  createDirAll : String → m (Except OsError Unit)
  /-- Makes a file hold a text, creating it if needed. -/
  writeText : String → String → m (Except OsError Unit)
  /-- Adds a text to the end of a file, creating it if needed. -/
  appendText : String → String → m (Except OsError Unit)
  /-- Today's date in UTC, as `YYYY-MM-DD`. -/
  today : m String

namespace FileStore

variable {m : Type → Type} [Monad m] [FileStore m]

/-- Whether a path names anything. -/
def pathExists (path : String) : m Bool := do
  return (← entryKind path) != .missing

/-- Whether a path names a directory. -/
def isDirectory (path : String) : m Bool := do
  return (← entryKind path) == .directory

end FileStore

end PipelineEditor
