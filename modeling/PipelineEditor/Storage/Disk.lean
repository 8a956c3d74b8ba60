import PipelineEditor.Storage.Basic
import PipelineEditor.Storage.Path
import PipelineEditor.Table

/-!
A file tree in memory, and the surroundings a run of the program sees.

The tree maps absolute paths to files and directories; the root is always a directory, and every
entry's parent is a directory. Operations follow the system's rules: walking a path fails with
"not found" at the first missing component and with "not a directory" at the first file on the
way; a directory is not read or written as a file; making a directory where a file stands fails
with "file exists". The empty path names nothing, and a path ending in a separator names only a
directory.

A `World` is such a tree with the calendar date, and `StateM World` is a `FileStore`.
-/

namespace PipelineEditor

/-- What a path of a file tree holds. -/
inductive Entry where
  | file (text : String)
  | directory
  deriving BEq, Inhabited

/-- A file tree in memory: entries by absolute path, and the working directory. -/
structure Disk where
  entries : Table Entry := Table.empty
  cwd : List String := []
  deriving Inhabited

namespace Disk

/-- The key of an entry: its components from the root, as an absolute path. -/
def key (components : List String) : String := Path.ofNames true components

/-- The entry at the components of a path; the root is a directory. -/
def entryAt (d : Disk) (components : List String) : Option Entry :=
  if components.isEmpty then some .directory else d.entries.get? (key components)

/-- The components of a path, from the working directory. -/
def resolve (d : Disk) (path : String) : List String := Path.components d.cwd path

/-- Checks that every directory above a path is one: the first missing component is "not
found", the first file is "not a directory". -/
def checkParents (d : Disk) (components : List String) : Except OsError Unit :=
  (List.range components.length).forM fun n =>
    match d.entryAt (components.take n) with
    | some .directory => .ok ()
    | some (.file _) => .error .notADirectory
    | none => .error .notFound

/-- What a path holds, once the way to it is checked; a path that names a directory only does
not reach a file. -/
def locate (d : Disk) (path : String) : Except OsError (Option Entry) :=
  if path.isEmpty then .error .notFound
  else
    let components := d.resolve path
    (d.checkParents components).bind fun _ =>
      match d.entryAt components with
      | some (.file _) => if Path.namesDirectory path then .error .notADirectory
        else .ok (d.entryAt components)
      | entry => .ok entry

/-- What a path names. -/
def kind (d : Disk) (path : String) : EntryKind :=
  match d.locate path with
  | .ok (some (.file _)) => .file
  | .ok (some .directory) => .directory
  | _ => .missing

/-- The text of a file. -/
def readText (d : Disk) (path : String) : Except OsError String :=
  match d.locate path with
  | .ok (some (.file text)) => .ok text
  | .ok (some .directory) => .error .isADirectory
  | .ok none => .error .notFound
  | .error e => .error e

/-- Adds a directory at every prefix of the components that is at least `first` names long. -/
def addDirectories (d : Disk) (components : List String) (first : Nat) : Disk :=
  (List.range (components.length + 1 - first)).foldl (fun d i =>
    { d with entries := d.entries.insert (key (components.take (first + i))) .directory }) d

/-- Makes a directory and the missing ones above it; nothing to do for the empty path. A file on
the way is "not a directory", and a file at the path itself "file exists". -/
def createDirAll (d : Disk) (path : String) : Except OsError Disk :=
  if path.isEmpty then .ok d
  else
    let components := d.resolve path
    let count := components.length
    let firstOther := (List.range (count + 1)).find? fun n =>
      d.entryAt (components.take n) != some .directory
    match firstOther with
    | none => .ok d
    | some n =>
      match d.entryAt (components.take n) with
      | some (.file _) => .error (if n == count then .alreadyExists else .notADirectory)
      | _ => .ok (d.addDirectories components n)

/-- Makes a file hold a text: its directory must exist, and neither it nor its path may be a
directory's. -/
def writeText (d : Disk) (path : String) (text : String) : Except OsError Disk :=
  match d.locate path with
  | .ok (some .directory) => .error .isADirectory
  | .ok none =>
    if Path.namesDirectory path then .error .isADirectory
    else .ok { d with entries := d.entries.insert (key (d.resolve path)) (.file text) }
  | .ok (some (.file _)) => .ok { d with entries := d.entries.insert (key (d.resolve path)) (.file text) }
  | .error e => .error e

/-- Adds a text to the end of a file, creating it if needed. -/
def appendText (d : Disk) (path : String) (text : String) : Except OsError Disk :=
  match d.locate path with
  | .ok (some .directory) => .error .isADirectory
  | .ok (some (.file old)) =>
    .ok { d with entries := d.entries.insert (key (d.resolve path)) (.file (old ++ text)) }
  | .ok none =>
    if Path.namesDirectory path then .error .isADirectory
    else .ok { d with entries := d.entries.insert (key (d.resolve path)) (.file text) }
  | .error e => .error e

/-- A tree holding only its working directory and the directories above it. -/
def atDirectory (cwd : List String) : Disk :=
  ({ cwd } : Disk).addDirectories cwd 1

/-- The tree with a file, its missing directories made first; a file in the way stays. -/
def withFile (d : Disk) (path : String) (text : String) : Disk :=
  let d := match Path.parent? path with
    | some parent => (d.createDirAll parent).toOption.getD d
    | none => d
  (d.writeText path text).toOption.getD d

/-- The tree with a directory and its missing parents; a file in the way stays. -/
def withDirectory (d : Disk) (path : String) : Disk := (d.createDirAll path).toOption.getD d

/-- The tree without a path and what is below it. -/
def remove (d : Disk) (path : String) : Disk :=
  let k := key (d.resolve path)
  { d with entries := d.entries.filter fun name _ => name != k && !name.startsWith (k ++ "/") }

end Disk

/-- The surroundings of a run: a file tree and today's date (`YYYY-MM-DD`, UTC). -/
structure World where
  disk : Disk
  today : String
  deriving Inhabited

namespace World

/-- Runs a change of the tree that may fail. -/
def change (f : Disk → Except OsError Disk) : StateM World (Except OsError Unit) :=
  modifyGet fun w => match f w.disk with
    | .ok disk => (.ok (), { w with disk })
    | .error e => (.error e, w)

instance : FileStore (StateM World) where
  entryKind path := return (← get).disk.kind path
  readText path := return (← get).disk.readText path
  createDirAll path := change (·.createDirAll path)
  writeText path text := change (·.writeText path text)
  appendText path text := change (·.appendText path text)
  today := return (← get).today

end World

end PipelineEditor
