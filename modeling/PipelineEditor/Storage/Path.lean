/-!
Paths of the file system, as text.

A path is absolute when it starts with `/`. Joining a path to a base puts a separator between
them unless the base is empty or already ends in one, and an absolute path replaces the base.
The parent of a path is the path without its last component; the root and the empty path have
none, and the parent of a single relative component is the empty path. A path that ends in a
separator names a directory only.

Components are what the file system walks: the names between separators, without empty names
and `.`; `..` steps back to the enclosing directory.
-/

namespace PipelineEditor

namespace Path

/-- The separator of path components. -/
def separator : Char := '/'

/-- Whether a path starts at the root. -/
def isAbsolute (path : String) : Bool := path.startsWith "/"

/-- A path joined to a base; an absolute path stands for itself. -/
def join (base path : String) : String :=
  if isAbsolute path || base.isEmpty then path
  else if base.endsWith "/" then base ++ path
  else base ++ "/" ++ path

/-- A path resolved against a base: itself when absolute, else joined to the base. -/
def resolveRelativeTo (base path : String) : String := join base path

/-- The names of a path between separators, without empty names and the `.` that does not
start it. -/
def names (path : String) : List String :=
  let parts := path.splitOn "/"
  match parts with
  | first :: rest => (if first.isEmpty then [] else [first]) ++
      rest.filter fun part => !part.isEmpty && part != "."
  | [] => []

/-- Whether a path can only name a directory: it ends in a separator, or in `/.`. -/
def namesDirectory (path : String) : Bool := path.endsWith "/" || path.endsWith "/."

/-- The path of a list of names, below the root when `absolute`. -/
def ofNames (absolute : Bool) (parts : List String) : String :=
  (if absolute then "/" else "") ++ "/".intercalate parts

/-- The parent of a path: the path without its last component. The root and the empty path have
none. -/
def parent? (path : String) : Option String :=
  match (names path).reverse with
  | [] => none
  | _ :: earlier => some (ofNames (isAbsolute path) earlier.reverse)

/-- The components the file system walks from the root, for a path relative to the working
directory `cwd` (itself a list of components from the root); `..` steps back. -/
def components (cwd : List String) (path : String) : List String :=
  let start := if isAbsolute path then [] else cwd
  ((names path).foldl (fun acc part =>
    if part == "." then acc
    else if part == ".." then acc.drop 1
    else part :: acc) start.reverse).reverse

end Path

end PipelineEditor
