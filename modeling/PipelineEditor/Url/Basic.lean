import PipelineEditor.Url.Host

/-!
URLs: reading a URL without a base, writing it back, and resolving a relative path against it.

Reading follows the URL standard. Blanks and controls around the text are dropped, and tabs and
line breaks inside it. A URL starts with a scheme (a letter, then letters, digits, `+`, `-` and
`.`) and a colon; a text without one is relative, and has no meaning without a base. The
special schemes (`http`, `https`, `ws`, `wss`, `ftp`, `file`) always have a host, reached past
any slashes or backslashes; other schemes have one only after `//`, have a path from the root
after `/`, and otherwise an unstructured path. An authority holds an optional user name and
password before its last `@`, a host, and an optional port, dropped when it is the scheme's
default. A path is split into segments; `.` segments vanish and `..` segments remove the one
before, unless that one is a drive letter (a letter and `:` or `|`); a special scheme always
has a path. A `file` URL whose host would be a drive letter has none, and that letter starts its
path; a drive letter that starts a `file` path is written with `:`, and empty segments before
the last are dropped from the front. The query follows `?` and the fragment `#`.

A URL with an unstructured path cannot be a base: no relative path resolves against it.
-/

namespace PipelineEditor

namespace Url

/-- The path of a URL. -/
inductive UrlPath where
  /-- Segments below the root, each written after a `/`. -/
  | segments (parts : List String)
  /-- A path with no structure, for a URL that cannot be a base. -/
  | unstructured (text : String)
  deriving BEq, Inhabited, Repr

/-- Why a text is not a URL. -/
inductive ParseError where
  | relativeWithoutBase
  | emptyHost
  | invalidPort
  | invalidHost (cause : HostError)
  | cannotBeABase
  deriving BEq, Inhabited, Repr

/-- The message of a failure, as the URL library words it. -/
def ParseError.message : ParseError → String
  | .relativeWithoutBase => "relative URL without a base"
  | .emptyHost => "empty host"
  | .invalidPort => "invalid port number"
  | .invalidHost .emptyHost => "empty host"
  | .invalidHost .invalidDomainCharacter => "invalid domain character"
  | .invalidHost .invalidIpv4 => "invalid IPv4 address"
  | .invalidHost .invalidIpv6 => "invalid IPv6 address"
  | .invalidHost .invalidDomain => "invalid international domain name"
  | .cannotBeABase => "relative URL with a cannot-be-a-base base"

end Url

/-- A URL. -/
structure Url where
  scheme : String
  username : String := ""
  password : String := ""
  host : Option Url.Host := none
  port : Option Nat := none
  path : Url.UrlPath
  query : Option String := none
  fragment : Option String := none
  deriving BEq, Inhabited, Repr

namespace Url

/-- The default port of a special scheme. -/
def defaultPort : String → Option Nat
  | "http" => some 80
  | "https" => some 443
  | "ws" => some 80
  | "wss" => some 443
  | "ftp" => some 21
  | _ => none

/-- Whether a scheme is special. -/
def isSpecial (scheme : String) : Bool :=
  ["http", "https", "ws", "wss", "ftp", "file"].contains scheme

/-- The text with blanks and controls around it dropped, and tabs and line breaks removed. -/
def clean (text : String) : List Char :=
  let isEdge := fun (c : Char) => c.toNat ≤ 0x20
  let cs := (text.toList.dropWhile isEdge).reverse.dropWhile isEdge |>.reverse
  cs.filter fun c => c != '\t' && c != '\n' && c != '\r'

/-- The scheme at the front, lower-cased, and the rest after its colon. -/
def splitScheme? (cs : List Char) : Option (String × List Char) :=
  match cs with
  | c :: rest =>
    if c.isAlpha then
      let more := rest.takeWhile fun d => d.isAlphanum || d == '+' || d == '-' || d == '.'
      match rest.drop more.length with
      | ':' :: after => some (String.ofList ((c :: more).map Char.toLower), after)
      | _ => none
    else none
  | [] => none

/-- Whether a segment is `.`, possibly written `%2e`. -/
def isSingleDot (s : String) : Bool := s == "." || s.toLower == "%2e"

/-- Whether a segment is `..`, possibly with its dots written `%2e`. -/
def isDoubleDot (s : String) : Bool :=
  let lower := s.toLower
  lower == ".." || lower == ".%2e" || lower == "%2e." || lower == "%2e%2e"

/-- Whether a segment is a drive letter: a letter, then `:` or `|`. -/
def isDriveLetter (s : String) : Bool :=
  match s.toList with
  | [c, d] => c.isAlpha && (d == ':' || d == '|')
  | _ => false

/-- A drive letter written with `:`. -/
def normalDrive (s : String) : String :=
  match s.toList with
  | c :: _ => String.ofList [c, ':']
  | [] => s

/-- Drops empty segments from the front while another follows. -/
def dropLeadingEmpty : List String → List String
  | "" :: next :: rest => dropLeadingEmpty (next :: rest)
  | parts => parts

/-- The segments of a path text, split at each separator, with dot segments resolved onto
`base`; `file` says whether the path is a `file` URL's. The flag says whether a drive letter was
written as the first segment. -/
def resolveSegments (special file : Bool) (text : List Char) (base : List String) :
    List String × Bool :=
  let isSeparator := fun (c : Char) => c == '/' || (special && c == '\\')
  let raw := (String.ofList text).split (fun c => isSeparator c) |>.toList.map (·.copy)
  let count := raw.length
  let (acc, drive) := raw.zipIdx.foldl (fun (acc, drive) (segment, i) =>
    let last := i + 1 == count
    if isDoubleDot segment then
      let acc := match acc with
        | previous :: rest => if isDriveLetter previous then acc else rest
        | [] => []
      (if last then "" :: acc else acc, drive)
    else if isSingleDot segment then
      (if last then "" :: acc else acc, drive)
    else
      let encoded := encode .path segment
      if file && acc.isEmpty && isDriveLetter encoded then (normalDrive encoded :: acc, true)
      else (encoded :: acc, drive))
    (base.reverse, false)
  let resolved := acc.reverse
  (if file then dropLeadingEmpty resolved else resolved, drive)

/-- The path, query and fragment of the text after the authority. -/
def splitTail (cs : List Char) : List Char × Option String × Option String :=
  let pathPart := cs.takeWhile fun c => c != '?' && c != '#'
  let rest := cs.drop pathPart.length
  match rest with
  | '?' :: more =>
    let queryPart := more.takeWhile (· != '#')
    let fragment := match more.drop queryPart.length with
      | '#' :: f => some (String.ofList f)
      | _ => none
    (pathPart, some (String.ofList queryPart), fragment)
  | '#' :: f => (pathPart, none, some (String.ofList f))
  | _ => (pathPart, none, none)

/-- The path of a scheme with a structured path, from the text that follows the authority. -/
def structuredPath (special file : Bool) (text : List Char) : List String :=
  match text with
  | c :: rest =>
    if c == '/' || (special && c == '\\') then (resolveSegments special file rest []).1
    else (resolveSegments special file text []).1
  | [] => if special then [""] else []

/-- Reads a port; the scheme's default port is no port. -/
def parsePort (scheme : String) (text : List Char) : Except ParseError (Option Nat) :=
  if text.isEmpty then .ok none
  else if text.all Char.isDigit then
    let n := text.foldl (fun acc c => acc * 10 + (c.toNat - '0'.toNat)) 0
    if n > 65535 then .error .invalidPort
    else if defaultPort scheme == some n then .ok none
    else .ok (some n)
  else .error .invalidPort

/-- Splits a host and port at the first colon outside brackets. -/
def splitPort (cs : List Char) : List Char × Option (List Char) :=
  let rec go : List Char → Bool → List Char → List Char × Option (List Char)
    | [], _, acc => (acc.reverse, none)
    | ':' :: rest, false, acc => (acc.reverse, some rest)
    | '[' :: rest, _, acc => go rest true ('[' :: acc)
    | ']' :: rest, _, acc => go rest false (']' :: acc)
    | c :: rest, inside, acc => go rest inside (c :: acc)
  go cs false []

/-- Reads a URL of a scheme that has an authority, from the text after the slashes. -/
def parseAuthority (scheme : String) (cs : List Char) : Except ParseError Url := do
  let special := isSpecial scheme
  let authority := cs.takeWhile fun c => c != '/' && c != '?' && c != '#' && !(special && c == '\\')
  let tail := cs.drop authority.length
  let (userinfo, hostPort) := match authority.reverse.findIdx? (· == '@') with
    | some i => (some (authority.take (authority.length - 1 - i)), authority.drop (authority.length - i))
    | none => (none, authority)
  let (hostText, portText) := splitPort hostPort
  if hostText.isEmpty && (portText.isSome || userinfo.isSome || special) then throw .emptyHost
  let host ← (if special then parseSpecialHost (String.ofList hostText)
    else parsePlainHost (String.ofList hostText)).mapError ParseError.invalidHost
  let port ← match portText with
    | some p => parsePort scheme p
    | none => pure none
  let (username, password) := match userinfo with
    | some info =>
      let name := info.takeWhile (· != ':')
      (encode .userinfo (String.ofList name), encode .userinfo (String.ofList (info.drop (name.length + 1))))
    | none => ("", "")
  let (pathText, query, fragment) := splitTail tail
  pure { scheme, username, password, host := some host, port,
         path := .segments (structuredPath special false pathText),
         query := query.map (encode (if special then .specialQuery else .query)),
         fragment := fragment.map (encode .fragment) }

/-- A `file` URL of a host whose path, query and fragment are read from `text`, every separator
of the path starting a segment; the flag says whether a drive letter starts the path. -/
def fileTail (host : Host) (text : List Char) : Url × Bool :=
  let (pathText, query, fragment) := splitTail text
  let (segments, drive) := resolveSegments true true pathText []
  ({ scheme := "file", host := some host, path := .segments segments,
     query := query.map (encode .specialQuery), fragment := fragment.map (encode .fragment) },
   drive)

/-- Reads a `file` URL from the text after `file:`. Without a host (none written, `localhost`,
or a drive letter where the host would be) the path is read from the slash that ends the
authority, so that a drive letter after it is kept as written; a drive letter that starts the
path after a host takes the host's place. -/
def parseFile (cs : List Char) : Except ParseError Url := do
  let isSlash := fun (c : Char) => c == '/' || c == '\\'
  let noHost := Host.domain ""
  match cs with
  | a :: b :: rest =>
    if isSlash a && isSlash b then
      let hostText := rest.takeWhile fun c => !isSlash c && c != '?' && c != '#'
      let after := rest.drop hostText.length
      if isDriveLetter (String.ofList hostText) then return (fileTail noHost rest).1
      let host ← if hostText.isEmpty then pure noHost else
        match parseSpecialHost (String.ofList hostText) with
        | .ok (.domain "localhost") => pure noHost
        | .ok h => pure h
        | .error e => throw (.invalidHost e)
      if host == noHost then return (fileTail noHost after).1
      let pathText := match after with
        | c :: more => if isSlash c then more else after
        | [] => []
      let (url, drive) := fileTail host pathText
      return if drive then { url with host := some noHost } else url
    else if isSlash a then return (fileTail noHost (b :: rest)).1
    else return (fileTail noHost cs).1
  | [a] => return (fileTail noHost (if isSlash a then [] else [a])).1
  | [] => return (fileTail noHost []).1

/-- Reads a URL without a base. -/
def parse (text : String) : Except ParseError Url := do
  let cs := clean text
  let some (scheme, rest) := splitScheme? cs | throw .relativeWithoutBase
  if scheme == "file" then return ← parseFile rest
  if isSpecial scheme then
    return ← parseAuthority scheme (rest.dropWhile fun c => c == '/' || c == '\\')
  match rest with
  | '/' :: '/' :: more => parseAuthority scheme more
  | '/' :: _ =>
    let (pathText, query, fragment) := splitTail rest
    pure { scheme, path := .segments (structuredPath false false pathText),
           query := query.map (encode .query), fragment := fragment.map (encode .fragment) }
  | _ =>
    let (pathText, query, fragment) := splitTail rest
    pure { scheme, path := .unstructured (encode .controls (String.ofList pathText)),
           query := query.map (encode .query), fragment := fragment.map (encode .fragment) }

end Url

namespace Url

/-- The path as written. -/
def UrlPath.text : UrlPath → String
  | .segments parts => String.join (parts.map ("/" ++ ·))
  | .unstructured text => text

end Url

/-- The URL as text. -/
def Url.text (u : Url) : String :=
  let authority := match u.host with
    | some host =>
      let credentials :=
        if u.username.isEmpty && u.password.isEmpty then ""
        else u.username ++ (if u.password.isEmpty then "" else ":" ++ u.password) ++ "@"
      let port := match u.port with
        | some p => ":" ++ toString p
        | none => ""
      "//" ++ credentials ++ host.text ++ port
    | none => match u.path with
      | .segments ("" :: _ :: _) => "/."
      | _ => ""
  u.scheme ++ ":" ++ authority ++ u.path.text ++
    (u.query.map ("?" ++ ·)).getD "" ++ (u.fragment.map ("#" ++ ·)).getD ""

/-- Whether relative paths can be resolved against the URL. -/
def Url.isBase (u : Url) : Bool :=
  match u.path with
  | .segments _ => true
  | .unstructured _ => false

/-- The URL with its path ending in `/`; the query and fragment stay. The path is set anew, so
a drive letter that starts a `file` path is written with `:`. An unstructured path cannot start
with `/`, so an empty one becomes `%2F`. -/
def Url.withTrailingSlash (u : Url) : Url :=
  match u.path with
  | .segments parts =>
    if parts.getLast? == some "" then u
    else
      let parts := match parts with
        | first :: rest =>
          if u.scheme == "file" && Url.isDriveLetter first then Url.normalDrive first :: rest
          else first :: rest
        | [] => []
      { u with path := .segments (parts ++ [""]) }
  | .unstructured text =>
    { u with path := .unstructured (if text.isEmpty then "%2F" else text ++ "/") }

/-- A relative path of one segment resolved against the URL: it replaces the last segment, and
the query and fragment go. -/
def Url.resolveSegment (u : Url) (segment : String) : Except Url.ParseError Url :=
  match u.path with
  | .segments parts =>
    .ok { u with path := .segments (parts.dropLast ++ [Url.encode .path segment]),
                 query := none, fragment := none }
  | .unstructured _ => .error .cannotBeABase

end PipelineEditor
