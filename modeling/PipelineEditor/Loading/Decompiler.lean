import PipelineEditor.Loading.Files
import PipelineEditor.Storage.Disk

/-!
The script decompiler: a service that turns a pipeline script back into graph form.

The decompiler is reached at its base address, whose path is made to end in `/`; the endpoint
`script` is resolved against it, which fails for an address that cannot be a base. A script is
sent as the JSON object `{"script": text}`; an answer with a status outside 200 to 299 is a
failure, and a successful answer must be a decompiled script. Loading a script through the
decompiler then replaces the editor's contents with the decompiled graph, over its catalog.

`ScriptTransport m` sends the request in a monad `m`. The file tree in memory has no network,
so there the decompiler is never reached.
-/

namespace PipelineEditor

/-- An answer of an HTTP service. -/
structure HttpResponse where
  status : Nat
  body : String
  deriving Inhabited

/-- Sending a JSON request to a URL and receiving the answer, in a monad `m`. -/
class ScriptTransport (m : Type → Type) where
  /-- Posts a JSON value; a failure to connect gives its reason. -/
  postJson : String → Json → m (Except String HttpResponse)

instance : ScriptTransport (StateM World) where
  postJson _ _ := pure (.error "no network connection")

/-- The endpoint of the decompiler below its base address. -/
def decompilerEndpoint : String := "script"

/-- The decompiler's base address, its path ending in `/`. -/
def decompilerBase (address : String) : Except AppError Url :=
  match Url.parse address with
  | .ok url => .ok url.withTrailingSlash
  | .error e => .error (.invalidBaseUrl e)

/-- Sends a script to the decompiler and reads the decompiled script it answers. -/
def decompile {m : Type → Type} [Monad m] [ScriptTransport m] (base : Url) (script : String) :
    m (Except AppError DecompiledScript) := do
  match base.resolveSegment decompilerEndpoint with
  | .error e => return .error (.noEndpoint decompilerEndpoint e)
  | .ok url =>
    match ← ScriptTransport.postJson url.text (Json.mkObject [("script", .string script)]) with
    | .error reason => return .error (.unreachable reason)
    | .ok response =>
      if response.status < 200 || 300 ≤ response.status then
        return .error (.httpStatus response.status)
      match Editor.readScript response.body with
      | .ok decompiled => return .ok decompiled
      | .error _ => return .error .invalidResponse

/-- Decompiles a script and replaces the editor's contents with the result. -/
def Editor.loadScriptViaDecompiler {m : Type → Type} [Monad m] [ScriptTransport m] (e : Editor)
    (base : Url) (script : String) : m (Except AppError Editor) := do
  match ← decompile base script with
  | .error err => return .error err
  | .ok decompiled => return (e.stageScript decompiled).mapError AppError.invalidGraph

end PipelineEditor
