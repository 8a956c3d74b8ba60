import PipelineEditor.Graph.Port
import PipelineEditor.Decimal.Layout

/-!
Why an editor command or a loader refuses its input.

Every refusal leaves the editor as it was. The wording of each cause is in `EditorError.message`;
`EditorError.kind` is the cause's name, and `EditorError.isUserFacing` tells the causes a user can
fix by choosing differently (a name, a selection, a repository) from those that show a caller
passing references or payloads that do not exist or do not fit.
-/

namespace PipelineEditor

/-- The causes of a refused command or load. -/
inductive EditorError where
  | duplicateName (name : String)
  | invalidName (name : String)
  | invalidPosition (x y : Float)
  | multipleNodesSelected (count : Nat)
  | nothingSelected
  | missingRepository
  | unknownPackage (package : String)
  | unknownClazz (clazz : String)
  | unknownNode (name : String)
  | unknownPort (node port : String) (direction : Direction)
  | notAnyParameter (node param : String)
  | incompatiblePorts (fromNode fromPort fromType toNode toPort toType : String)
  | cycleDetected
  | invalidTransform (raw : String)
  /-- A payload that reads but does not describe a valid graph. -/
  | malformed (detail : String)
  /-- A payload text that does not read as the expected record. -/
  | parse
  deriving Inhabited

namespace EditorError

/-- The sentence that describes the cause. -/
def message : EditorError → String
  | .duplicateName name => s!"a node named '{name}' already exists"
  | .invalidName name =>
    s!"invalid node name '{name}': names must be non-empty and must not contain '$'"
  | .invalidPosition x y =>
    "node position (" ++ Decimal.plainText x ++ ", " ++ Decimal.plainText y ++ ") is not finite"
  | .multipleNodesSelected count =>
    s!"rename needs exactly one selected node, but {count} are selected"
  | .nothingSelected => "no node is selected"
  | .missingRepository => "no default repository is configured"
  | .unknownPackage package => s!"unknown node package: {package}"
  | .unknownClazz clazz => s!"no catalog entry declares class '{clazz}'"
  | .unknownNode name => s!"unknown node: {name}"
  | .unknownPort node port direction =>
    let side := direction.name
    s!"node '{node}' has no {side} port '{port}'"
  | .notAnyParameter node param => s!"node '{node}' has no parameter '{param}' of type any"
  | .incompatiblePorts fromNode fromPort fromType toNode toPort toType =>
    s!"incompatible ports: '{fromNode}:{fromPort}' ({fromType}) -> '{toNode}:{toPort}' ({toType})"
  | .cycleDetected => "cycle detected in pipeline graph"
  | .invalidTransform raw => s!"invalid transform: '{raw}'"
  | .malformed detail => s!"malformed payload: {detail}"
  | .parse => "failed to parse payload"

/-- The name of the cause. -/
def kind : EditorError → String
  | .duplicateName _ => "DuplicateName"
  | .invalidName _ => "InvalidName"
  | .invalidPosition _ _ => "InvalidPosition"
  | .multipleNodesSelected _ => "MultipleNodesSelected"
  | .nothingSelected => "NothingSelected"
  | .missingRepository => "MissingRepository"
  | .unknownPackage _ => "UnknownPackage"
  | .unknownClazz _ => "UnknownClazz"
  | .unknownNode _ => "UnknownNode"
  | .unknownPort _ _ _ => "UnknownPort"
  | .notAnyParameter _ _ => "NotAnyParameter"
  | .incompatiblePorts _ _ _ _ _ _ => "IncompatiblePorts"
  | .cycleDetected => "CycleDetected"
  | .invalidTransform _ => "InvalidTransform"
  | .malformed _ => "Malformed"
  | .parse => "Parse"

/-- Whether the cause is one a user fixes by choosing differently. -/
def isUserFacing : EditorError → Bool
  | .duplicateName _ | .invalidName _ | .multipleNodesSelected _ | .nothingSelected
  | .missingRepository => true
  | _ => false

end EditorError

end PipelineEditor
