import PipelineEditor.Snapshot.Basic
import PipelineEditor.Graph.Order
import PipelineEditor.Text.Lower

/-!
Execution configs: the nodes in running order with their packages, parameters, user code and
outgoing edges, the libraries in use and the snapshot, for a non-empty repository.
-/
namespace PipelineEditor

/-- An edge leaving a node, seen from that node. -/
structure OutgoingLink where
  toNode : String
  fromPort : String
  toPort : String
  deriving Inhabited

/-- A node as the runner sees it. -/
structure ExecutionNode where
  nodeId : String
  node : String
  parameters : NodeConfig
  custom : Option CustomCode
  next : List OutgoingLink
  deriving Inhabited

/-- What a runner needs to run the pipeline. -/
structure ExecutionConfig where
  pipelineUid : String
  repository : String
  nodes : List ExecutionNode
  dependencies : List String
  ui : Snapshot
  deriving Inhabited

namespace OutgoingLink

/-- The payload form of a link. -/
def toJson (l : OutgoingLink) : Json :=
  Json.mkObject [("to_node", .string l.toNode), ("from_port", .string l.fromPort),
    ("to_port", .string l.toPort)]

end OutgoingLink

namespace ExecutionNode

/-- The payload form of a node, with the user code written flat into it. -/
def toJson (n : ExecutionNode) : Json :=
  Json.mkObject <|
    [("node_id", .string n.nodeId), ("node", .string n.node),
      ("parameters", ParamStore.configJson n.parameters),
      ("then", .array (n.next.map OutgoingLink.toJson))] ++
    match n.custom with
    | some c => [("function_name", .string c.functionName), ("code", .string c.code)]
    | none => []

end ExecutionNode

namespace ExecutionConfig

/-- The payload form of a config. -/
def toJson (c : ExecutionConfig) : Json :=
  Json.mkObject [("pipeline_uid", .string c.pipelineUid), ("repository", .string c.repository),
    ("nodes", .array (c.nodes.map ExecutionNode.toJson)),
    ("dependencies", .array (c.dependencies.map .string)), ("ui", c.ui.toJson)]

end ExecutionConfig

namespace Editor

/-- The library tag that names no dependency. -/
def customLibraryTag : String := "custom"

/-- The libraries the pipeline depends on: the lower-cased library tags of the packages in use
that carry no user code, without empty tags and `custom`, each once, in ascending order. -/
def dependencies (e : Editor) : List String :=
  let tags := (e.graph.nodeList.filterMap fun n => e.catalog.get? n.package).filterMap fun s =>
    if s.isCustom then none
    else
      let library := toLowerFull s.tags.library
      if library.isEmpty || library == customLibraryTag then none else some library
  (Table.ofList (tags.map fun t => (t, ()))).keys

/-- The nodes in the store's running order, or in its storage order when there is none. -/
def exportOrder (e : Editor) (orders : StoreOrders) : List Node :=
  match orders.runningOrder with
  | .ok order => order.filterMap e.graph.node?
  | .error _ => orders.storage

/-- A node as the runner sees it. -/
def executionNode (e : Editor) (n : Node) : Except EditorError ExecutionNode := do
  let s ← e.catalog.structure? n.package
  pure {
    nodeId := n.name
    node := if s.isCustom then customNodePackage else n.package
    parameters := ((e.params.config? n.name).getD Table.empty).filter fun _ v => !v.isNull
    custom := s.custom
    next := (e.graph.outgoingEdges n.name).map fun edge => ⟨edge.toNode, edge.fromPort, edge.toPort⟩ }

/-- The execution config under a pipeline id, for a non-empty repository. -/
def buildExecutionConfig (e : Editor) (orders : StoreOrders) (repository : Option String) (uid : String) :
    Except EditorError ExecutionConfig := do
  let repository ← match repository with
    | some r => if r.isEmpty then throw .missingRepository else pure r
    | none => throw .missingRepository
  let nodes ← (e.exportOrder orders).mapM e.executionNode
  pure ⟨uid, repository, nodes, e.dependencies, e.snapshot⟩

/-- Pipeline ids are the decimal numbers below this. -/
def pipelineUidRange : Nat := 100000

/-- The pipeline id drawn from a random number. -/
def pipelineUidOf (random : Nat) : String := toString (random % pipelineUidRange)

/-- The execution config under the pipeline id drawn from a random number. -/
def exportExecutionConfig (e : Editor) (orders : StoreOrders) (repository : Option String) (random : Nat) :
    Except EditorError ExecutionConfig :=
  e.buildExecutionConfig orders repository (pipelineUidOf random)

end Editor

end PipelineEditor
