import PipelineEditor.Graph.Store

/-!
The pipeline graph as its store holds it: nodes and port links in a stable store, and the slot of
each node by name.
-/

namespace PipelineEditor

/-- The ports a store edge links; its ends are the store's nodes. -/
@[ext] structure PortLink where
  sourcePort : String
  targetPort : String
  deriving DecidableEq, Repr

/-- Nodes and links in a stable store, with the slot of each node under its name. -/
structure PipelineGraph (S : Type) where
  graph : S
  nodeIds : Table NodeIx

namespace PipelineGraph

variable {S : Type} (G : StableDiGraph S Node PortLink)

/-- The graph without nodes. -/
def new : PipelineGraph S := ⟨G.empty, Table.empty⟩

/-- Adds a node in a slot of its own, refusing a name that is taken. -/
def addNode (pg : PipelineGraph S) (node : Node) : Except EditorError (NodeIx × PipelineGraph S) :=
  if pg.nodeIds.contains node.name then .error (.duplicateName node.name)
  else
    let (index, graph) := G.addNode pg.graph node
    .ok (index, ⟨graph, pg.nodeIds.insert node.name index⟩)

/-- The edge a store edge stands for, its ends named by their nodes. -/
def edgeRecord (pg : PipelineGraph S) (r : EdgeRef PortLink) : Edge :=
  let nameOf := fun index => ((G.nodeWeight pg.graph index).map Node.name).getD ""
  ⟨nameOf r.source, r.weight.sourcePort, nameOf r.target, r.weight.targetPort⟩

/-- The edges at a node: those leaving it, then those entering it from another node. -/
def incidentEdges (pg : PipelineGraph S) (name : String) : List Edge :=
  match pg.nodeIds.get? name with
  | none => []
  | some index =>
    (G.edgesDirected pg.graph index .outgoing).map (pg.edgeRecord G) ++
      ((G.edgesDirected pg.graph index .incoming).filter (·.source != index)).map (pg.edgeRecord G)

/-- Removes a node and every edge at it, giving back both. -/
def removeNode (pg : PipelineGraph S) (name : String) :
    Option ((Node × List Edge) × PipelineGraph S) := do
  let index ← pg.nodeIds.get? name
  let edges := pg.incidentEdges G name
  let (node, graph) ← G.removeNode pg.graph index
  pure ((node, edges), ⟨graph, pg.nodeIds.erase name⟩)

def contains (pg : PipelineGraph S) (name : String) : Bool := pg.nodeIds.contains name

/-- The node of a name. -/
def node (pg : PipelineGraph S) (name : String) : Option Node :=
  (pg.nodeIds.get? name).bind (G.nodeWeight pg.graph)

/-- Changes the node of a name in its slot, if there is one. -/
def updateNode (pg : PipelineGraph S) (name : String) (f : Node → Node) : PipelineGraph S :=
  match pg.nodeIds.get? name with
  | some index => { pg with graph := G.updateNodeWeight pg.graph index f }
  | none => pg

/-- The nodes in slot order. -/
def nodes (pg : PipelineGraph S) : List Node := G.nodeWeights pg.graph

def nodeCount (pg : PipelineGraph S) : Nat := G.nodeCount pg.graph

def edgeCount (pg : PipelineGraph S) : Nat := G.edgeCount pg.graph

/-- The slot of a node, or the unknown name. -/
def indexOf (pg : PipelineGraph S) (name : String) : Except EditorError NodeIx :=
  match pg.nodeIds.get? name with
  | some index => .ok index
  | none => .error (.unknownNode name)

/-- The store edge between the ends of an edge that links its ports. -/
def findEdge (pg : PipelineGraph S) (edge : Edge) : Option EdgeIx := do
  let fromIdx ← pg.nodeIds.get? edge.fromNode
  let toIdx ← pg.nodeIds.get? edge.toNode
  let candidate ← (G.edgesConnecting pg.graph fromIdx toIdx).find? fun c =>
    c.weight.sourcePort == edge.fromPort && c.weight.targetPort == edge.toPort
  pure candidate.id

/-- Adds an edge between present nodes, the source looked up first; `false` when the same ports
are already linked. -/
def addEdge (pg : PipelineGraph S) (edge : Edge) : Except EditorError (Bool × PipelineGraph S) := do
  let fromIdx ← pg.indexOf edge.fromNode
  let toIdx ← pg.indexOf edge.toNode
  if (pg.findEdge G edge).isSome then return (false, pg)
  let (_, graph) := G.addEdge pg.graph fromIdx toIdx ⟨edge.fromPort, edge.toPort⟩
  return (true, { pg with graph })

/-- Removes an edge; `false` when it is not present. -/
def removeEdge (pg : PipelineGraph S) (edge : Edge) : Bool × PipelineGraph S :=
  match pg.findEdge G edge with
  | some index =>
    match G.removeEdge pg.graph index with
    | some (_, graph) => (true, { pg with graph })
    | none => (false, pg)
  | none => (false, pg)

/-- The edges in slot order. -/
def edges (pg : PipelineGraph S) : List Edge := (G.edgeReferences pg.graph).map (pg.edgeRecord G)

/-- The edges leaving a node. -/
def outgoingEdges (pg : PipelineGraph S) (name : String) : List Edge :=
  match pg.nodeIds.get? name with
  | none => []
  | some index => (G.edgesDirected pg.graph index .outgoing).map (pg.edgeRecord G)

/-- The edges attached to a port. -/
def edgesAtPort (pg : PipelineGraph S) (port : PortRef) : List Edge :=
  (pg.incidentEdges G port.node).filter (·.touches port)

def isPortConnected (pg : PipelineGraph S) (port : PortRef) : Bool := !(pg.edgesAtPort G port).isEmpty

/-- The node names in the store's topological order, or the cycle that prevents one. -/
def executionOrder (pg : PipelineGraph S) : Except EditorError (List String) :=
  match G.toposort pg.graph with
  | .ok order => .ok ((order.filterMap (G.nodeWeight pg.graph)).map Node.name)
  | .error _ => .error .cycleDetected

/-- The graph with neither nodes nor edges. -/
def clear (pg : PipelineGraph S) : PipelineGraph S := ⟨G.clear pg.graph, Table.empty⟩

/-- The orders the export reads from the store. -/
def orders (pg : PipelineGraph S) : StoreOrders := ⟨pg.executionOrder G, pg.nodes G⟩

end PipelineGraph

end PipelineEditor
