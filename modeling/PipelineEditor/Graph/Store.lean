import PipelineEditor.Graph.Order

/-!
Directed graph stores with stable indices: the operations the pipeline graph calls, and the laws
it relies on.
-/

namespace PipelineEditor

/-- The index of a node slot in a store. -/
structure NodeIx where
  index : Nat
  deriving DecidableEq, Repr, Inhabited

/-- The index of an edge slot in a store. -/
structure EdgeIx where
  index : Nat
  deriving DecidableEq, Repr, Inhabited

/-- An edge of a store: its slot, its source and target slots and its weight. -/
structure EdgeRef (E : Type) where
  id : EdgeIx
  source : NodeIx
  target : NodeIx
  weight : E
  deriving DecidableEq

/-- The end of an edge a node is at: the edges leaving it or those entering it. -/
inductive EdgeDirection where
  | outgoing
  | incoming
  deriving DecidableEq

/-- The node an edge leaves, or the node it enters. -/
def EdgeRef.endpoint {E : Type} (r : EdgeRef E) : EdgeDirection → NodeIx
  | .outgoing => r.source
  | .incoming => r.target

/-- The operations of a directed graph store whose slots keep their indices while other nodes
and edges come and go, and whose vacant slots may be taken again. -/
structure StableDiGraph (S N E : Type) where
  empty : S
  addNode : S → N → NodeIx × S
  removeNode : S → NodeIx → Option (N × S)
  nodeWeight : S → NodeIx → Option N
  updateNodeWeight : S → NodeIx → (N → N) → S
  nodeIndices : S → List NodeIx
  addEdge : S → NodeIx → NodeIx → E → EdgeIx × S
  removeEdge : S → EdgeIx → Option (E × S)
  edgeReferences : S → List (EdgeRef E)
  edgesDirected : S → NodeIx → EdgeDirection → List (EdgeRef E)
  edgesConnecting : S → NodeIx → NodeIx → List (EdgeRef E)
  toposort : S → Except NodeIx (List NodeIx)
  clear : S → S

namespace StableDiGraph

variable {S N E : Type} (G : StableDiGraph S N E)

/-- The node weights in slot order. -/
def nodeWeights (s : S) : List N := (G.nodeIndices s).filterMap (G.nodeWeight s)

def nodeCount (s : S) : Nat := (G.nodeIndices s).length

def edgeCount (s : S) : Nat := (G.edgeReferences s).length

/-- The source and target slot of each edge. -/
def links (s : S) : List (NodeIx × NodeIx) := (G.edgeReferences s).map fun r => (r.source, r.target)

/-- Edges of the store lead from a node back to itself. -/
def HasCycle (s : S) : Prop := Kahn.Cyclic (G.links s)

/-- An order of the live slots, each once, in which every edge runs forward. -/
structure IsTopological (s : S) (order : List NodeIx) : Prop where
  perm : order.Perm (G.nodeIndices s)
  forward : ∀ r ∈ G.edgeReferences s, [r.source, r.target].Sublist order

/-- The laws of a stable store. A new node takes a vacant slot, and no operation moves a node or
an edge that it keeps to another slot; each edge is listed once, between live nodes; the
topological sort answers exactly when no edges close a cycle. -/
structure Lawful : Prop where
  nodeWeight_empty : ∀ i, G.nodeWeight G.empty i = none
  edgeReferences_empty : G.edgeReferences G.empty = []
  mem_nodeIndices : ∀ s i, i ∈ G.nodeIndices s ↔ (G.nodeWeight s i).isSome
  nodeIndices_nodup : ∀ s, (G.nodeIndices s).Nodup
  addNode_vacant : ∀ {s w i s'}, G.addNode s w = (i, s') → G.nodeWeight s i = none
  nodeWeight_addNode : ∀ {s w i s'}, G.addNode s w = (i, s') →
    ∀ j, G.nodeWeight s' j = if j = i then some w else G.nodeWeight s j
  edgeReferences_addNode : ∀ {s w i s'}, G.addNode s w = (i, s') →
    ∀ r, r ∈ G.edgeReferences s' ↔ r ∈ G.edgeReferences s
  removeNode_eq_none : ∀ {s i}, G.removeNode s i = none ↔ G.nodeWeight s i = none
  removeNode_weight : ∀ {s i w s'}, G.removeNode s i = some (w, s') → G.nodeWeight s i = some w
  nodeWeight_removeNode : ∀ {s i w s'}, G.removeNode s i = some (w, s') →
    ∀ j, G.nodeWeight s' j = if j = i then none else G.nodeWeight s j
  edgeReferences_removeNode : ∀ {s i w s'}, G.removeNode s i = some (w, s') →
    ∀ r, r ∈ G.edgeReferences s' ↔ r ∈ G.edgeReferences s ∧ r.source ≠ i ∧ r.target ≠ i
  nodeWeight_update : ∀ s i f j,
    G.nodeWeight (G.updateNodeWeight s i f) j = if j = i then (G.nodeWeight s i).map f else G.nodeWeight s j
  edgeReferences_update : ∀ s i f r,
    r ∈ G.edgeReferences (G.updateNodeWeight s i f) ↔ r ∈ G.edgeReferences s
  edgeIds_nodup : ∀ s, ((G.edgeReferences s).map (·.id)).Nodup
  ends_live : ∀ s, ∀ r ∈ G.edgeReferences s,
    (G.nodeWeight s r.source).isSome ∧ (G.nodeWeight s r.target).isSome
  edgeReferences_addEdge : ∀ {s a b w j s'}, G.addEdge s a b w = (j, s') →
    (G.nodeWeight s a).isSome → (G.nodeWeight s b).isSome →
    ∀ r, r ∈ G.edgeReferences s' ↔ r ∈ G.edgeReferences s ∨ r = ⟨j, a, b, w⟩
  nodeWeight_addEdge : ∀ {s a b w j s'}, G.addEdge s a b w = (j, s') →
    (G.nodeWeight s a).isSome → (G.nodeWeight s b).isSome → ∀ k, G.nodeWeight s' k = G.nodeWeight s k
  removeEdge_eq_none : ∀ {s j}, G.removeEdge s j = none ↔ ∀ r ∈ G.edgeReferences s, r.id ≠ j
  edgeReferences_removeEdge : ∀ {s j w s'}, G.removeEdge s j = some (w, s') →
    ∀ r, r ∈ G.edgeReferences s' ↔ r ∈ G.edgeReferences s ∧ r.id ≠ j
  nodeWeight_removeEdge : ∀ {s j w s'}, G.removeEdge s j = some (w, s') →
    ∀ k, G.nodeWeight s' k = G.nodeWeight s k
  mem_edgesDirected : ∀ s i d r, r ∈ G.edgesDirected s i d ↔ r ∈ G.edgeReferences s ∧ r.endpoint d = i
  edgesDirected_nodup : ∀ s i d, (G.edgesDirected s i d).Nodup
  mem_edgesConnecting : ∀ s a b r,
    r ∈ G.edgesConnecting s a b ↔ r ∈ G.edgeReferences s ∧ r.source = a ∧ r.target = b
  nodeWeight_clear : ∀ s i, G.nodeWeight (G.clear s) i = none
  edgeReferences_clear : ∀ s, G.edgeReferences (G.clear s) = []
  toposort_acyclic : ∀ s, ¬ G.HasCycle s → ∃ order, G.toposort s = .ok order ∧ G.IsTopological s order
  toposort_cyclic : ∀ s, G.HasCycle s → ∃ i, G.toposort s = .error i

end StableDiGraph

end PipelineEditor
