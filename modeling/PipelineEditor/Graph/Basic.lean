import PipelineEditor.Graph.Node
import PipelineEditor.Graph.Edge
import PipelineEditor.Error
import PipelineEditor.Table

/-!
The pipeline graph: nodes by name, and edges between ports of them.

Node names are unique. An edge is present at most once; parallel edges between two nodes on
different ports, and an edge from a node to itself, are allowed at this level (the editor refuses
the latter). Removing a node removes every edge at it.
-/

namespace PipelineEditor

/-- Nodes by name and the edges between them. -/
structure Graph where
  nodes : Table Node
  edges : List Edge
  deriving Inhabited

namespace Graph

/-- The graph without nodes. -/
def empty : Graph := ⟨Table.empty, []⟩

/-- The node of a name. -/
def node? (g : Graph) (name : String) : Option Node := g.nodes.get? name

/-- Whether a node of that name is present. -/
def contains (g : Graph) (name : String) : Bool := g.nodes.contains name

/-- The nodes, by name. -/
def nodeList (g : Graph) : List Node := g.nodes.values

/-- The number of nodes. -/
def nodeCount (g : Graph) : Nat := g.nodes.size

/-- The number of edges. -/
def edgeCount (g : Graph) : Nat := g.edges.length

/-- Adds a node, refusing a name that is taken. -/
def addNode (g : Graph) (n : Node) : Except EditorError Graph :=
  if g.contains n.name then .error (.duplicateName n.name)
  else .ok { g with nodes := g.nodes.insert n.name n }

/-- Replaces the stored record of a node, if present. -/
def updateNode (g : Graph) (name : String) (f : Node → Node) : Graph :=
  { g with nodes := g.nodes.modify name f }

/-- The edges at a node, each once: those leaving it and those entering it. -/
def incidentEdges (g : Graph) (name : String) : List Edge :=
  g.edges.filter fun e => e.fromNode == name || e.toNode == name

/-- The edges leaving a node. -/
def outgoingEdges (g : Graph) (name : String) : List Edge :=
  g.edges.filter fun e => e.fromNode == name

/-- The edges attached to a port. -/
def edgesAtPort (g : Graph) (p : PortRef) : List Edge :=
  (g.incidentEdges p.node).filter fun e => e.touches p

/-- Whether any edge is attached to a port. -/
def isPortConnected (g : Graph) (p : PortRef) : Bool := !(g.edgesAtPort p).isEmpty

/-- Removes a node and its edges, giving back the node and the edges removed. -/
def removeNode (g : Graph) (name : String) : Option (Node × List Edge × Graph) :=
  (g.node? name).map fun n =>
    (n, g.incidentEdges name,
      ⟨g.nodes.erase name, g.edges.filter fun e => !(e.fromNode == name || e.toNode == name)⟩)

/-- Adds an edge between present nodes; `false` when the same edge is already present. The
source node is looked up first. -/
def addEdge (g : Graph) (e : Edge) : Except EditorError (Bool × Graph) :=
  if !g.contains e.fromNode then .error (.unknownNode e.fromNode)
  else if !g.contains e.toNode then .error (.unknownNode e.toNode)
  else if g.edges.contains e then .ok (false, g)
  else .ok (true, { g with edges := g.edges ++ [e] })

/-- Removes an edge; `false` when it is not present. -/
def removeEdge (g : Graph) (e : Edge) : Bool × Graph :=
  if g.edges.contains e then (true, { g with edges := g.edges.erase e }) else (false, g)

/-- The graph with neither nodes nor edges. -/
def clear (_ : Graph) : Graph := empty

@[simp] theorem contains_empty (name : String) : empty.contains name = false := rfl

@[simp] theorem node?_def (g : Graph) (name : String) : g.node? name = g.nodes.get? name := rfl

@[simp] theorem contains_eq_isSome (g : Graph) (name : String) :
    g.contains name = (g.nodes.get? name).isSome := rfl

@[simp] theorem node?_empty (name : String) : empty.node? name = none := rfl

theorem mem_nodeList_of_node? {g : Graph} {k : String} {n : Node} (found : g.node? k = some n) :
    n ∈ g.nodeList :=
  List.mem_map.mpr ⟨(k, n), Table.mem_entries_of_get? found, rfl⟩

/-- In a graph whose nodes sit under their own names, a node is listed exactly when it is the node
of its name. -/
theorem mem_nodeList_iff {g : Graph} (names : ∀ {k n}, g.node? k = some n → n.name = k) {n : Node} :
    n ∈ g.nodeList ↔ g.node? n.name = some n := by
  constructor
  · intro listed
    obtain ⟨⟨k, n'⟩, entry, rfl⟩ := List.mem_map.mp listed
    have found : g.node? k = some n' := Table.get?_of_mem_entries (Table.keys_nodup _) entry
    rw [names found]
    exact found
  · exact mem_nodeList_of_node?

theorem nodeList_names {g : Graph} (names : ∀ {k n}, g.node? k = some n → n.name = k) :
    g.nodeList.map Node.name = g.nodes.keys := by
  unfold nodeList Table.values Table.keys
  rw [List.map_map]
  apply List.map_congr_left
  rintro ⟨k, n⟩ entry
  exact names (Table.get?_of_mem_entries (Table.keys_nodup _) entry)

theorem addNode_eq_ok {g g' : Graph} {n : Node} :
    g.addNode n = .ok g' ↔ g.contains n.name = false ∧ g' = { g with nodes := g.nodes.insert n.name n } := by
  unfold addNode
  cases g.contains n.name with
  | false =>
    simp only [Bool.false_eq_true, if_false, Except.ok.injEq, true_and]
    exact eq_comm
  | true => simp

theorem removeNode_eq_some {g g' : Graph} {name : String} {n : Node} {removed : List Edge} :
    g.removeNode name = some (n, removed, g') ↔
      g.node? name = some n ∧ removed = g.incidentEdges name ∧
        g' = ⟨g.nodes.erase name, g.edges.filter fun e => !(e.fromNode == name || e.toNode == name)⟩ := by
  unfold removeNode
  cases g.node? name with
  | none => simp
  | some m =>
    simp only [Option.map_some, Option.some.injEq, Prod.mk.injEq]
    constructor
    · rintro ⟨rfl, rfl, rfl⟩
      exact ⟨rfl, rfl, rfl⟩
    · rintro ⟨rfl, rfl, rfl⟩
      exact ⟨rfl, rfl, rfl⟩

/-- Removing an edge erases it from the edge list; an absent edge leaves the list as it is. -/
@[simp] theorem removeEdge_snd (g : Graph) (e : Edge) :
    (g.removeEdge e).2 = { g with edges := g.edges.erase e } := by
  unfold removeEdge
  split
  · rfl
  · rename_i h
    rw [List.erase_of_not_mem (by simpa using h)]

theorem mem_edgesAtPort {g : Graph} {p : PortRef} {e : Edge} :
    e ∈ g.edgesAtPort p ↔ e ∈ g.edges ∧ e.touches p = true := by
  simp only [edgesAtPort, incidentEdges, List.mem_filter, and_assoc, and_congr_right_iff]
  intro _
  unfold Edge.touches
  cases p.direction <;> simp +contextual

/-- The edges at a port are the edges touching it, in their order. -/
theorem edgesAtPort_eq_filter (g : Graph) (p : PortRef) :
    g.edgesAtPort p = g.edges.filter (·.touches p) := by
  unfold edgesAtPort incidentEdges
  rw [List.filter_filter]
  congr 1
  funext b
  -- an edge touching a port has an end at the port's node
  cases hdir : p.direction <;> simp only [Edge.touches, hdir] <;>
    cases b.fromNode == p.node <;> cases b.toNode == p.node <;> simp

theorem addEdge_eq_ok {g g' : Graph} {e : Edge} {added : Bool} :
    g.addEdge e = .ok (added, g') ↔ g.contains e.fromNode = true ∧ g.contains e.toNode = true ∧
      (added, g') = if e ∈ g.edges then (false, g) else (true, { g with edges := g.edges ++ [e] }) := by
  unfold addEdge
  cases g.contains e.fromNode <;> cases g.contains e.toNode <;>
    by_cases he : e ∈ g.edges <;> simp [he, @eq_comm _ (added, g')]

/-- Removing edges one by one erases each from the edge list in turn. -/
theorem foldl_removeEdge (l : List Edge) (g : Graph) :
    l.foldl (fun g old => (g.removeEdge old).2) g = { g with edges := l.foldl List.erase g.edges } := by
  induction l generalizing g with
  | nil => rfl
  | cons b rest ih =>
    rw [List.foldl_cons, ih]
    simp

end Graph

end PipelineEditor
