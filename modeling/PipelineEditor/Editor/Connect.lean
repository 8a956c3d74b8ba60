import PipelineEditor.Editor.Basic

/-!
Joining and separating ports.

An edge may join an output port to an input port of another node when their types fit. An input
port takes at most one edge: connecting a new edge into it removes the others. Connecting an edge
that is already present changes nothing and succeeds.
-/

namespace PipelineEditor

/-- The graph without the edges into the input port of `edge`, other than `edge` itself. -/
def Graph.evictInto (g : Graph) (edge : Edge) : Graph :=
  ((g.edgesAtPort edge.target).filter (· != edge)).foldl (fun g old => (g.removeEdge old).2) g

theorem Graph.evictInto_eq (g : Graph) (edge : Edge) :
    g.evictInto edge =
      { g with edges := ((g.edgesAtPort edge.target).filter (· != edge)).foldl List.erase g.edges } :=
  Graph.foldl_removeEdge _ _

@[simp] theorem Graph.evictInto_nodes (g : Graph) (edge : Edge) : (g.evictInto edge).nodes = g.nodes := by
  rw [Graph.evictInto_eq]

@[simp] theorem Graph.contains_evictInto (g : Graph) (edge : Edge) (name : String) :
    (g.evictInto edge).contains name = g.contains name := by
  simp [Graph.contains]

namespace Editor

/-- The declared type of a port: the node must exist, its package must be known, and the port
must be declared on that side. -/
def portType (e : Editor) (p : PortRef) : Except EditorError PortType := do
  let n ← e.existingNode p.node
  let s ← e.catalog.structure? n.package
  match s.portType? p.port p.direction with
  | some t => pure t
  | none => throw (.unknownPort p.node p.port p.direction)

/-- Joins an output port to an input port of another node. The source port is checked first,
then the target port, then that the nodes differ and the types fit; other edges into the target
port are removed before the edge is added. -/
def connect (fromNode fromPort toNode toPort : String) : Edit Edge := do
  let e ← get
  let edge : Edge := ⟨fromNode, fromPort, toNode, toPort⟩
  let fromType ← liftExcept (e.portType edge.source)
  let toType ← liftExcept (e.portType edge.target)
  if fromNode == toNode || !fromType.compatible toType then
    throw (.incompatiblePorts fromNode fromPort fromType.tag toNode toPort toType.tag)
  let graph := e.graph.evictInto edge
  set { e with graph }
  let (_, graph) ← liftExcept (graph.addEdge edge)
  set { e with graph }
  pure edge

/-- Removes an edge; `false` when it was not present. -/
def disconnect (edge : Edge) : Edit Bool :=
  modifyGet fun e =>
    let (removed, graph) := e.graph.removeEdge edge
    (removed, { e with graph })

/-- Removes every edge at a port, giving them back. -/
def disconnectPort (p : PortRef) : Edit (List Edge) :=
  modifyGet fun e =>
    let edges := e.graph.edgesAtPort p
    (edges, { e with graph := edges.foldl (fun g old => (g.removeEdge old).2) e.graph })

/-- Whether any edge is attached to a port. -/
def isPortConnected (e : Editor) (p : PortRef) : Bool := e.graph.isPortConnected p

/-- The ports of other nodes, on the other side, whose types fit the type of a port. Nodes of
unknown packages are passed over. -/
def compatiblePorts (e : Editor) (p : PortRef) : Except EditorError (List PortRef) := do
  let t ← e.portType p
  let wanted := p.direction.opposite
  pure <| e.graph.nodeList.filter (·.name != p.node) |>.flatMap fun n =>
    match e.catalog.get? n.package with
    | none => []
    | some s => (s.ports wanted).entries.filterMap fun (port, candidate) =>
      if t.compatible candidate then some ⟨n.name, port, wanted⟩ else none

theorem portType_eq_ok {e : Editor} {p : PortRef} {t : PortType} :
    e.portType p = .ok t ↔ ∃ n s, e.node? p.node = some n ∧ e.catalog.get? n.package = some s ∧
      s.portType? p.port p.direction = some t := by
  unfold portType
  cases hn : e.existingNode p.node with
  | error err =>
    have : e.graph.nodes.get? p.node = none := by
      unfold existingNode at hn; split at hn <;> simp_all
    simp [bind, Except.bind, this]
  | ok n =>
    have hn' := existingNode_eq_ok.mp hn
    rw [node?_def] at hn'
    cases hs : e.catalog.structure? n.package with
    | error err =>
      simp [bind, Except.bind, hn', hs, Catalog.structure?_eq_error hs]
    | ok s =>
      have hs' := Catalog.structure?_eq_ok.mp hs
      cases ht : s.portType? p.port p.direction <;>
        simp [bind, Except.bind, hn', hs, hs', ht, pure, Except.pure, throw, throwThe,
          MonadExceptOf.throw]

/-- A port whose type is known belongs to a present node. -/
theorem contains_of_portType_eq_ok {e : Editor} {p : PortRef} {t : PortType}
    (h : e.portType p = .ok t) : e.graph.contains p.node = true := by
  obtain ⟨n, _, hn, -⟩ := portType_eq_ok.mp h
  have hn' : e.graph.nodes.get? p.node = some n := hn
  simp [hn']

/-- A refused connection changes nothing: the ports are checked before any edge is removed, and
the edge's nodes, being present, make the final addition succeed. -/
theorem connect_run_eq_error {e e' : Editor} {fromNode fromPort toNode toPort : String}
    {err : EditorError} (h : (connect fromNode fromPort toNode toPort).run e = .error err e') :
    e' = e := by
  simp only [connect, EStateM.run_bind, EStateM.run_get, Edit.run_liftExcept] at h
  rcases ha : e.portType ⟨fromNode, fromPort, .output⟩ with _ | a <;> simp only [Edge.source, ha] at h
  · cases h; rfl
  rcases hb : e.portType ⟨toNode, toPort, .input⟩ with _ | b <;> simp only [Edge.target, hb] at h
  · cases h; rfl
  split at h
  · simp only [EStateM.run_bind, Edit.run_throw] at h
    cases h; rfl
  · -- both nodes are present, so adding the edge to the evicted graph cannot be refused
    have hf := contains_of_portType_eq_ok ha
    have ht := contains_of_portType_eq_ok hb
    let edge : Edge := ⟨fromNode, fromPort, toNode, toPort⟩
    have hr : (e.graph.evictInto edge).addEdge edge = .ok _ :=
      Graph.addEdge_eq_ok.mpr ⟨by simpa using hf, by simpa using ht, rfl⟩
    simp only [EStateM.run_bind, EStateM.run_set, Edit.run_liftExcept, EStateM.run_pure] at h
    rw [hr] at h
    cases h

/-- A connection that succeeds joins two ports of different nodes whose types fit: the other edges
into the target port are gone, and the edge is present once. -/
theorem connect_run_eq_ok {e e' : Editor} {fromNode fromPort toNode toPort : String} {edge : Edge}
    (h : (connect fromNode fromPort toNode toPort).run e = .ok edge e') :
    edge = ⟨fromNode, fromPort, toNode, toPort⟩ ∧ fromNode ≠ toNode ∧
      (∃ a b, e.portType edge.source = .ok a ∧ e.portType edge.target = .ok b ∧
        a.compatible b = true) ∧
      e' = { e with graph :=
        if edge ∈ (e.graph.evictInto edge).edges then e.graph.evictInto edge
        else { e.graph.evictInto edge with edges := (e.graph.evictInto edge).edges ++ [edge] } } := by
  simp only [connect, EStateM.run_bind, EStateM.run_get, Edit.run_liftExcept] at h
  rcases ha : e.portType ⟨fromNode, fromPort, .output⟩ with _ | a <;>
    simp only [Edge.source, ha, reduceCtorEq] at h
  rcases hb : e.portType ⟨toNode, toPort, .input⟩ with _ | b <;>
    simp only [Edge.target, hb, reduceCtorEq] at h
  split at h
  · simp only [EStateM.run_bind, Edit.run_throw, reduceCtorEq] at h
  · rename_i hcheck
    have hne : fromNode ≠ toNode := fun heq => hcheck (by simp [heq])
    have hcompat : a.compatible b = true := by
      cases hc : a.compatible b <;> simp_all
    have hf := contains_of_portType_eq_ok ha
    have ht := contains_of_portType_eq_ok hb
    let edge' : Edge := ⟨fromNode, fromPort, toNode, toPort⟩
    have hr : (e.graph.evictInto edge').addEdge edge' =
        .ok (if edge' ∈ (e.graph.evictInto edge').edges then (false, e.graph.evictInto edge')
          else (true, { e.graph.evictInto edge' with edges := (e.graph.evictInto edge').edges ++ [edge'] })) :=
      Graph.addEdge_eq_ok.mpr ⟨by simpa using hf, by simpa using ht, rfl⟩
    simp only [EStateM.run_bind, EStateM.run_set, Edit.run_liftExcept, EStateM.run_pure] at h
    rw [hr] at h
    simp only [EStateM.Result.ok.injEq] at h
    obtain ⟨rfl, rfl⟩ := h
    refine ⟨rfl, hne, ⟨a, b, ha, hb, hcompat⟩, ?_⟩
    split <;> rfl

theorem disconnect_after (edge : Edge) (e : Editor) :
    (disconnect edge).after e = { e with graph := { e.graph with edges := e.graph.edges.erase edge } } := by
  simp [disconnect, Edit.after]

theorem disconnectPort_after (p : PortRef) (e : Editor) :
    (disconnectPort p).after e =
      { e with graph := { e.graph with edges := (e.graph.edgesAtPort p).foldl List.erase e.graph.edges } } := by
  simp only [disconnectPort, Edit.after, EStateM.run_modifyGet]
  rw [Graph.foldl_removeEdge]

end Editor

end PipelineEditor
