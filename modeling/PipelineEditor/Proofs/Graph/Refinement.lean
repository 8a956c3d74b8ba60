import Mathlib.Data.Finmap
import PipelineEditor.Graph.Basic

/-! The stored graph stands for a graph seen without its storage, along every run of operations. -/

section OptionRel

variable {α β γ δ : Type} {r : α → β → Prop}

theorem Option.Rel.map {s : γ → δ → Prop} {x : Option α} {y : Option β} (h : Option.Rel r x y)
    {f : α → γ} {f' : β → δ} (maps : ∀ {a b}, r a b → s (f a) (f' b)) :
    Option.Rel s (x.map f) (y.map f') := by
  cases h with
  | some related => exact .some (maps related)
  | none => exact .none

/-- Related options give related results, when the defaults standing for `none` are related. -/
theorem Option.Rel.getD {x : Option α} {y : Option β} (h : Option.Rel r x y) {d : α} {d' : β}
    (defaults : r d d') : r (x.getD d) (y.getD d') := by
  cases h with
  | some related => exact related
  | none => exact defaults

end OptionRel

namespace PipelineEditor

/-- A change to a stored node that keeps its name, as moving a node does. -/
structure NodeEdit where
  apply : Node → Node
  apply_name : ∀ n, (apply n).name = n.name

/-- Whether an edge has an end at a node. -/
def Edge.HasEndAt (e : Edge) (name : String) : Prop := e.fromNode = name ∨ e.toNode = name

instance (e : Edge) (name : String) : Decidable (e.HasEndAt name) :=
  inferInstanceAs (Decidable (_ ∨ _))

/-- A graph as a finite map from names to nodes, each under its own name, and a finite set of
edges between present nodes. -/
structure AbsGraph where
  nodes : Finmap fun _ : String => Node
  edges : Finset Edge
  lookup_name : ∀ {name n}, nodes.lookup name = some n → n.name = name
  ends_mem : ∀ e ∈ edges, e.fromNode ∈ nodes ∧ e.toNode ∈ nodes

namespace AbsGraph

/-- The graph without nodes. -/
def empty : AbsGraph where
  nodes := ∅
  edges := ∅
  lookup_name h := by simp at h
  ends_mem _ h := by simp at h

/-- The graph with a node stored under its name, in place of the node stored there before. -/
def insertNode (a : AbsGraph) (n : Node) : AbsGraph where
  nodes := a.nodes.insert n.name n
  edges := a.edges
  lookup_name {name m} h := by
    by_cases atName : name = n.name
    · subst atName
      rw [Finmap.lookup_insert, Option.some.injEq] at h
      rw [← h]
    · rw [Finmap.lookup_insert_of_ne _ atName] at h
      exact a.lookup_name h
  ends_mem e stored := by
    obtain ⟨fromLive, toLive⟩ := a.ends_mem e stored
    exact ⟨Finmap.mem_insert.mpr (.inr fromLive), Finmap.mem_insert.mpr (.inr toLive)⟩

/-- The graph without a node and without the edges at it. -/
def eraseNode (a : AbsGraph) (name : String) : AbsGraph where
  nodes := a.nodes.erase name
  edges := a.edges.filter fun e => ¬ e.HasEndAt name
  lookup_name {k m} h := by
    by_cases atName : k = name
    · subst atName
      rw [Finmap.lookup_erase] at h
      cases h
    · rw [Finmap.lookup_erase_ne atName] at h
      exact a.lookup_name h
  ends_mem e kept := by
    obtain ⟨stored, noEnd⟩ := Finset.mem_filter.mp kept
    obtain ⟨fromLive, toLive⟩ := a.ends_mem e stored
    rw [Edge.HasEndAt, not_or] at noEnd
    exact ⟨Finmap.mem_erase.mpr ⟨noEnd.1, fromLive⟩, Finmap.mem_erase.mpr ⟨noEnd.2, toLive⟩⟩

/-- The graph with one more edge between present nodes. -/
def insertEdge (a : AbsGraph) (e : Edge) (fromLive : e.fromNode ∈ a.nodes) (toLive : e.toNode ∈ a.nodes) :
    AbsGraph where
  nodes := a.nodes
  edges := insert e a.edges
  lookup_name := a.lookup_name
  ends_mem x listed := by
    rcases Finset.mem_insert.mp listed with rfl | listed
    · exact ⟨fromLive, toLive⟩
    · exact a.ends_mem x listed

/-- The graph without an edge. -/
def eraseEdge (a : AbsGraph) (e : Edge) : AbsGraph where
  nodes := a.nodes
  edges := a.edges.erase e
  lookup_name := a.lookup_name
  ends_mem x listed := a.ends_mem x (Finset.mem_of_mem_erase listed)

/-- The edges with an end at a node. -/
def incident (a : AbsGraph) (name : String) : Finset Edge := a.edges.filter (·.HasEndAt name)

/-- The edges leaving a node. -/
def outgoing (a : AbsGraph) (name : String) : Finset Edge := a.edges.filter (·.fromNode = name)

/-- The edges attached to a port. -/
def atPort (a : AbsGraph) (p : PortRef) : Finset Edge := a.edges.filter (·.touches p)

/-- Adds a node under its name, refusing a name that is present. -/
def addNode (a : AbsGraph) (n : Node) : Except EditorError AbsGraph :=
  if n.name ∈ a.nodes then .error (.duplicateName n.name) else .ok (a.insertNode n)

/-- Removes a node and the edges at it, giving back the node and those edges. -/
def removeNode (a : AbsGraph) (name : String) : Option (Node × Finset Edge × AbsGraph) :=
  (a.nodes.lookup name).map fun n => (n, a.incident name, a.eraseNode name)

/-- Adds an edge between present nodes, the source checked first; `false` when it is there. -/
def addEdge (a : AbsGraph) (e : Edge) : Except EditorError (Bool × AbsGraph) :=
  if fromLive : e.fromNode ∈ a.nodes then
    if toLive : e.toNode ∈ a.nodes then
      if e ∈ a.edges then .ok (false, a) else .ok (true, a.insertEdge e fromLive toLive)
    else .error (.unknownNode e.toNode)
  else .error (.unknownNode e.fromNode)

/-- Removes an edge; `false` when it is not there. -/
def removeEdge (a : AbsGraph) (e : Edge) : Bool × AbsGraph := (decide (e ∈ a.edges), a.eraseEdge e)

/-- Applies an edit to the node of a name, if there is one. -/
def updateNode (a : AbsGraph) (name : String) (f : NodeEdit) : AbsGraph :=
  match a.nodes.lookup name with
  | some n => a.insertNode (f.apply n)
  | none => a

theorem lookup_updateNode (a : AbsGraph) (name : String) (f : NodeEdit) (k : String) :
    (a.updateNode name f).nodes.lookup k =
      if k = name then (a.nodes.lookup k).map f.apply else a.nodes.lookup k := by
  unfold updateNode
  cases found : a.nodes.lookup name with
  | none =>
    by_cases atName : k = name
    · rw [if_pos atName, atName, found]
      rfl
    · rw [if_neg atName]
  | some n =>
    have named : (f.apply n).name = name := (f.apply_name n).trans (a.lookup_name found)
    simp only [insertNode]
    rw [named]
    by_cases atName : k = name
    · rw [if_pos atName, atName, found, Finmap.lookup_insert]
      rfl
    · rw [if_neg atName, Finmap.lookup_insert_of_ne _ atName]

theorem updateNode_edges (a : AbsGraph) (name : String) (f : NodeEdit) :
    (a.updateNode name f).edges = a.edges := by
  unfold updateNode
  cases a.nodes.lookup name <;> rfl

end AbsGraph

/-- The operations that change a graph. -/
inductive GraphOp where
  | addNode (n : Node)
  | removeNode (name : String)
  | addEdge (e : Edge)
  | removeEdge (e : Edge)
  | clear
  | updateNode (name : String) (f : NodeEdit)

/-- The abstract graph after an operation; a refused operation leaves it as it was. -/
def AbsGraph.applyOp (a : AbsGraph) : GraphOp → AbsGraph
  | .addNode n => (a.addNode n).toOption.getD a
  | .removeNode name => ((a.removeNode name).map (·.2.2)).getD a
  | .addEdge e => ((a.addEdge e).toOption.map (·.2)).getD a
  | .removeEdge e => (a.removeEdge e).2
  | .clear => empty
  | .updateNode name f => a.updateNode name f

/-- The abstract graph after a sequence of operations. -/
def AbsGraph.run (a : AbsGraph) (ops : List GraphOp) : AbsGraph := ops.foldl applyOp a

/-- The stored graph after an operation; a refused operation leaves it as it was. -/
def Graph.applyOp (g : Graph) : GraphOp → Graph
  | .addNode n => (g.addNode n).toOption.getD g
  | .removeNode name => ((g.removeNode name).map (·.2.2)).getD g
  | .addEdge e => ((g.addEdge e).toOption.map (·.2)).getD g
  | .removeEdge e => (g.removeEdge e).2
  | .clear => g.clear
  | .updateNode name f => g.updateNode name f.apply

/-- The stored graph after a sequence of operations. -/
def Graph.run (g : Graph) (ops : List GraphOp) : Graph := ops.foldl applyOp g

/-- A list holds exactly the edges of a finite set, each once. -/
def ListsOnce (l : List Edge) (s : Finset Edge) : Prop := l.Nodup ∧ ∀ e, e ∈ l ↔ e ∈ s

/-- Two outcomes agree: the same refusal, or results related by `r`. -/
inductive ExceptRel {ε α β : Type} (r : α → β → Prop) : Except ε α → Except ε β → Prop
  | error (x : ε) : ExceptRel r (.error x) (.error x)
  | ok {x : α} {y : β} : r x y → ExceptRel r (.ok x) (.ok y)

theorem ExceptRel.toOption {ε α β : Type} {r : α → β → Prop} {x : Except ε α} {y : Except ε β}
    (h : ExceptRel r x y) : Option.Rel r x.toOption y.toOption := by
  cases h with
  | error => exact .none
  | ok related => exact .some related

theorem ListsOnce.filter {l : List Edge} {s : Finset Edge} (h : ListsOnce l s) (p : Edge → Bool)
    (q : Edge → Prop) [DecidablePred q] (agree : ∀ e, p e = true ↔ q e) :
    ListsOnce (l.filter p) (s.filter q) :=
  ⟨h.1.filter p, fun e => by rw [List.mem_filter, Finset.mem_filter, h.2 e, agree]⟩

/-- Two lists that hold the same edges each once are orderings of each other. -/
theorem ListsOnce.perm {l l' : List Edge} {s : Finset Edge} (h : ListsOnce l s) (h' : ListsOnce l' s) :
    l.Perm l' :=
  (List.perm_ext_iff_of_nodup h.1 h'.1).mpr fun e => (h.2 e).trans (h'.2 e).symm

namespace Graph

/-- A stored graph stands for an abstract one: the same node under each name, and the same edges,
each stored once. -/
structure Represents (g : Graph) (a : AbsGraph) : Prop where
  node? : ∀ name, g.node? name = a.nodes.lookup name
  edges : ListsOnce g.edges a.edges

variable {g : Graph} {a : AbsGraph}

theorem represents_empty : empty.Represents AbsGraph.empty where
  node? _ := rfl
  edges := ⟨List.nodup_nil, fun _ => by simp [empty, AbsGraph.empty]⟩

/-- Every stored node sits under its own name. -/
theorem Represents.name_eq (h : g.Represents a) {name : String} {n : Node}
    (found : g.node? name = some n) : n.name = name :=
  a.lookup_name (h.node? name ▸ found)

theorem Represents.contains_iff (h : g.Represents a) (name : String) :
    g.contains name = true ↔ name ∈ a.nodes := by
  have containsDef : g.contains name = (g.node? name).isSome := rfl
  rw [containsDef, h.node? name, Finmap.lookup_isSome]

theorem Represents.contains_eq_false (h : g.Represents a) {name : String} (absent : name ∉ a.nodes) :
    g.contains name = false := by
  rw [← Bool.not_eq_true, h.contains_iff]
  exact absent

theorem Represents.insertNode (h : g.Represents a) (n : Node) :
    Represents { g with nodes := g.nodes.insert n.name n } (a.insertNode n) where
  node? k := by
    simp only [node?_def, Table.get?_insert, AbsGraph.insertNode]
    by_cases atName : k = n.name
    · rw [if_pos atName, atName, Finmap.lookup_insert]
    · rw [if_neg atName, Finmap.lookup_insert_of_ne _ atName]
      exact h.node? k
  edges := h.edges

theorem Represents.addNode (h : g.Represents a) (n : Node) :
    ExceptRel Represents (g.addNode n) (a.addNode n) := by
  unfold Graph.addNode AbsGraph.addNode
  by_cases taken : n.name ∈ a.nodes
  · rw [if_pos ((h.contains_iff n.name).mpr taken), if_pos taken]
    exact .error _
  · rw [h.contains_eq_false taken, if_neg Bool.false_ne_true, if_neg taken]
    exact .ok (h.insertNode n)

theorem Represents.incidentEdges (h : g.Represents a) (name : String) :
    ListsOnce (g.incidentEdges name) (a.incident name) :=
  h.edges.filter _ _ fun e => by simp [Edge.HasEndAt]

theorem Represents.outgoingEdges (h : g.Represents a) (name : String) :
    ListsOnce (g.outgoingEdges name) (a.outgoing name) :=
  h.edges.filter _ _ fun e => by simp

theorem Represents.edgesAtPort (h : g.Represents a) (p : PortRef) :
    ListsOnce (g.edgesAtPort p) (a.atPort p) := by
  rw [edgesAtPort_eq_filter]
  exact h.edges.filter _ _ fun e => Iff.rfl

theorem Represents.isPortConnected (h : g.Represents a) (p : PortRef) :
    g.isPortConnected p = true ↔ (a.atPort p).Nonempty := by
  have members := (h.edgesAtPort p).2
  simp only [Graph.isPortConnected, Bool.not_eq_true', List.isEmpty_eq_false_iff_exists_mem, members]
  rfl

theorem Represents.eraseNode (h : g.Represents a) (name : String) :
    Represents ⟨g.nodes.erase name, g.edges.filter fun e => !(e.fromNode == name || e.toNode == name)⟩
      (a.eraseNode name) where
  node? k := by
    simp only [node?_def, Table.get?_erase, AbsGraph.eraseNode]
    by_cases atName : k = name
    · rw [if_pos atName, atName, Finmap.lookup_erase]
    · rw [if_neg atName, Finmap.lookup_erase_ne atName]
      exact h.node? k
  edges := h.edges.filter _ _ fun e => by simp [Edge.HasEndAt]

theorem Represents.removeNode (h : g.Represents a) (name : String) :
    Option.Rel (fun r s => r.1 = s.1 ∧ ListsOnce r.2.1 s.2.1 ∧ r.2.2.Represents s.2.2)
      (g.removeNode name) (a.removeNode name) := by
  unfold Graph.removeNode AbsGraph.removeNode
  rw [h.node? name]
  cases a.nodes.lookup name with
  | none => exact .none
  | some n => exact .some ⟨rfl, h.incidentEdges name, h.eraseNode name⟩

theorem Represents.insertEdge (h : g.Represents a) {e : Edge} (fromLive : e.fromNode ∈ a.nodes)
    (toLive : e.toNode ∈ a.nodes) (fresh : e ∉ a.edges) :
    Represents { g with edges := g.edges ++ [e] } (a.insertEdge e fromLive toLive) where
  node? := h.node?
  edges := by
    have fresh' : e ∉ g.edges := fun stored => fresh ((h.edges.2 e).mp stored)
    refine ⟨h.edges.1.append (List.nodup_singleton e) ?_, fun x => ?_⟩
    · simpa using fresh'
    · simp [AbsGraph.insertEdge, h.edges.2 x, or_comm]

/-- The stored edge list holds an edge exactly when the abstract set does. -/
theorem Represents.contains_edge (h : g.Represents a) (e : Edge) :
    g.edges.contains e = decide (e ∈ a.edges) := by
  rw [Bool.eq_iff_iff, List.contains_iff_mem, decide_eq_true_iff]
  exact h.edges.2 e

theorem Represents.addEdge (h : g.Represents a) (e : Edge) :
    ExceptRel (fun r s => r.1 = s.1 ∧ r.2.Represents s.2) (g.addEdge e) (a.addEdge e) := by
  unfold Graph.addEdge AbsGraph.addEdge
  by_cases fromLive : e.fromNode ∈ a.nodes
  · rw [dif_pos fromLive, (h.contains_iff _).mpr fromLive, Bool.not_true, if_neg Bool.false_ne_true]
    by_cases toLive : e.toNode ∈ a.nodes
    · rw [dif_pos toLive, (h.contains_iff _).mpr toLive, Bool.not_true, if_neg Bool.false_ne_true,
        h.contains_edge e]
      by_cases present : e ∈ a.edges
      · rw [if_pos present, if_pos (decide_eq_true present)]
        exact .ok ⟨rfl, h⟩
      · rw [if_neg present, if_neg (mt decide_eq_true_iff.mp present)]
        exact .ok ⟨rfl, h.insertEdge fromLive toLive present⟩
    · rw [dif_neg toLive, h.contains_eq_false toLive, Bool.not_false, if_pos rfl]
      exact .error _
  · rw [dif_neg fromLive, h.contains_eq_false fromLive, Bool.not_false, if_pos rfl]
    exact .error _

theorem removeEdge_fst (g : Graph) (e : Edge) : (g.removeEdge e).1 = g.edges.contains e := by
  unfold Graph.removeEdge
  split <;> simp_all

theorem Represents.removeEdge (h : g.Represents a) (e : Edge) :
    (g.removeEdge e).1 = (a.removeEdge e).1 ∧ (g.removeEdge e).2.Represents (a.removeEdge e).2 := by
  constructor
  · rw [removeEdge_fst, h.contains_edge e]
    rfl
  · rw [removeEdge_snd]
    refine ⟨h.node?, h.edges.1.erase e, fun x => ?_⟩
    simp [AbsGraph.removeEdge, AbsGraph.eraseEdge, h.edges.1.mem_erase_iff, h.edges.2 x]

theorem Represents.updateNode (h : g.Represents a) (name : String) (f : NodeEdit) :
    (g.updateNode name f.apply).Represents (a.updateNode name f) where
  node? k := by
    have stored : g.nodes.get? k = a.nodes.lookup k := h.node? k
    simp only [Graph.updateNode, node?_def, Table.get?_modify, AbsGraph.lookup_updateNode, stored]
  edges := AbsGraph.updateNode_edges a name f ▸ h.edges

/-- One operation keeps the stored graph standing for the abstract one. -/
theorem Represents.applyOp (h : g.Represents a) : ∀ op, (g.applyOp op).Represents (a.applyOp op)
  | .addNode n => (h.addNode n).toOption.getD h
  | .removeNode name => ((h.removeNode name).map fun agree => agree.2.2).getD h
  | .addEdge e => ((h.addEdge e).toOption.map fun agree => agree.2).getD h
  | .removeEdge e => (h.removeEdge e).2
  | .clear => represents_empty
  | .updateNode name f => h.updateNode name f

/-- A whole sequence of operations keeps the stored graph standing for the abstract one. -/
theorem Represents.run (h : g.Represents a) (ops : List GraphOp) :
    (g.run ops).Represents (a.run ops) := by
  induction ops generalizing g a with
  | nil => exact h
  | cons op rest ih => exact ih (h.applyOp op)

end Graph

/-- Along every sequence of operations from the empty graph, the stored graph stands for the
abstract one and every stored node sits under its own name; adding and removing nodes and edges
answer as on the abstract graph, the removed edges of a node listed each once; and the edges, the
edges at a node, those leaving it and those at a port are listed each once, exactly as the abstract
edge set holds them. -/
theorem graph_refines_abstract_graph (ops : List GraphOp) :
    let g := Graph.empty.run ops
    let a := AbsGraph.empty.run ops
    g.Represents a ∧
    (∀ name n, g.node? name = some n → n.name = name) ∧
    (∀ n, ExceptRel Graph.Represents (g.addNode n) (a.addNode n)) ∧
    (∀ e, ExceptRel (fun r s => r.1 = s.1 ∧ r.2.Represents s.2) (g.addEdge e) (a.addEdge e)) ∧
    (∀ name, Option.Rel (fun r s => r.1 = s.1 ∧ ListsOnce r.2.1 s.2.1 ∧ r.2.2.Represents s.2.2)
      (g.removeNode name) (a.removeNode name)) ∧
    (∀ e, (g.removeEdge e).1 = (a.removeEdge e).1 ∧
      (g.removeEdge e).2.Represents (a.removeEdge e).2) ∧
    ListsOnce g.edges a.edges ∧
    (∀ name, ListsOnce (g.incidentEdges name) (a.incident name)) ∧
    (∀ name, ListsOnce (g.outgoingEdges name) (a.outgoing name)) ∧
    (∀ p, ListsOnce (g.edgesAtPort p) (a.atPort p)) ∧
    (∀ p, g.isPortConnected p = true ↔ (a.atPort p).Nonempty) := by
  intro g a
  have h : g.Represents a := Graph.represents_empty.run ops
  exact ⟨h, fun _ _ => h.name_eq, h.addNode, h.addEdge, h.removeNode, h.removeEdge, h.edges,
    h.incidentEdges, h.outgoingEdges, h.edgesAtPort, h.isPortConnected⟩

end PipelineEditor
