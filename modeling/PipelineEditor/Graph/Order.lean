import PipelineEditor.Graph.Basic

/-!
Running orders of a graph, and the orders the export reads from the store that holds it.
-/

namespace PipelineEditor

namespace Kahn

variable {α : Type} [DecidableEq α]

/-- `a` links to `b`. -/
def Feeds (links : List (α × α)) (a b : α) : Prop := (a, b) ∈ links

/-- Links lead from a node back to itself. -/
def Cyclic (links : List (α × α)) : Prop := ∃ x, Relation.TransGen (Feeds links) x x

/-- Every link between two of the nodes joins an earlier one to a later one. -/
def RunsForward (links : List (α × α)) (nodes order : List α) : Prop :=
  ∀ l ∈ links, l.1 ∈ nodes → l.2 ∈ nodes → [l.1, l.2].Sublist order

/-- Whether some link from a pending node enters `x`. -/
def entered (links : List (α × α)) (pending : List α) (x : α) : Bool :=
  links.any fun l => l.2 == x && pending.contains l.1

/-- Takes, `fuel` times, the first pending node that no link from a pending node enters. -/
def sortFrom (links : List (α × α)) : Nat → List α → List α → Option (List α)
  | 0, pending, done => if pending.isEmpty then some done.reverse else none
  | fuel + 1, pending, done =>
    match pending.find? (fun x => !entered links pending x) with
    | none => if pending.isEmpty then some done.reverse else none
    | some next => sortFrom links fuel (pending.erase next) (next :: done)

/-- The nodes in an order in which every link runs forward, or `none` when links close a cycle. -/
def sort (links : List (α × α)) (nodes : List α) : Option (List α) :=
  sortFrom links nodes.length nodes []

end Kahn

namespace Graph

/-- The source and target node of each edge. -/
def links (g : Graph) : List (String × String) := g.edges.map fun e => (e.fromNode, e.toNode)

/-- Some edge of the graph leads from `a` to `b`. -/
def Feeds (g : Graph) (a b : String) : Prop :=
  ∃ edge ∈ g.edges, edge.fromNode = a ∧ edge.toNode = b

/-- Edges of the graph lead from a node back to itself. -/
def HasCycle (g : Graph) : Prop := ∃ k, Relation.TransGen g.Feeds k k

/-- An order of the graph's nodes, each once, in which every edge runs forward. -/
structure IsRunningOrder (g : Graph) (order : List String) : Prop where
  perm : order.Perm g.nodes.keys
  forward : ∀ edge ∈ g.edges, [edge.fromNode, edge.toNode].Sublist order

end Graph

/-- What the export reads from the store that holds the graph: the store's running order of the
node names, or its refusal, and the nodes in the order the store keeps them. -/
structure StoreOrders where
  runningOrder : Except EditorError (List String)
  storage : List Node

/-- The store's contract on its orders for a graph: it keeps every node once, and its topological
sort gives a running order when no edges close a cycle and refuses when some do. -/
structure StoreOrders.Lawful (o : StoreOrders) (g : Graph) : Prop where
  storage : o.storage.Perm g.nodeList
  acyclic : ¬ g.HasCycle → ∃ order, o.runningOrder = .ok order ∧ g.IsRunningOrder order
  cyclic : g.HasCycle → o.runningOrder = .error .cycleDetected

namespace Graph

/-- The orders of a store the graph's nodes were added to by name: Kahn's sort taking free nodes
by name, and the nodes by name. -/
def nameOrders (g : Graph) : StoreOrders where
  runningOrder := match Kahn.sort g.links g.nodes.keys with
    | some order => .ok order
    | none => .error .cycleDetected
  storage := g.nodeList

end Graph

end PipelineEditor
