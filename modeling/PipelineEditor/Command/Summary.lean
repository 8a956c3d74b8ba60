import PipelineEditor.Editor.Basic
import PipelineEditor.Graph.Order
import PipelineEditor.Decimal.Layout

/-!
The text summary of an editor's graph: its nodes, its edges and their running order.
-/
namespace PipelineEditor

namespace Editor

/-- The summary line of a node. -/
def nodeLine (n : Node) : String :=
  let x := Decimal.plainText n.position.x
  let y := Decimal.plainText n.position.y
  let marker := if n.selected then " *" else ""
  let name := n.name
  let package := n.package
  s!"  {name} [{package}] at ({x}, {y})" ++ marker

/-- The summary line of an edge. -/
def edgeLine (edge : Edge) : String :=
  "  " ++ edge.fromNode ++ "." ++ edge.fromPort ++ " -> " ++ edge.toNode ++ "." ++ edge.toPort

/-- The summary of the editor's graph under the store's orders, one line each, every line ending in
a line break. -/
def summary (e : Editor) (orders : StoreOrders) : String :=
  let nodes := e.graph.nodeList
  let edges := Edge.sort e.graph.edges
  let order := match orders.runningOrder with
    | .ok names => " -> ".intercalate names
    | .error err => err.message
  let nodeCount := nodes.length
  let edgeCount := edges.length
  let lines := [s!"nodes: {nodeCount}"] ++ nodes.map nodeLine ++ [s!"edges: {edgeCount}"] ++
    edges.map edgeLine ++ ["order: " ++ order]
  String.join (lines.map (· ++ "\n"))

end Editor

end PipelineEditor
