import PipelineEditor.Graph.Port

/-!
Edges: a link from an output port of one node to an input port of another.

An edge is identified by its four names. Its key is
`{fromNode}-{out}-{fromPort}|{toNode}-{in}-{toPort}`, where `{out}` and `{in}` stand as written.
Edges are ordered by their names: source node, source port, target node, target port.
-/

namespace PipelineEditor

/-- A link from the output port `fromPort` of `fromNode` to the input port `toPort` of
`toNode`. -/
structure Edge where
  fromNode : String
  fromPort : String
  toNode : String
  toPort : String
  deriving DecidableEq, Repr, Inhabited

namespace Edge

/-- The text that identifies an edge in a snapshot. -/
def key (e : Edge) : String :=
  e.fromNode ++ "-{out}-" ++ e.fromPort ++ "|" ++ e.toNode ++ "-{in}-" ++ e.toPort

/-- The output port the edge leaves. -/
def source (e : Edge) : PortRef := ⟨e.fromNode, e.fromPort, .output⟩

/-- The input port the edge enters. -/
def target (e : Edge) : PortRef := ⟨e.toNode, e.toPort, .input⟩

/-- Whether the edge is attached to a port: its source for an output port, its target for an
input port. -/
def touches (e : Edge) (p : PortRef) : Bool :=
  match p.direction with
  | .output => e.fromNode == p.node && e.fromPort == p.port
  | .input => e.toNode == p.node && e.toPort == p.port

/-- The edge with every end at node `old` moved to node `new`. -/
def renamed (e : Edge) (old new : String) : Edge :=
  { e with
    fromNode := if e.fromNode = old then new else e.fromNode
    toNode := if e.toNode = old then new else e.toNode }

/-- Compares edges by their four names in turn. -/
def compareNames (a b : Edge) : Ordering :=
  (compare a.fromNode b.fromNode).then <| (compare a.fromPort b.fromPort).then <|
    (compare a.toNode b.toNode).then (compare a.toPort b.toPort)

/-- The order of edges by their four names. -/
def lt (a b : Edge) : Bool := compareNames a b == .lt

/-- Sorts edges by their four names. -/
def sort (edges : List Edge) : List Edge := edges.mergeSort fun a b => !lt b a

/-- The payload form `{"fromNode", "fromPort", "toNode", "toPort"}`. -/
def toJson (e : Edge) : Json :=
  Json.mkObject [("fromNode", .string e.fromNode), ("fromPort", .string e.fromPort),
    ("toNode", .string e.toNode), ("toPort", .string e.toPort)]

/-- The field names of an edge's payload form, in declaration order. -/
def fieldNames : List String := ["fromNode", "fromPort", "toNode", "toPort"]

/-- Reads an edge from its payload form. -/
def ofJson? (j : Json) : Option Edge := do
  let fields ← Json.recordFields fieldNames false j
  pure ⟨← fields.required "fromNode" Json.asString, ← fields.required "fromPort" Json.asString,
    ← fields.required "toNode" Json.asString, ← fields.required "toPort" Json.asString⟩

@[simp] theorem renamed_fromNode (e : Edge) (old new : String) :
    (e.renamed old new).fromNode = if e.fromNode = old then new else e.fromNode := rfl

@[simp] theorem renamed_toNode (e : Edge) (old new : String) :
    (e.renamed old new).toNode = if e.toNode = old then new else e.toNode := rfl

/-- Renaming a node the edge does not touch leaves the edge as it is. -/
theorem renamed_of_ne {e : Edge} {old : String} (hfrom : e.fromNode ≠ old) (hto : e.toNode ≠ old)
    (new : String) : e.renamed old new = e := by
  simp [renamed, hfrom, hto]

@[simp] theorem target_node (e : Edge) : e.target.node = e.toNode := rfl

@[simp] theorem source_node (e : Edge) : e.source.node = e.fromNode := rfl

theorem target_eq_iff {a b : Edge} : a.target = b.target ↔ a.toNode = b.toNode ∧ a.toPort = b.toPort := by
  simp [target]

/-- An edge touches the input port of another edge exactly when it enters that port. -/
theorem touches_target_iff {a b : Edge} : a.touches b.target = true ↔ a.target = b.target := by
  simp [touches, target, and_comm]

end Edge

end PipelineEditor
