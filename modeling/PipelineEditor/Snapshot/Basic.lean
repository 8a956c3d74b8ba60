import PipelineEditor.Editor.Basic

/-!
Snapshots: the editor's graph, view and parameters as one payload.

A snapshot lists the nodes by name, the edges by key, the transform text, the catalog entries of
the packages in use, the configs by node and the chosen any-types by key, each list in ascending
order of its keys. In the payload form every field may be left out (it is then empty, or the
identity transform), and unknown fields are ignored.
-/

namespace PipelineEditor

/-- The editor's graph, view and parameters, as saved. -/
structure Snapshot where
  nodes : List (String × Node) := []
  edges : List (String × Edge) := []
  transform : ViewTransform := ViewTransform.identity
  structures : List (String × NodeStructure) := []
  configs : List (String × NodeConfig) := []
  anyConfigs : List (String × String) := []
  deriving Inhabited

namespace Snapshot

/-- Equality of two lists of keyed entries, entry by entry. -/
def entriesEqual {α : Type} [BEq α] (a b : List (String × α)) : Bool :=
  a.length == b.length && (a.zip b).all fun (x, y) => x.1 == y.1 && x.2 == y.2

instance : BEq Snapshot :=
  ⟨fun a b => entriesEqual a.nodes b.nodes && entriesEqual a.edges b.edges &&
    a.transform == b.transform && entriesEqual a.structures b.structures &&
    entriesEqual a.configs b.configs && entriesEqual a.anyConfigs b.anyConfigs⟩

/-- Keyed entries in payload form: an array of `[key, value]` pairs. -/
def pairsJson {α : Type} (f : α → Json) (entries : List (String × α)) : Json :=
  .array (entries.map fun (k, v) => .array [.string k, f v])

/-- The payload form of a snapshot. -/
def toJson (s : Snapshot) : Json :=
  Json.mkObject [("nodes", pairsJson Node.toJson s.nodes), ("edges", pairsJson Edge.toJson s.edges),
    ("transform", s.transform.toJson), ("structures", pairsJson NodeStructure.toJson s.structures),
    ("configs", pairsJson ParamStore.configJson s.configs),
    ("anyConfigs", pairsJson Json.str s.anyConfigs)]

/-- Reads keyed entries: an array of `[key, value]` pairs. -/
def pairsOfJson? {α : Type} (read : Json → Option α) : Json → Option (List (String × α)) :=
  Json.asList (Json.asPair Json.asString read)

/-- Reads a config: parameter values by name. -/
def configOfJson? : Json → Option NodeConfig := Json.asTable Json.asValue

/-- Reads a snapshot from its payload form. -/
def ofJson? (j : Json) : Option Snapshot := do
  let fields ← Json.recordFields
    ["nodes", "edges", "transform", "structures", "configs", "anyConfigs"] false j
  pure {
    nodes := ← fields.withDefault "nodes" (pairsOfJson? Node.ofJson?) []
    edges := ← fields.withDefault "edges" (pairsOfJson? Edge.ofJson?) []
    transform := ← fields.withDefault "transform" ViewTransform.ofJson? ViewTransform.identity
    structures := ← fields.withDefault "structures" (pairsOfJson? NodeStructure.ofJson?) []
    configs := ← fields.withDefault "configs" (pairsOfJson? configOfJson?) []
    anyConfigs := ← fields.withDefault "anyConfigs" (pairsOfJson? Json.asString) [] }

end Snapshot

namespace Editor

/-- The packages in use, each once, in ascending order. -/
def packagesInUse (e : Editor) : List String :=
  (Table.ofList (e.graph.nodeList.map fun n => (n.package, ()))).keys

/-- The editor's snapshot. -/
def snapshot (e : Editor) : Snapshot where
  nodes := e.graph.nodes.entries
  edges := (e.graph.edges.map fun edge => (edge.key, edge)).mergeSort fun a b => !(b.1 < a.1)
  transform := e.transform
  structures := (e.packagesInUse.filterMap e.catalog.get?).map fun s => (s.package, s)
  configs := e.params.configs.entries
  anyConfigs := e.params.anyTypes.entries

end Editor

end PipelineEditor
