import PipelineEditor.Snapshot.Basic
import PipelineEditor.Editor.Connect
import PipelineEditor.Json.Read

/-!
Loading a snapshot into the editor, all or nothing.

The snapshot is staged on a fresh editor over the current catalog: its catalog entries are
registered (each under its own package), its nodes added (under their own names, valid, of known
packages, not selected), its configs and chosen any-types stored (each belonging to a loaded
node), nodes without a config given their starting parameters, its edges connected one by one as
by the user, and the nodes marked selected in the snapshot selected in snapshot order. The first
refusal ends the load and the editor stays as it was.
-/

namespace PipelineEditor

namespace Editor

/-- Registers the snapshot's catalog entries, each under its own package. -/
def stageStructures (catalog : Catalog) :
    List (String × NodeStructure) → Except EditorError Catalog
  | [] => .ok catalog
  | (package, s) :: rest =>
    let declared := s.package
    if package != declared then
      .error (.malformed s!"structure key '{package}' does not match package '{declared}'")
    else stageStructures (catalog.register s) rest

/-- Adds the snapshot's nodes, unselected, collecting the references of those marked selected. -/
def stageNodes (e : Editor) (selected : List NodeRef) :
    List (String × Node) → Except EditorError (Editor × List NodeRef)
  | [] => .ok (e, selected)
  | (name, n) :: rest => do
    let actual := n.name
    if name != actual then
      throw (.malformed s!"node key '{name}' does not match node name '{actual}'")
    if !isValidNodeName name then throw (.invalidName name)
    let _ ← e.catalog.structure? n.package
    let selected := if n.selected then selected ++ [n.ref] else selected
    let graph ← e.graph.addNode { n with selected := false }
    stageNodes { e with graph } selected rest

/-- Stores the snapshot's configs, each for a loaded node; a later config of a node wins. -/
def stageConfigs (e : Editor) : List (String × NodeConfig) → Except EditorError Editor
  | [] => .ok e
  | (name, config) :: rest =>
    if !e.graph.contains name then
      .error (.malformed s!"parameter config for unknown node '{name}'")
    else stageConfigs { e with params := e.params.insertConfig name config } rest

/-- Stores the snapshot's chosen any-types, each keyed under a loaded node. -/
def stageAnyTypes (e : Editor) : List (String × String) → Except EditorError Editor
  | [] => .ok e
  | (key, concrete) :: rest =>
    if !(e.graph.nodeList.any fun n => (anyKeyParam? key n.name).isSome) then
      .error (.malformed s!"any-type entry '{key}' does not belong to a node")
    else stageAnyTypes { e with params := e.params.insertAnyType key concrete } rest

/-- Gives every node without a config its starting parameters. -/
def initUnconfigured (e : Editor) : Except EditorError Editor :=
  (e.graph.nodeList.filter fun n => (e.params.config? n.name).isNone).foldlM
    (fun e n => do
      let s ← e.catalog.structure? n.package
      pure { e with params := e.params.initNode n.name s })
    e

/-- Connects edges one by one, as the user would. -/
def connectAll (e : Editor) : List Edge → Except EditorError Editor
  | [] => .ok e
  | edge :: rest => do
    let (_, e) ← (connect edge.fromNode edge.fromPort edge.toNode edge.toPort).toExcept e
    connectAll e rest

/-- The editor a snapshot describes, over this editor's catalog. -/
def stageSnapshot (e : Editor) (s : Snapshot) : Except EditorError Editor := do
  let catalog ← stageStructures e.catalog s.structures
  let staged := { ofCatalog catalog with transform := s.transform }
  let (staged, selected) ← stageNodes staged [] s.nodes
  let staged ← stageConfigs staged s.configs
  let staged ← stageAnyTypes staged s.anyConfigs
  let staged ← initUnconfigured staged
  let staged ← connectAll staged (s.edges.map Prod.snd)
  pure ({ staged with selection := staged.selection.replace selected }).syncSelectedFlags

section Steps

variable {e : Editor}

theorem stageStructures_cons_eq_ok {catalog catalog' : Catalog} {package : String}
    {s : NodeStructure} {rest : List (String × NodeStructure)} :
    stageStructures catalog ((package, s) :: rest) = .ok catalog' ↔
      package = s.package ∧ stageStructures (catalog.register s) rest = .ok catalog' := by
  simp only [stageStructures, bne_iff_ne, ne_eq, ite_not]
  split <;> simp_all

/-- A node is added when its key is its name, the name is valid and free and its package known;
it is added unselected, and its reference kept when it is marked selected. -/
theorem stageNodes_cons_eq_ok {selected : List NodeRef} {name : String} {n : Node}
    {rest : List (String × Node)} {r : Editor × List NodeRef} :
    stageNodes e selected ((name, n) :: rest) = .ok r ↔
      name = n.name ∧ isValidNodeName name = true ∧ (e.catalog.get? n.package).isSome ∧
        e.graph.contains n.name = false ∧
        stageNodes { e with graph := { e.graph with
            nodes := e.graph.nodes.insert n.name { n with selected := false } } }
          (if n.selected then selected ++ [n.ref] else selected) rest = .ok r := by
  simp only [stageNodes]
  by_cases hname : name = n.name
  · subst hname
    by_cases hvalid : isValidNodeName n.name = true
    · cases hs : e.catalog.structure? n.package with
      | error err =>
        have hnone := Catalog.structure?_eq_error hs
        simp [hvalid, hnone, bind, Except.bind]
      | ok s =>
        have hsome := Catalog.structure?_eq_ok.mp hs
        simp only [bne_self_eq_false, Bool.false_eq_true, if_false, hvalid, Bool.not_true,
          hsome, Option.isSome_some, true_and]
        unfold Graph.addNode
        cases e.graph.contains n.name <;> simp [bind, Except.bind]
    · simp [hvalid, bind, Except.bind]
  · simp [hname, bind, Except.bind, throw, throwThe, MonadExceptOf.throw]

theorem stageConfigs_cons_eq_ok {e' : Editor} {name : String} {config : NodeConfig}
    {rest : List (String × NodeConfig)} :
    stageConfigs e ((name, config) :: rest) = .ok e' ↔
      e.graph.contains name = true ∧
        stageConfigs { e with params := e.params.insertConfig name config } rest = .ok e' := by
  rw [stageConfigs]
  cases e.graph.contains name
  · simp only [Bool.not_false, if_true, reduceCtorEq, Bool.false_eq_true, false_and]
  · simp only [Bool.not_true, Bool.false_eq_true, if_false, true_and]

theorem stageAnyTypes_cons_eq_ok {e' : Editor} {key concrete : String}
    {rest : List (String × String)} :
    stageAnyTypes e ((key, concrete) :: rest) = .ok e' ↔
      (e.graph.nodeList.any fun n => (anyKeyParam? key n.name).isSome) = true ∧
        stageAnyTypes { e with params := e.params.insertAnyType key concrete } rest = .ok e' := by
  rw [stageAnyTypes]
  cases e.graph.nodeList.any fun n => (anyKeyParam? key n.name).isSome
  · simp only [Bool.not_false, if_true, reduceCtorEq, Bool.false_eq_true, false_and]
  · simp only [Bool.not_true, Bool.false_eq_true, if_false, true_and]

theorem connectAll_cons_eq_ok {e' : Editor} {edge : Edge} {rest : List Edge} :
    connectAll e (edge :: rest) = .ok e' ↔
      ∃ added e₁, (connect edge.fromNode edge.fromPort edge.toNode edge.toPort).run e = .ok added e₁ ∧
        connectAll e₁ rest = .ok e' := by
  simp only [connectAll, Except.bind_eq_ok, Prod.exists, Edit.toExcept_eq_ok]

/-- A snapshot is staged when each step in turn succeeds. -/
theorem stageSnapshot_eq_ok {s : Snapshot} {e' : Editor} :
    e.stageSnapshot s = .ok e' ↔
      ∃ catalog staged selected e₁ e₂ e₃ e₄, stageStructures e.catalog s.structures = .ok catalog ∧
        stageNodes { ofCatalog catalog with transform := s.transform } [] s.nodes =
          .ok (staged, selected) ∧
        stageConfigs staged s.configs = .ok e₁ ∧ stageAnyTypes e₁ s.anyConfigs = .ok e₂ ∧
        initUnconfigured e₂ = .ok e₃ ∧ connectAll e₃ (s.edges.map Prod.snd) = .ok e₄ ∧
        e' = ({ e₄ with selection := e₄.selection.replace selected }).syncSelectedFlags := by
  simp only [stageSnapshot, Except.bind_eq_ok, Prod.exists]
  constructor
  · rintro ⟨catalog, hc, staged, selected, hn, e₁, h₁, e₂, h₂, e₃, h₃, e₄, h₄, he⟩
    exact ⟨catalog, staged, selected, e₁, e₂, e₃, e₄, hc, hn, h₁, h₂, h₃, h₄,
      (Except.ok.inj he).symm⟩
  · rintro ⟨catalog, staged, selected, e₁, e₂, e₃, e₄, hc, hn, h₁, h₂, h₃, h₄, rfl⟩
    exact ⟨catalog, hc, staged, selected, hn, e₁, h₁, e₂, h₂, e₃, h₃, e₄, h₄, rfl⟩

end Steps

/-- Reads a snapshot payload text. -/
def readSnapshot (raw : String) : Except EditorError Snapshot :=
  match Json.parse raw with
  | .error _ => .error .parse
  | .ok j =>
    match Snapshot.ofJson? j with
    | some s => .ok s
    | none => .error .parse

/-- Replaces the editor with the one a snapshot describes; a refused snapshot changes nothing. -/
def loadSnapshot (s : Snapshot) : Edit Unit := do
  set (← liftExcept ((← get).stageSnapshot s))

theorem loadSnapshot_run (s : Snapshot) (e : Editor) :
    (loadSnapshot s).run e =
      match e.stageSnapshot s with
      | .ok e' => .ok () e'
      | .error err => .error err e := by
  simp only [loadSnapshot, EStateM.run_bind, EStateM.run_get, Edit.run_liftExcept]
  cases e.stageSnapshot s <;> rfl

/-- Loads a snapshot payload text. -/
def loadSnapshotText (raw : String) : Edit Unit := do
  loadSnapshot (← liftExcept (readSnapshot raw))

theorem loadSnapshotText_run (raw : String) (e : Editor) :
    (loadSnapshotText raw).run e =
      match readSnapshot raw with
      | .ok s => (loadSnapshot s).run e
      | .error err => .error err e := by
  simp only [loadSnapshotText, EStateM.run_bind, Edit.run_liftExcept]
  cases readSnapshot raw <;> rfl

end Editor

end PipelineEditor
