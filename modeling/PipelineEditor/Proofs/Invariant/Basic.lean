import PipelineEditor.Editor.Copy

/-! The editor's invariant, what holds of every editor the commands reach, and its frame lemmas. -/

namespace PipelineEditor

/-- A catalog names new nodes safely when no entry's base name holds `$`. -/
def Catalog.NamesFree (c : Catalog) : Prop := ∀ s ∈ c.entries, '$' ∉ s.baseName.toList

instance (c : Catalog) : Decidable c.NamesFree :=
  inferInstanceAs (Decidable (∀ s ∈ c.entries, '$' ∉ s.baseName.toList))

theorem Catalog.mem_entries_of_get? {c : Catalog} {package : String} {s : NodeStructure}
    (h : c.get? package = some s) : s ∈ c.entries :=
  List.mem_map.mpr ⟨(package, s), Table.mem_entries_of_get? h, rfl⟩

theorem Catalog.NamesFree.baseName {c : Catalog} (h : c.NamesFree) {package : String}
    {s : NodeStructure} (entry : c.get? package = some s) : '$' ∉ s.baseName.toList :=
  h s (Catalog.mem_entries_of_get? entry)

namespace Editor

/-- An edge may stand in an editor when it joins two different nodes, from a declared output port
to a declared input port, and the two types fit. -/
def EdgeFits (e : Editor) (edge : Edge) : Prop :=
  edge.fromNode ≠ edge.toNode ∧ ∃ a b, e.portType edge.source = .ok a ∧
    e.portType edge.target = .ok b ∧ a.compatible b = true

/-- A key is the any-type key of a declared `any` parameter of a live node. -/
def IsAnyKey (e : Editor) (key : String) : Prop :=
  ∃ k n s p, e.node? k = some n ∧ e.catalog.get? n.package = some s ∧ p ∈ s.parameter ∧
    p.kind.isAny = true ∧ key = anyKey k p.name

/-- The nodes and edges are well formed over the catalog. -/
structure GraphSound (e : Editor) : Prop where
  keys_nodup : e.graph.nodes.keys.Nodup
  name_eq : ∀ {k n}, e.node? k = some n → n.name = k
  name_valid : ∀ {k n}, e.node? k = some n → isValidNodeName k = true
  package_known : ∀ {k n}, e.node? k = some n → (e.catalog.get? n.package).isSome
  edge_fits : ∀ edge ∈ e.graph.edges, e.EdgeFits edge
  edges_nodup : e.graph.edges.Nodup
  one_per_input : ∀ a ∈ e.graph.edges, ∀ b ∈ e.graph.edges, a.target = b.target → a = b

/-- The part of the graph's soundness that holds whatever names the catalog gives new nodes:
nodes are stored under their names, and every edge fits, once, into an input port no other edge
enters. -/
structure EdgesSound (e : Editor) : Prop where
  name_eq : ∀ {k n}, e.node? k = some n → n.name = k
  edge_fits : ∀ edge ∈ e.graph.edges, e.EdgeFits edge
  edges_nodup : e.graph.edges.Nodup
  one_per_input : ∀ a ∈ e.graph.edges, ∀ b ∈ e.graph.edges, a.target = b.target → a = b

theorem GraphSound.edgesSound {e : Editor} (h : e.GraphSound) : e.EdgesSound :=
  ⟨h.name_eq, h.edge_fits, h.edges_nodup, h.one_per_input⟩

/-- Sound edges make a sound graph where the names are distinct, valid and of known packages. -/
theorem GraphSound.of_edgesSound {e : Editor} (h : e.EdgesSound) (keys_nodup : e.graph.nodes.keys.Nodup)
    (name_valid : ∀ {k n}, e.node? k = some n → isValidNodeName k = true)
    (package_known : ∀ {k n}, e.node? k = some n → (e.catalog.get? n.package).isSome) :
    e.GraphSound :=
  ⟨keys_nodup, h.name_eq, name_valid, package_known, h.edge_fits, h.edges_nodup, h.one_per_input⟩

/-- A live name holds no `$`. -/
theorem GraphSound.dollar_not_mem {e : Editor} (h : e.GraphSound) {k : String} {n : Node}
    (found : e.node? k = some n) : '$' ∉ k.toList :=
  (isValidNodeName_iff.mp (h.name_valid found)).2

/-- The chosen-type keys of a live node are none of another name's, if that name holds no `$`. -/
theorem GraphSound.anyKey_ne {e : Editor} (h : e.GraphSound) {k k' : String} {n : Node}
    (found : e.node? k = some n) (dollarFree : '$' ∉ k'.toList) (distinct : k ≠ k') (p q : String) :
    anyKey k p ≠ anyKey k' q :=
  fun collide => distinct (anyKey_inj (h.dollar_not_mem found) dollarFree collide).1

/-- Exactly the live nodes have a config, each holding every declared parameter, and the chosen
any-types are exactly those of the live nodes' `any` parameters. -/
structure ParamsSound (e : Editor) : Prop where
  config_live : ∀ k, (e.params.configs.get? k).isSome = (e.node? k).isSome
  config_complete : ∀ {k n s}, e.node? k = some n → e.catalog.get? n.package = some s →
    ∀ p ∈ s.parameter, (e.params.value? k p.name).isSome
  anyTypes_exact : ∀ key, (e.params.anyTypes.get? key).isSome ↔ e.IsAnyKey key

/-- The selection holds live nodes, and each node is flagged exactly when it is selected. -/
structure SelectionSound (e : Editor) : Prop where
  selected_live : ∀ r ∈ e.selection.selected, (e.node? r.name).isSome
  flag_eq : ∀ {k n}, e.node? k = some n → n.selected = e.selection.contains k

/-- The invariant of the editor. -/
structure Invariant (e : Editor) : Prop where
  graph : e.GraphSound
  params : e.ParamsSound
  selection : e.SelectionSound

/-- A port keeps its type in an editor over the same catalog where its node, or a node standing
for it, has the same package. -/
theorem portType_transfer {e e' : Editor} {p p' : PortRef} {t : PortType}
    (sameCatalog : e'.catalog = e.catalog)
    (kept : ∀ n, e.node? p.node = some n → ∃ n', e'.node? p'.node = some n' ∧ n'.package = n.package)
    (samePort : p'.port = p.port) (sameDirection : p'.direction = p.direction) (h : e.portType p = .ok t) :
    e'.portType p' = .ok t := by
  obtain ⟨n, s, found, entry, typed⟩ := portType_eq_ok.mp h
  obtain ⟨n', found', samePackage⟩ := kept n found
  refine portType_eq_ok.mpr ⟨n', s, found', ?_, ?_⟩
  · rw [sameCatalog, samePackage]
    exact entry
  · rw [samePort, sameDirection]
    exact typed

/-- Port types read only the catalog and the nodes. -/
theorem portType_congr {e e' : Editor} (sameCatalog : e'.catalog = e.catalog)
    (sameNodes : e'.graph.nodes = e.graph.nodes) (p : PortRef) : e'.portType p = e.portType p := by
  simp only [portType, existingNode, Graph.node?_def, sameCatalog, sameNodes]

theorem EdgeFits.congr {e e' : Editor} (sameCatalog : e'.catalog = e.catalog)
    (sameNodes : e'.graph.nodes = e.graph.nodes) {edge : Edge} (h : e.EdgeFits edge) : e'.EdgeFits edge := by
  unfold EdgeFits
  rw [portType_congr sameCatalog sameNodes, portType_congr sameCatalog sameNodes]
  exact h

/-- An edge that fits keeps fitting where its two nodes stay with their packages. -/
theorem EdgeFits.transfer {e e' : Editor} {edge : Edge} (sameCatalog : e'.catalog = e.catalog)
    (kept : ∀ k, (k = edge.fromNode ∨ k = edge.toNode) → ∀ n, e.node? k = some n →
      ∃ n', e'.node? k = some n' ∧ n'.package = n.package)
    (h : e.EdgeFits edge) : e'.EdgeFits edge := by
  obtain ⟨distinct, a, b, sourceType, targetType, fit⟩ := h
  exact ⟨distinct, a, b, portType_transfer sameCatalog (kept _ (.inl rfl)) rfl rfl sourceType,
    portType_transfer sameCatalog (kept _ (.inr rfl)) rfl rfl targetType, fit⟩

/-- Two editors over one catalog whose nodes differ at most in position and flag. -/
structure SameShape (e e' : Editor) : Prop where
  catalog : e'.catalog = e.catalog
  keys : e'.graph.nodes.keys = e.graph.nodes.keys
  ref : ∀ k, (e'.node? k).map Node.ref = (e.node? k).map Node.ref

theorem node?_eq_none_of_contains {e : Editor} {name : String} (h : e.graph.contains name = false) :
    e.node? name = none := by
  simpa using h

/-- A live name is no free name. -/
theorem ne_of_node?_of_contains {e : Editor} {k name : String} {n : Node} (found : e.node? k = some n)
    (h : e.graph.contains name = false) : k ≠ name := by
  rintro rfl
  rw [node?_eq_none_of_contains h] at found
  cases found

theorem SameShape.exists_node? {e e' : Editor} (h : SameShape e e') {k : String} {n : Node}
    (found : e.node? k = some n) : ∃ n', e'.node? k = some n' ∧ n'.name = n.name ∧ n'.package = n.package := by
  have sameRef := h.ref k
  rw [found] at sameRef
  cases found' : e'.node? k with
  | none =>
    rw [found'] at sameRef
    cases sameRef
  | some n' =>
    rw [found', Option.map_some, Option.map_some, Option.some.injEq] at sameRef
    exact ⟨n', rfl, congrArg NodeRef.name sameRef, congrArg NodeRef.package sameRef⟩

theorem SameShape.symm {e e' : Editor} (h : SameShape e e') : SameShape e' e where
  catalog := h.catalog.symm
  keys := h.keys.symm
  ref := fun k => (h.ref k).symm

theorem SameShape.exists_node?_symm {e e' : Editor} (h : SameShape e e') {k : String} {n' : Node}
    (found' : e'.node? k = some n') : ∃ n, e.node? k = some n ∧ n'.name = n.name ∧ n'.package = n.package := by
  obtain ⟨n, found, sameName, samePackage⟩ := h.symm.exists_node? found'
  exact ⟨n, found, sameName.symm, samePackage.symm⟩

theorem SameShape.of_nodes_eq {e e' : Editor} (sameCatalog : e'.catalog = e.catalog)
    (sameNodes : e'.graph.nodes = e.graph.nodes) : SameShape e e' where
  catalog := sameCatalog
  keys := by rw [sameNodes]
  ref := fun k => by simp only [node?_def, sameNodes]

theorem SameShape.isSome_node? {e e' : Editor} (h : SameShape e e') (k : String) :
    (e'.node? k).isSome = (e.node? k).isSome := by
  have sameRef := h.ref k
  cases found : e.node? k <;> cases found' : e'.node? k <;> simp_all

/-- Moving nodes and reflagging them keeps the edges sound. -/
theorem EdgesSound.of_sameShape {e e' : Editor} (h : e.EdgesSound) (same : SameShape e e')
    (sameEdges : e'.graph.edges = e.graph.edges) : e'.EdgesSound where
  name_eq := fun found' => by
    obtain ⟨n, found, sameName, -⟩ := same.exists_node?_symm found'
    rw [sameName, h.name_eq found]
  edge_fits := fun edge listed => by
    rw [sameEdges] at listed
    refine (h.edge_fits edge listed).transfer same.catalog fun k _ n found => ?_
    obtain ⟨n', found', -, samePackage⟩ := same.exists_node? found
    exact ⟨n', found', samePackage⟩
  edges_nodup := sameEdges ▸ h.edges_nodup
  one_per_input := sameEdges ▸ h.one_per_input

/-- Moving nodes and reflagging them keeps the graph sound. -/
theorem GraphSound.of_sameShape {e e' : Editor} (h : e.GraphSound) (same : SameShape e e')
    (sameEdges : e'.graph.edges = e.graph.edges) : e'.GraphSound :=
  .of_edgesSound (h.edgesSound.of_sameShape same sameEdges) (same.keys ▸ h.keys_nodup)
    (fun found' => by
      obtain ⟨n, found, -, -⟩ := same.exists_node?_symm found'
      exact h.name_valid found)
    (fun found' => by
      obtain ⟨n, found, -, samePackage⟩ := same.exists_node?_symm found'
      rw [same.catalog, samePackage]
      exact h.package_known found)

/-- Moving nodes and reflagging them keeps the parameters sound. -/
theorem ParamsSound.of_sameShape {e e' : Editor} (h : e.ParamsSound) (same : SameShape e e')
    (sameParams : e'.params = e.params) : e'.ParamsSound where
  config_live := fun k => by rw [sameParams, same.isSome_node?, h.config_live]
  config_complete := fun found' entry p declared => by
    obtain ⟨n, found, -, samePackage⟩ := same.exists_node?_symm found'
    rw [sameParams]
    exact h.config_complete found (by rw [← samePackage, ← same.catalog]; exact entry) p declared
  anyTypes_exact := fun key => by
    rw [sameParams, h.anyTypes_exact]
    constructor
    · rintro ⟨k, n, s, p, found, entry, declared, isAny, rfl⟩
      obtain ⟨n', found', -, samePackage⟩ := same.exists_node? found
      exact ⟨k, n', s, p, found', by rw [samePackage, same.catalog]; exact entry, declared, isAny, rfl⟩
    · rintro ⟨k, n', s, p, found', entry, declared, isAny, rfl⟩
      obtain ⟨n, found, -, samePackage⟩ := same.exists_node?_symm found'
      exact ⟨k, n, s, p, found, by rw [← samePackage, ← same.catalog]; exact entry, declared, isAny, rfl⟩

@[simp] theorem syncSelectedFlags_catalog (e : Editor) : e.syncSelectedFlags.catalog = e.catalog := rfl

@[simp] theorem syncSelectedFlags_edges (e : Editor) :
    e.syncSelectedFlags.graph.edges = e.graph.edges := rfl

@[simp] theorem syncSelectedFlags_params (e : Editor) : e.syncSelectedFlags.params = e.params := rfl

@[simp] theorem syncSelectedFlags_selection (e : Editor) :
    e.syncSelectedFlags.selection = e.selection := rfl

@[simp] theorem syncSelectedFlags_transform (e : Editor) :
    e.syncSelectedFlags.transform = e.transform := rfl

/-- After the flags are brought in line, a node is flagged exactly when the selection holds it. -/
theorem syncSelectedFlags_node? (e : Editor) (k : String) :
    e.syncSelectedFlags.node? k =
      (e.node? k).map fun n => { n with selected := e.selection.contains n.name } := by
  simp [syncSelectedFlags]

theorem sameShape_syncSelectedFlags (e : Editor) : SameShape e e.syncSelectedFlags where
  catalog := rfl
  keys := by simp [syncSelectedFlags]
  ref := fun k => by
    simp only [node?_def, syncSelectedFlags, Table.get?_map, Option.map_map]
    rfl

/-- Marking exactly the selected nodes makes the flags agree with a selection of live nodes. -/
theorem SelectionSound.syncSelectedFlags {e : Editor} (named : ∀ {k n}, e.node? k = some n → n.name = k)
    (live : ∀ r ∈ e.selection.selected, (e.node? r.name).isSome) : e.syncSelectedFlags.SelectionSound where
  selected_live := fun r chosen => by
    rw [(sameShape_syncSelectedFlags e).isSome_node?]
    exact live r chosen
  flag_eq := fun {k n'} found' => by
    simp only [node?_def, Editor.syncSelectedFlags, Table.get?_map] at found'
    obtain ⟨n, found, rfl⟩ := Option.map_eq_some_iff.mp found'
    simp [named found]

/-- Removing edges keeps the edges sound. -/
theorem EdgesSound.of_sublist {e : Editor} (h : e.EdgesSound) {edges : List Edge}
    (fewer : edges.Sublist e.graph.edges) :
    ({ e with graph := { e.graph with edges } } : Editor).EdgesSound where
  name_eq := h.name_eq
  edge_fits := fun edge listed => h.edge_fits edge (fewer.subset listed)
  edges_nodup := h.edges_nodup.sublist fewer
  one_per_input := fun a aListed b bListed => h.one_per_input a (fewer.subset aListed) b (fewer.subset bListed)

/-- Removing edges keeps the graph sound. -/
theorem GraphSound.of_sublist {e : Editor} (h : e.GraphSound) {edges : List Edge}
    (fewer : edges.Sublist e.graph.edges) :
    ({ e with graph := { e.graph with edges } } : Editor).GraphSound :=
  .of_edgesSound (h.edgesSound.of_sublist fewer) h.keys_nodup h.name_valid h.package_known

/-- The selection's soundness reads only the nodes and the selected list. -/
theorem SelectionSound.of_eq {e e' : Editor} (h : e.SelectionSound)
    (sameNodes : e'.graph.nodes = e.graph.nodes) (sameSelected : e'.selection.selected = e.selection.selected) :
    e'.SelectionSound where
  selected_live := fun r chosen => by
    rw [sameSelected] at chosen
    simpa only [node?_def, sameNodes] using h.selected_live r chosen
  flag_eq := fun {k n} found => by
    rw [node?_def, sameNodes] at found
    rw [h.flag_eq found]
    simp only [Selection.contains, sameSelected]

/-- The invariant reads only the catalog, the graph, the parameters and the selected list. -/
theorem Invariant.of_eq {e e' : Editor} (h : e.Invariant) (sameCatalog : e'.catalog = e.catalog)
    (sameGraph : e'.graph = e.graph) (sameParams : e'.params = e.params)
    (sameSelected : e'.selection.selected = e.selection.selected) : e'.Invariant where
  graph := h.graph.of_sameShape (.of_nodes_eq sameCatalog (by rw [sameGraph])) (by rw [sameGraph])
  params := h.params.of_sameShape (.of_nodes_eq sameCatalog (by rw [sameGraph])) sameParams
  selection := h.selection.of_eq (by rw [sameGraph]) sameSelected

/-- The invariant reads the edges only through the graph's soundness. -/
theorem Invariant.with_edges {e : Editor} (h : e.Invariant) {edges : List Edge}
    (sound : ({ e with graph := { e.graph with edges } } : Editor).GraphSound) :
    ({ e with graph := { e.graph with edges } } : Editor).Invariant :=
  ⟨sound, h.params.of_sameShape (.of_nodes_eq rfl rfl) rfl, h.selection.of_eq rfl rfl⟩

end Editor

end PipelineEditor
