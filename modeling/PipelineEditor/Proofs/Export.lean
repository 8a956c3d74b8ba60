import PipelineEditor.Export.Basic
import PipelineEditor.Proofs.Commands.Copy
import PipelineEditor.Proofs.Graph.RunningOrder
import PipelineEditor.Proofs.Invariant.AnyCatalog
import PipelineEditor.Proofs.Invariant.Packages
import PipelineEditor.Proofs.Loading.Script
import PipelineEditor.Proofs.Loading.Snapshot

/-! Execution configs are complete and ordered for every store whose orders keep their contract. -/

namespace PipelineEditor

/-- A map that answers on every item answers on the list, item by item. -/
theorem mapM_eq_ok_of_forall {ε α β : Type} {f : α → Except ε β} :
    ∀ {l : List α}, (∀ x ∈ l, ∃ y, f x = .ok y) →
      ∃ ys, l.mapM f = .ok ys ∧ List.Forall₂ (fun x y => f x = .ok y) l ys
  | [], _ => ⟨[], rfl, .nil⟩
  | x :: rest, answers => by
    obtain ⟨y, answered⟩ := answers x List.mem_cons_self
    obtain ⟨ys, restMapped, each⟩ := mapM_eq_ok_of_forall fun z listed => answers z (List.mem_cons_of_mem x listed)
    refine ⟨y :: ys, ?_, .cons answered each⟩
    simp [List.mapM_cons, answered, restMapped, bind, Except.bind, pure, Except.pure]

namespace Editor

/-- A library the pipeline depends on: the lower-cased library tag, neither empty nor `custom`, of
a package without user code that some node uses. -/
def UsesLibrary (e : Editor) (library : String) : Prop :=
  ∃ k n s, e.node? k = some n ∧ e.catalog.get? n.package = some s ∧ s.isCustom = false ∧
    library = toLowerFull s.tags.library ∧ library ≠ "" ∧ library ≠ customLibraryTag

/-- An entry of an execution config describes the node of its id: that node's package, or the
custom node's for a package with user code, and the code; the node's parameters without the
`null`s; and the edges that leave the node, in the order the graph keeps them. -/
structure EntryFaithful (e : Editor) (x : ExecutionNode) : Prop where
  node : ∃ n s, e.node? x.nodeId = some n ∧ n.name = x.nodeId ∧ e.catalog.get? n.package = some s ∧
    x.node = (if s.isCustom then customNodePackage else n.package) ∧ x.custom = s.custom
  parameters : ∀ p v, x.parameters.get? p = some v ↔ e.params.value? x.nodeId p = some v ∧ v ≠ .null
  next : x.next.map (fun l => (⟨x.nodeId, l.fromPort, l.toNode, l.toPort⟩ : Edge)) =
    e.graph.edges.filter (·.fromNode = x.nodeId)

/-- What an execution config built under the store's orders says of the editor: it runs the
pipeline `uid` against `repository`, lists every node once, in the store's running order when it
gives one and in its storage order when it does not, describes each node, lists the libraries in
use sorted and each once, and carries the snapshot. -/
structure ExportFaithful (e : Editor) (orders : StoreOrders) (repository uid : String)
    (cfg : ExecutionConfig) : Prop where
  uid : cfg.pipelineUid = uid
  repository : cfg.repository = repository
  ids : (cfg.nodes.map (·.nodeId)).Perm e.graph.nodes.keys
  entries : ∀ x ∈ cfg.nodes, e.EntryFaithful x
  running : ∀ order, orders.runningOrder = .ok order → cfg.nodes.map (·.nodeId) = order
  forward : ¬ e.graph.HasCycle →
    ∀ edge ∈ e.graph.edges, [edge.fromNode, edge.toNode].Sublist (cfg.nodes.map (·.nodeId))
  fallback : e.graph.HasCycle → cfg.nodes.map (·.nodeId) = orders.storage.map Node.name
  dependencies_sorted : cfg.dependencies.Pairwise (· < ·)
  dependencies : ∀ library, library ∈ cfg.dependencies ↔ e.UsesLibrary library
  ui : cfg.ui = e.snapshot

section Entries

variable {e : Editor}

theorem executionNode_eq_ok {n : Node} {x : ExecutionNode} :
    e.executionNode n = .ok x ↔ ∃ s, e.catalog.get? n.package = some s ∧
      x = { nodeId := n.name
            node := if s.isCustom then customNodePackage else n.package
            parameters := ((e.params.config? n.name).getD Table.empty).filter fun _ v => !v.isNull
            custom := s.custom
            next := (e.graph.outgoingEdges n.name).map fun edge =>
              ⟨edge.toNode, edge.fromPort, edge.toPort⟩ } := by
  unfold executionNode Catalog.structure?
  cases e.catalog.get? n.package with
  | none => simp [bind, Except.bind]
  | some s =>
    simp only [bind, Except.bind, pure, Except.pure, Except.ok.injEq, Option.some.injEq,
      exists_eq_left']
    exact eq_comm

theorem get?_parameters (n : Node) (p : String) (v : Json) :
    ((((e.params.config? n.name).getD Table.empty).filter fun _ v => !v.isNull).get? p = some v) ↔
      e.params.value? n.name p = some v ∧ v ≠ .null := by
  rw [Table.get?_filter_value, Option.filter_eq_some_iff]
  unfold ParamStore.config? ParamStore.value?
  cases e.params.configs.get? n.name with
  | none => simp
  | some config => cases v <;> simp [Json.isNull]

/-- The links of a node, each read back as an edge from it, are the edges that leave it. -/
theorem links_outgoingEdges (g : Graph) (name : String) :
    ((g.outgoingEdges name).map fun edge => (⟨edge.toNode, edge.fromPort, edge.toPort⟩ : OutgoingLink)).map
        (fun l => (⟨name, l.fromPort, l.toNode, l.toPort⟩ : Edge)) =
      g.edges.filter (·.fromNode = name) := by
  rw [List.map_map, Graph.outgoingEdges]
  conv => rhs; rw [← List.map_id (g.edges.filter _)]
  apply List.map_congr_left
  intro edge leaving
  have fromName : edge.fromNode = name := by simpa using (List.mem_filter.mp leaving).2
  simp [← fromName]

/-- The description of a node of a known package is a faithful entry. -/
theorem entryFaithful_of_executionNode {n : Node} {x : ExecutionNode}
    (found : e.node? n.name = some n) (described : e.executionNode n = .ok x) : e.EntryFaithful x := by
  obtain ⟨s, known, rfl⟩ := executionNode_eq_ok.mp described
  exact ⟨⟨n, s, found, rfl, known, rfl, rfl⟩, get?_parameters n, links_outgoingEdges e.graph n.name⟩

end Entries

section Order

variable {e : Editor}

/-- Every edge of sound edges joins two stored nodes. -/
theorem EdgesSound.ends_mem_keys (h : e.EdgesSound) :
    ∀ edge ∈ e.graph.edges, edge.fromNode ∈ e.graph.nodes.keys ∧ edge.toNode ∈ e.graph.nodes.keys := by
  intro edge stored
  obtain ⟨-, a, b, fromTyped, toTyped, -⟩ := h.edge_fits edge stored
  have fromKey := contains_of_portType_eq_ok fromTyped
  have toKey := contains_of_portType_eq_ok toTyped
  simp only [Graph.contains, Table.contains_eq_isSome] at fromKey toKey
  exact ⟨(Table.mem_keys_iff _ _).mpr fromKey, (Table.mem_keys_iff _ _).mpr toKey⟩

/-- A node looked up by a name is stored under its own name. -/
theorem node?_of_mem_filterMap (h : e.EdgesSound) {names : List String} {n : Node}
    (listed : n ∈ names.filterMap e.graph.node?) : e.node? n.name = some n := by
  obtain ⟨k, -, found⟩ := List.mem_filterMap.mp listed
  rw [h.name_eq found]
  exact found

variable {orders : StoreOrders}

/-- With a running order of the stored names, the nodes to export are the stored nodes of its
names, in its order. -/
theorem exportOrder_of_ok (h : e.EdgesSound) {order : List String}
    (sorted : orders.runningOrder = .ok order) (perm : order.Perm e.graph.nodes.keys) :
    (e.exportOrder orders).map Node.name = order ∧
      ∀ n ∈ e.exportOrder orders, e.node? n.name = some n := by
  unfold exportOrder
  rw [sorted]
  exact ⟨names_filterMap_node? h fun k listed => (Table.mem_keys_iff _ _).mp (perm.mem_iff.mp listed),
    fun n listed => node?_of_mem_filterMap h listed⟩

/-- Every node to export under lawful orders is stored under its name. -/
theorem exportOrder_live (h : e.EdgesSound) (lawful : orders.Lawful e.graph) :
    ∀ n ∈ e.exportOrder orders, e.node? n.name = some n := by
  rcases sorted : orders.runningOrder with err | order
  · intro n listed
    unfold exportOrder at listed
    rw [sorted] at listed
    exact (Graph.mem_nodeList_iff h.name_eq).mp (lawful.storage.mem_iff.mp listed)
  · exact (exportOrder_of_ok h sorted (lawful.of_ok sorted).2.perm).2

end Order

section Dependencies

variable {e : Editor}

/-- The dependencies ascend strictly, so each is listed once. -/
theorem dependencies_ascending (e : Editor) : e.dependencies.Pairwise (· < ·) :=
  List.pairwise_map.mpr (Table.ofList _).ascending

/-- The dependencies are exactly the libraries in use. -/
theorem mem_dependencies_iff (named : ∀ {k n}, e.node? k = some n → n.name = k)
    (library : String) : library ∈ e.dependencies ↔ e.UsesLibrary library := by
  unfold dependencies
  rw [Table.mem_keys_iff, Table.ofList, Table.isSome_get?_foldl_insert _ Prod.fst Prod.snd]
  simp only [Table.get?_empty, Option.isSome_none, Bool.false_eq_true, false_or, List.mem_map,
    List.mem_filterMap]
  constructor
  · rintro ⟨_, ⟨t, ⟨s, ⟨n, listed, known⟩, tagged⟩, rfl⟩, rfl⟩
    refine ⟨n.name, n, s, (Graph.mem_nodeList_iff named).mp listed, known, ?_⟩
    -- the tag of a package with user code, or an empty or `custom` tag, names no library
    split at tagged
    · cases tagged
    · rename_i plain
      split at tagged
      · cases tagged
      · rename_i tagOk
        cases tagged
        simp only [Bool.or_eq_true, String.isEmpty_iff, beq_iff_eq, not_or] at tagOk
        exact ⟨by simpa using plain, rfl, tagOk⟩
  · rintro ⟨k, n, s, found, known, plain, rfl, nonempty, notCustomTag⟩
    refine ⟨(toLowerFull s.tags.library, ()), ⟨_, ⟨s, ⟨n, Graph.mem_nodeList_of_node? found, known⟩, ?_⟩, rfl⟩, rfl⟩
    simp [plain, nonempty, notCustomTag]

end Dependencies

section Build

variable {e : Editor}

theorem nodeId_of_executionNode {n : Node} {x : ExecutionNode} (described : e.executionNode n = .ok x) :
    x.nodeId = n.name := by
  obtain ⟨s, -, rfl⟩ := executionNode_eq_ok.mp described
  rfl

/-- Entries described one by one carry the names of their nodes, in order. -/
theorem nodeIds_of_forall₂ {nodes : List Node} {entries : List ExecutionNode}
    (h : List.Forall₂ (fun n x => e.executionNode n = .ok x) nodes entries) :
    entries.map (·.nodeId) = nodes.map Node.name := by
  induction h with
  | nil => rfl
  | cons described _ ih => rw [List.map_cons, List.map_cons, ih, nodeId_of_executionNode described]

theorem exists_of_mem_forall₂ {nodes : List Node} {entries : List ExecutionNode}
    (h : List.Forall₂ (fun n x => e.executionNode n = .ok x) nodes entries) :
    ∀ x ∈ entries, ∃ n ∈ nodes, e.executionNode n = .ok x := by
  induction h with
  | nil => simp
  | cons described _ ih =>
    intro x listed
    rcases List.mem_cons.mp listed with rfl | listed
    · exact ⟨_, List.mem_cons_self, described⟩
    · obtain ⟨n, listed', described'⟩ := ih x listed
      exact ⟨n, List.mem_cons_of_mem _ listed', described'⟩

/-- Under lawful orders the ids of the entries name every node once: they are the store's running
order when it gives one, so every edge runs forward when no edges close a cycle, and the store's
storage order when some do. -/
theorem exportIds_ordered (sound : e.EdgesSound) (lawful : orders.Lawful e.graph) {ids : List String}
    (idsAre : ids = (e.exportOrder orders).map Node.name) :
    ids.Perm e.graph.nodes.keys ∧ (∀ order, orders.runningOrder = .ok order → ids = order) ∧
      (¬ e.graph.HasCycle → ∀ edge ∈ e.graph.edges, [edge.fromNode, edge.toNode].Sublist ids) ∧
      (e.graph.HasCycle → ids = orders.storage.map Node.name) := by
  rcases sorted : orders.runningOrder with err | order
  · have cycle := lawful.of_error sorted
    have stored : ids = orders.storage.map Node.name := by
      rw [idsAre, exportOrder, sorted]
    refine ⟨stored ▸ lawful.storage_names sound.name_eq, fun order failed => ?_,
      fun acyclic => absurd cycle acyclic, fun _ => stored⟩
    cases failed
  · obtain ⟨acyclic, running⟩ := lawful.of_ok sorted
    have named : ids = order := idsAre.trans (exportOrder_of_ok sound sorted running.perm).1
    refine ⟨named ▸ running.perm, fun order' sorted' => ?_, fun _ => named ▸ running.forward,
      fun cycle => absurd cycle acyclic⟩
    cases sorted'
    exact named

/-- In an editor with sound edges whose packages all have entries, under lawful orders, every
non-empty repository gets a faithful config. -/
theorem buildExecutionConfig_faithful (sound : e.EdgesSound) (known : e.PackagesKnown)
    (lawful : orders.Lawful e.graph) {repository : String} (given : repository ≠ "") (uid : String) :
    ∃ cfg, e.buildExecutionConfig orders (some repository) uid = .ok cfg ∧
      e.ExportFaithful orders repository uid cfg := by
  have live := exportOrder_live sound lawful
  obtain ⟨entries, mapped, each⟩ := mapM_eq_ok_of_forall (f := e.executionNode) fun n listed => by
    obtain ⟨s, declared⟩ := Option.isSome_iff_exists.mp (known n.name n (live n listed))
    exact ⟨_, executionNode_eq_ok.mpr ⟨s, declared, rfl⟩⟩
  obtain ⟨perm, running, forward, fallback⟩ :=
    exportIds_ordered sound lawful (nodeIds_of_forall₂ each)
  refine ⟨⟨uid, repository, entries, e.dependencies, e.snapshot⟩, ?_,
    ⟨rfl, rfl, perm, fun x entry => ?_, running, forward, fallback, dependencies_ascending e,
      mem_dependencies_iff sound.name_eq, rfl⟩⟩
  · have notEmpty : repository.isEmpty = false := by simpa using given
    simp [buildExecutionConfig, notEmpty, mapped, bind, Except.bind, pure, Except.pure]
  · obtain ⟨n, listed, described⟩ := exists_of_mem_forall₂ each x entry
    exact entryFaithful_of_executionNode (live n listed) described

end Build

/-- In every editor a run reaches from any catalog, under any store orders that keep their
contract, an execution config is refused exactly for a missing or empty repository, and for any
other it describes the editor faithfully: every node once under its name, in the store's running
order when no edges close a cycle and in its storage order when some do, with its package, code,
non-null parameters and outgoing edges, the libraries in use sorted and each once, and the
snapshot. -/
theorem execution_config_complete_and_ordered (c : Catalog) (actions : List Action)
    (orders : StoreOrders) (lawful : orders.Lawful (replay actions (ofCatalog c)).graph)
    (repository : Option String) (uid : String) :
    ((replay actions (ofCatalog c)).buildExecutionConfig orders repository uid =
          .error .missingRepository ↔ repository = none ∨ repository = some "") ∧
      ∀ r, repository = some r → r ≠ "" → ∃ cfg,
        (replay actions (ofCatalog c)).buildExecutionConfig orders repository uid = .ok cfg ∧
          (replay actions (ofCatalog c)).ExportFaithful orders r uid cfg := by
  have builds := fun r (nonempty : r ≠ "") => buildExecutionConfig_faithful
    (edgesSound_replay c actions) (packagesKnown_replay c actions) lawful nonempty uid
  refine ⟨⟨fun refused => ?_, ?_⟩, ?_⟩
  · rcases repository with _ | r
    · exact .inl rfl
    · by_cases nonempty : r = ""
      · exact .inr (by rw [nonempty])
      · obtain ⟨cfg, built, -⟩ := builds r nonempty
        rw [built] at refused
        cases refused
  · rintro (rfl | rfl) <;> rfl
  · rintro r rfl nonempty
    exact builds r nonempty

/-- A catalog of a pandas reader with the output `frame` and a custom step with the input
`frame`. -/
def readerCatalog : Catalog := Catalog.ofStructures
  [{ package := "pkg.Read", clazz := "Read", output := Table.ofList [("frame", ⟨"DataFrame"⟩)],
     tags := { library := "Pandas" } },
   { package := "pkg.Step", clazz := "Step", input := Table.ofList [("frame", ⟨"DataFrame"⟩)],
     custom := some ⟨"step", "def step(frame): return frame"⟩ }]

/-- The reader `read` feeding the custom step `step`. -/
def readerRun : List Action :=
  [.create "pkg.Read" ⟨0, 0⟩ (some "read"), .create "pkg.Step" ⟨0, 0⟩ (some "step"),
   .connect "read" "frame" "step" "frame"]

theorem execution_config_of_reader_run :
    let e := replay readerRun (ofCatalog readerCatalog)
    e.graph.nameOrders.Lawful e.graph ∧ ∃ cfg,
      e.buildExecutionConfig e.graph.nameOrders (some "repo") "7" = .ok cfg ∧
        e.ExportFaithful e.graph.nameOrders "repo" "7" cfg :=
  have lawful := Graph.nameOrders_lawful (edgesSound_replay readerCatalog readerRun).ends_mem_keys
  ⟨lawful, (execution_config_complete_and_ordered readerCatalog readerRun _ lawful (some "repo") "7").2
    "repo" rfl (by decide)⟩

end Editor

end PipelineEditor
