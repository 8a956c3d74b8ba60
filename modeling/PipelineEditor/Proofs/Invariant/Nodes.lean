import PipelineEditor.Proofs.Invariant.Basic

/-! The commands that add, remove, move and select nodes, and that set parameters, keep the invariant. -/

namespace PipelineEditor

namespace Editor

section InsertNode

variable {e : Editor} {n : Node} {params : ParamStore}

/-- The editor with one more node, and the parameters it then has. -/
abbrev withNode (e : Editor) (n : Node) (params : ParamStore) : Editor :=
  { e with graph := { e.graph with nodes := e.graph.nodes.insert n.name n }, params }

theorem withNode_node? (k : String) :
    (e.withNode n params).node? k = if k = n.name then some n else e.node? k := by
  simp

/-- A node that was there stays, as it was, next to a new node of a fresh name. -/
theorem withNode_node?_of_node? (fresh : e.graph.contains n.name = false) {k : String} {m : Node}
    (found : e.node? k = some m) : (e.withNode n params).node? k = some m := by
  rw [withNode_node?, if_neg (ne_of_node?_of_contains found fresh), found]

/-- A node under a fresh name keeps the edges sound: they keep fitting the nodes they join. -/
theorem EdgesSound.withNode (h : e.EdgesSound) (params : ParamStore)
    (fresh : e.graph.contains n.name = false) : (e.withNode n params).EdgesSound where
  name_eq := fun {k m} found => by
    rw [withNode_node?] at found
    split at found
    · cases found
      exact (‹k = n.name›).symm
    · exact h.name_eq found
  edge_fits := fun edge listed =>
    (h.edge_fits edge listed).transfer (show (e.withNode n params).catalog = e.catalog from rfl)
      fun _ _ m found => ⟨m, withNode_node?_of_node? fresh found, rfl⟩
  edges_nodup := h.edges_nodup
  one_per_input := h.one_per_input

theorem GraphSound.withNode (h : e.GraphSound) (params : ParamStore)
    (known : (e.catalog.get? n.package).isSome) (valid : isValidNodeName n.name = true)
    (fresh : e.graph.contains n.name = false) : (e.withNode n params).GraphSound := by
  refine .of_edgesSound (h.edgesSound.withNode params fresh) ?_ (fun {k m} found => ?_) (fun {k m} found => ?_)
  · have absent : n.name ∉ e.graph.nodes.keys := by
      rw [Table.mem_keys_iff]
      simpa using fresh
    exact (Table.keys_insert_perm _ _ _ fresh).nodup_iff.mpr
      (List.nodup_cons.mpr ⟨absent, h.keys_nodup⟩)
  · rw [withNode_node?] at found
    split at found
    · rename_i named
      rw [named]
      exact valid
    · exact h.name_valid found
  · rw [withNode_node?] at found
    split at found
    · cases found
      exact known
    · exact h.package_known found

/-- The any-type keys after adding a node are the old ones and those of the new node. -/
theorem isAnyKey_withNode {s : NodeStructure} (entry : e.catalog.get? n.package = some s)
    (fresh : e.graph.contains n.name = false) (key : String) :
    (e.withNode n params).IsAnyKey key ↔
      e.IsAnyKey key ∨ ∃ p ∈ s.parameter, p.kind.isAny = true ∧ key = anyKey n.name p.name := by
  constructor
  · rintro ⟨k, m, s', p, found, entry', declared, isAny, rfl⟩
    rw [withNode_node?] at found
    split at found
    · rename_i named
      cases found
      have : s' = s := Option.some.inj (entry'.symm.trans entry)
      subst this named
      exact .inr ⟨p, declared, isAny, rfl⟩
    · exact .inl ⟨k, m, s', p, found, entry', declared, isAny, rfl⟩
  · rintro (⟨k, m, s', p, found, entry', declared, isAny, rfl⟩ | ⟨p, declared, isAny, rfl⟩)
    · exact ⟨k, m, s', p, withNode_node?_of_node? fresh found, entry', declared, isAny, rfl⟩
    · exact ⟨n.name, n, s, p, by simp, entry, declared, isAny, rfl⟩

/-- Parameters for a new node: it gets a config holding its declared parameters, and the any-types
of its `any` parameters; every other entry stays. -/
structure NewNodeParams (old new : ParamStore) (name : String) (s : NodeStructure) : Prop where
  configs : ∃ config, (∀ k, new.configs.get? k = if k = name then some config else old.configs.get? k) ∧
    ∀ p ∈ s.parameter, (config.get? p.name).isSome
  anyTypes : ∀ key, (new.anyTypes.get? key).isSome ↔
    (old.anyTypes.get? key).isSome ∨ ∃ p ∈ s.parameter, p.kind.isAny = true ∧ key = anyKey name p.name

theorem newNodeParams_initNode (st : ParamStore) (name : String) (s : NodeStructure) :
    NewNodeParams st (st.initNode name s) name s where
  configs := ⟨_, fun k => ParamStore.initNode_configs_get? st name s k,
    fun _ declared => (Table.isSome_get?_foldl_insert _ _ _ _ _).mpr (.inr ⟨_, declared, rfl⟩)⟩
  anyTypes := ParamStore.isSome_initNode_anyTypes st name s

theorem ParamsSound.withNode (h : e.ParamsSound) {s : NodeStructure}
    (entry : e.catalog.get? n.package = some s) (fresh : e.graph.contains n.name = false)
    (newParams : NewNodeParams e.params params n.name s) : (e.withNode n params).ParamsSound where
  config_live := fun k => by
    obtain ⟨config, stored, -⟩ := newParams.configs
    rw [withNode_node?, stored]
    split
    · rfl
    · exact h.config_live k
  config_complete := fun {k m s'} found entry' p declared => by
    obtain ⟨config, stored, complete⟩ := newParams.configs
    simp only [ParamStore.value?]
    rw [withNode_node?] at found
    rw [stored]
    split at found
    · rename_i named
      cases found
      have : s' = s := Option.some.inj (entry'.symm.trans entry)
      subst this
      simpa [named] using complete p declared
    · rename_i other
      simpa [other, ParamStore.value?] using h.config_complete found entry' p declared
  anyTypes_exact := fun key => by
    rw [newParams.anyTypes, h.anyTypes_exact, isAnyKey_withNode entry fresh]

theorem SelectionSound.withNode (h : e.SelectionSound) (params : ParamStore)
    (unselected : n.selected = false) (fresh : e.graph.contains n.name = false) :
    (e.withNode n params).SelectionSound where
  selected_live := fun r chosen => by
    obtain ⟨m, found⟩ := Option.isSome_iff_exists.mp (h.selected_live r chosen)
    rw [withNode_node?_of_node? fresh found]
    rfl
  flag_eq := fun {k m} found => by
    rw [withNode_node?] at found
    split at found
    · rename_i named
      cases found
      show n.selected = e.selection.contains k
      rw [named]
      cases flagged : e.selection.contains n.name with
      | false => exact unselected
      | true =>
        obtain ⟨r, chosen, sameName⟩ := Selection.contains_iff.mp flagged
        have live := h.selected_live r chosen
        rw [sameName, node?_eq_none_of_contains fresh] at live
        cases live
    · exact h.flag_eq found

/-- Adding an unselected node of a known package under a fresh valid name, with a config for it,
keeps the invariant. -/
theorem Invariant.withNode (h : e.Invariant) {s : NodeStructure}
    (entry : e.catalog.get? n.package = some s) (valid : isValidNodeName n.name = true)
    (fresh : e.graph.contains n.name = false) (unselected : n.selected = false)
    (newParams : NewNodeParams e.params params n.name s) : (e.withNode n params).Invariant where
  graph := h.graph.withNode _ (by simp [entry]) valid fresh
  params := h.params.withNode entry fresh newParams
  selection := h.selection.withNode _ unselected fresh

end InsertNode

/-- A created node keeps the invariant; a name of the catalog's choosing needs the catalog to
name new nodes safely. -/
theorem Invariant.of_create {e e' : Editor} (h : e.Invariant) {package : String}
    {position : Position} {name? : Option String} {n : Node}
    (namesFree : name? = none → e.catalog.NamesFree)
    (ran : (create package position name?).run e = .ok n e') : e'.Invariant := by
  obtain ⟨s, entry, -, named, fresh, built, rfl⟩ := create_run_eq_ok ran
  have valid : isValidNodeName n.name = true := by
    cases name? with
    | some name =>
      obtain ⟨nameValid, -, chosenName⟩ := newNodeName_some_eq_ok.mp named
      rw [chosenName]
      exact nameValid
    | none =>
      rw [newNodeName_none, Except.ok.injEq] at named
      rw [← named]
      exact isValidNodeName_nextNodeName e ((namesFree rfl).baseName entry)
  have samePackage : n.package = package := by rw [built]
  rw [← samePackage] at entry
  exact h.withNode entry valid fresh (by rw [built]) (newNodeParams_initNode _ _ _)

/-- Creating a node keeps the invariant when the catalog names new nodes safely. -/
theorem Invariant.create {e : Editor} (h : e.Invariant) (namesFree : e.catalog.NamesFree)
    (package : String) (position : Position) (name? : Option String) :
    ((create package position name?).after e).Invariant := by
  apply Edit.after_induction
  · intro n e' ran
    exact h.of_create (fun _ => namesFree) ran
  · intro _ e' ran
    rw [create_run_eq_error ran]
    exact h

section RemoveNode

variable {e : Editor} {name : String}

/-- The editor without a node: its entry, its edges, its parameters and its selection entry go. -/
abbrev withoutNode (e : Editor) (name : String) : Editor :=
  { e with
    graph := ⟨e.graph.nodes.erase name,
      e.graph.edges.filter fun b => !(b.fromNode == name || b.toNode == name)⟩
    params := e.params.removeConfig name
    selection := e.selection.forget name }

theorem withoutNode_node? (k : String) :
    (e.withoutNode name).node? k = if k = name then none else e.node? k := by
  simp [Table.get?_erase]

theorem ne_of_withoutNode_node? {k : String} {m : Node} (found : (e.withoutNode name).node? k = some m) :
    k ≠ name ∧ e.node? k = some m := by
  rw [withoutNode_node?] at found
  split at found
  · cases found
  · exact ⟨‹_›, found⟩

/-- Removing a node with its edges keeps the edges sound: the edges left join other nodes. -/
theorem EdgesSound.withoutNode (h : e.EdgesSound) : (e.withoutNode name).EdgesSound where
  name_eq := fun found => h.name_eq (ne_of_withoutNode_node? found).2
  edge_fits := fun edge listed => by
    obtain ⟨listed, kept⟩ := List.mem_filter.mp listed
    have ends : edge.fromNode ≠ name ∧ edge.toNode ≠ name := by simpa using kept
    refine (h.edge_fits edge listed).transfer (show (e.withoutNode name).catalog = e.catalog from rfl) ?_
    rintro k isEnd m found
    have other : k ≠ name := by rcases isEnd with rfl | rfl <;> simp [ends]
    exact ⟨m, by rw [withoutNode_node?, if_neg other, found], rfl⟩
  edges_nodup := h.edges_nodup.sublist List.filter_sublist
  one_per_input := fun a aListed b bListed =>
    h.one_per_input a (List.mem_filter.mp aListed).1 b (List.mem_filter.mp bListed).1

theorem GraphSound.withoutNode (h : e.GraphSound) : (e.withoutNode name).GraphSound := by
  refine .of_edgesSound h.edgesSound.withoutNode ?_ (fun found => ?_) (fun found => ?_)
  · rw [Table.keys_erase]
    exact h.keys_nodup.filter _
  · exact h.name_valid (ne_of_withoutNode_node? found).2
  · exact h.package_known (ne_of_withoutNode_node? found).2

theorem ParamsSound.withoutNode (h : e.ParamsSound) (sound : e.GraphSound) (dollarFree : '$' ∉ name.toList) :
    (e.withoutNode name).ParamsSound where
  config_live := fun k => by
    rw [ParamStore.removeConfig_configs_get?, withoutNode_node?]
    split
    · rfl
    · exact h.config_live k
  config_complete := fun found entry p declared => by
    obtain ⟨other, found⟩ := ne_of_withoutNode_node? found
    simpa [ParamStore.value?, ParamStore.removeConfig_configs_get?, other] using
      h.config_complete found entry p declared
  anyTypes_exact := fun key => by
    rw [ParamStore.isSome_removeConfig_anyTypes, h.anyTypes_exact]
    constructor
    · rintro ⟨⟨k, m, s, p, found, entry, declared, isAny, rfl⟩, notOwn⟩
      have other : k ≠ name := by
        rintro rfl
        exact notOwn p.name rfl
      exact ⟨k, m, s, p, by rw [withoutNode_node?, if_neg other, found], entry, declared, isAny, rfl⟩
    · rintro ⟨k, m, s, p, found, entry, declared, isAny, rfl⟩
      obtain ⟨other, found⟩ := ne_of_withoutNode_node? found
      refine ⟨⟨k, m, s, p, found, entry, declared, isAny, rfl⟩, fun q collide => other ?_⟩
      exact (anyKey_inj (sound.dollar_not_mem found) dollarFree collide).1

theorem SelectionSound.withoutNode (h : e.SelectionSound) : (e.withoutNode name).SelectionSound where
  selected_live := fun r chosen => by
    obtain ⟨chosen, kept⟩ := List.mem_filter.mp chosen
    have otherName : r.name ≠ name := by simpa using kept
    rw [withoutNode_node?, if_neg otherName]
    exact h.selected_live r chosen
  flag_eq := fun {k m} found => by
    obtain ⟨other, found⟩ := ne_of_withoutNode_node? found
    show m.selected = (e.selection.forget name).contains k
    rw [Selection.contains_forget, h.flag_eq found]
    simp [other]

/-- Removing a node whose name holds no `$` keeps the invariant. -/
theorem Invariant.withoutNode (h : e.Invariant) (dollarFree : '$' ∉ name.toList) :
    (e.withoutNode name).Invariant :=
  ⟨h.graph.withoutNode, h.params.withoutNode h.graph dollarFree, h.selection.withoutNode⟩

end RemoveNode

theorem Invariant.delete {e : Editor} (h : e.Invariant) (name : String) :
    ((delete name).after e).Invariant := by
  apply Edit.after_induction
  · intro n e' ran
    obtain ⟨found, rfl⟩ := delete_run_eq_ok ran
    exact h.withoutNode (h.graph.dollar_not_mem found)
  · intro _ e' ran
    rw [delete_run_eq_error ran]
    exact h

theorem sameShape_updateNode (e : Editor) (name : String) (position : Position) :
    SameShape e { e with graph := e.graph.updateNode name fun n => { n with position } } where
  catalog := rfl
  keys := by simp [Graph.updateNode]
  ref := fun k => by
    simp only [node?_def, Graph.updateNode, Table.get?_modify]
    split
    · rw [Option.map_map]
      rfl
    · rfl

theorem Invariant.move {e : Editor} (h : e.Invariant) (name : String) (position : Position) :
    ((move name position).after e).Invariant := by
  apply Edit.after_induction
  · intro _ e' ran
    obtain ⟨-, -, rfl⟩ := move_run_eq_ok ran
    have shape := sameShape_updateNode e name position
    refine ⟨h.graph.of_sameShape shape rfl, h.params.of_sameShape shape rfl, ?_⟩
    refine ⟨fun r chosen => by rw [shape.isSome_node?]; exact h.selection.selected_live r chosen, ?_⟩
    intro k m found
    simp only [node?_def, Graph.updateNode, Table.get?_modify] at found
    split at found
    · obtain ⟨m₀, found₀, rfl⟩ := Option.map_eq_some_iff.mp found
      have flag := h.selection.flag_eq found₀
      exact flag
    · exact h.selection.flag_eq found
  · intro _ e' ran
    rw [move_run_eq_error ran]
    exact h

/-- Changing the selection to live nodes and marking it keeps the invariant. -/
theorem Invariant.reselect {e : Editor} (h : e.Invariant) (selection : Selection)
    (live : ∀ r ∈ selection.selected, (e.node? r.name).isSome) :
    ({ e with selection }).syncSelectedFlags.Invariant := by
  have shape := sameShape_syncSelectedFlags { e with selection }
  have shape' : SameShape e ({ e with selection }).syncSelectedFlags :=
    ⟨shape.catalog, shape.keys, shape.ref⟩
  exact ⟨h.graph.of_sameShape shape' rfl, h.params.of_sameShape shape' rfl,
    SelectionSound.syncSelectedFlags h.graph.name_eq live⟩

/-- Changing the selection and reflagging the nodes keeps the edges sound. -/
theorem EdgesSound.reselect {e : Editor} (h : e.EdgesSound) (selection : Selection) :
    ({ e with selection }).syncSelectedFlags.EdgesSound :=
  h.of_sameShape ⟨rfl, (sameShape_syncSelectedFlags { e with selection }).keys,
    (sameShape_syncSelectedFlags { e with selection }).ref⟩ rfl

theorem Invariant.select {e : Editor} (h : e.Invariant) (name : String) (additive : Bool) :
    ((select name additive).after e).Invariant := by
  apply Edit.after_induction
  · intro _ e' ran
    obtain ⟨n, found, rfl⟩ := select_run_eq_ok ran
    refine h.reselect _ fun r chosen => ?_
    rcases Selection.mem_select chosen with chosen | rfl
    · exact h.selection.selected_live r chosen
    · show (e.node? n.name).isSome
      rw [h.graph.name_eq found, found]
      rfl
  · intro _ e' ran
    rw [select_run_eq_error ran]
    exact h

theorem Invariant.clearSelection {e : Editor} (h : e.Invariant) :
    (clearSelection.after e).Invariant := by
  rw [clearSelection_after]
  exact h.reselect _ fun r chosen => by simp [Selection.clear] at chosen

theorem Invariant.markDoubleClick {e : Editor} (h : e.Invariant) :
    (markDoubleClick.after e).Invariant := by
  rw [markDoubleClick_after]
  exact h.of_eq rfl rfl rfl rfl

theorem Invariant.takeDoubleClick {e : Editor} (h : e.Invariant) :
    (takeDoubleClick.after e).Invariant := by
  rw [takeDoubleClick_after]
  exact h.of_eq rfl rfl rfl rfl

theorem Invariant.setTransform {e : Editor} (h : e.Invariant) (t : ViewTransform) :
    ((setTransform t).after e).Invariant :=
  h.of_eq rfl rfl rfl rfl

/-- The editor of a catalog alone satisfies the invariant. -/
theorem invariant_ofCatalog (c : Catalog) : (ofCatalog c).Invariant where
  graph := {
    keys_nodup := by simp [ofCatalog, Graph.empty, Table.empty, Table.keys]
    name_eq := fun found => by simp [ofCatalog, Graph.empty] at found
    name_valid := fun found => by simp [ofCatalog, Graph.empty] at found
    package_known := fun found => by simp [ofCatalog, Graph.empty] at found
    edge_fits := by simp [ofCatalog, Graph.empty]
    edges_nodup := by simp [ofCatalog, Graph.empty]
    one_per_input := by simp [ofCatalog, Graph.empty] }
  params := {
    config_live := fun k => by simp [ofCatalog, ParamStore.empty, Graph.empty]
    config_complete := fun found => by simp [ofCatalog, Graph.empty] at found
    anyTypes_exact := fun key => by simp [ofCatalog, ParamStore.empty, IsAnyKey, Graph.empty] }
  selection := {
    selected_live := by simp [ofCatalog, Selection.empty]
    flag_eq := fun found => by simp [ofCatalog, Graph.empty] at found }

theorem Invariant.reset {e : Editor} : (reset.after e).Invariant := by
  rw [reset_after]
  exact invariant_ofCatalog _

/-- Storing a value in a node's config keeps the invariant: that node already had a config. -/
theorem Invariant.withValue {e : Editor} (h : e.Invariant) {node param : String} {value : Json}
    {params : ParamStore} (updated : e.params.setValue node param value = .ok params) :
    ({ e with params }).Invariant := by
  obtain ⟨config, hadConfig, rfl⟩ := ParamStore.setValue_eq_ok.mp updated
  have shape : SameShape e { e with params := { e.params with
      configs := e.params.configs.insert node (config.insert param value) } } :=
    .of_nodes_eq rfl rfl
  refine ⟨h.graph.of_sameShape shape rfl, ⟨fun k => ?_, fun {k m s} found entry p declared => ?_, h.params.anyTypes_exact⟩,
    h.selection.of_eq rfl rfl⟩
  · by_cases same : k = node
    · subst same
      simpa [hadConfig] using h.params.config_live k
    · simpa [same] using h.params.config_live k
  · have before := h.params.config_complete found entry p declared
    by_cases same : k = node
    · subst same
      by_cases sameParam : p.name = param <;> simp_all [ParamStore.value?]
    · simpa [ParamStore.value?, same] using before

theorem Invariant.setParam {e : Editor} (h : e.Invariant) (node param : String) (value : Json) :
    ((setParam node param value).after e).Invariant := by
  apply Edit.after_induction
  · intro _ e' ran
    obtain ⟨params, updated, rfl⟩ := setParam_run_eq_ok ran
    exact h.withValue updated
  · intro _ e' ran
    rw [setParam_run_eq_error ran]
    exact h

/-- Choosing a concrete type keeps the invariant: the key already had an entry. -/
theorem Invariant.withAnyType {e : Editor} (h : e.Invariant) {node param concrete : String}
    {params : ParamStore} (updated : e.params.setAnyType node param concrete = .ok params) :
    ({ e with params }).Invariant := by
  obtain ⟨present, rfl⟩ := ParamStore.setAnyType_eq_ok.mp updated
  have shape : SameShape e { e with params := { e.params with
      anyTypes := e.params.anyTypes.insert (anyKey node param) concrete } } :=
    .of_nodes_eq rfl rfl
  refine ⟨h.graph.of_sameShape shape rfl, ⟨h.params.config_live, h.params.config_complete,
    fun key => ?_⟩, h.selection.of_eq rfl rfl⟩
  show _ ↔ e.IsAnyKey key
  rw [← h.params.anyTypes_exact key]
  by_cases same : key = anyKey node param
  · subst same
    simp [present]
  · simp [same]

theorem Invariant.setAnyType {e : Editor} (h : e.Invariant) (node param concrete : String) :
    ((setAnyType node param concrete).after e).Invariant := by
  apply Edit.after_induction
  · intro _ e' ran
    obtain ⟨params, updated, rfl⟩ := setAnyType_run_eq_ok ran
    exact h.withAnyType updated
  · intro _ e' ran
    rw [setAnyType_run_eq_error ran]
    exact h

end Editor

end PipelineEditor
