import PipelineEditor.Snapshot.Load
import PipelineEditor.Proofs.Invariant.Edges

/-! Loading a snapshot builds a sound editor, or changes nothing. -/

namespace PipelineEditor

namespace Editor

section Steps

variable {e e' : Editor}

/-- The editor with snapshot nodes added, each under its name and unselected. -/
def addNodes (e : Editor) (nodes : List (String × Node)) : Editor :=
  nodes.foldl (fun e p => { e with graph := { e.graph with
    nodes := e.graph.nodes.insert p.2.name { p.2 with selected := false } } }) e

/-- Snapshot nodes fit an editor when each key is its node's name, valid, of a known package and
not taken, and no key comes twice. -/
def NodesFit (e : Editor) (nodes : List (String × Node)) : Prop :=
  (∀ p ∈ nodes, p.1 = p.2.name ∧ isValidNodeName p.1 = true ∧ (e.catalog.get? p.2.package).isSome ∧
    e.graph.contains p.1 = false) ∧ (nodes.map Prod.fst).Nodup

theorem contains_insert_eq_false {g : Graph} {name k : String} {n : Node} :
    ({ g with nodes := g.nodes.insert name n } : Graph).contains k = false ↔
      k ≠ name ∧ g.contains k = false := by
  by_cases atName : k = name <;> simp [atName]

/-- Adding one more node keeps the others fitting exactly when their keys differ from its name. -/
theorem nodesFit_cons {name : String} {n : Node} {rest : List (String × Node)} :
    NodesFit e ((name, n) :: rest) ↔
      (name = n.name ∧ isValidNodeName name = true ∧ (e.catalog.get? n.package).isSome ∧
        e.graph.contains n.name = false) ∧
      NodesFit { e with graph := { e.graph with
        nodes := e.graph.nodes.insert n.name { n with selected := false } } } rest := by
  simp only [NodesFit, List.mem_cons, forall_eq_or_imp, List.map_cons, List.nodup_cons,
    List.mem_map, contains_insert_eq_false]
  constructor
  · rintro ⟨⟨⟨rfl, valid, known, free⟩, restFit⟩, fresh, distinct⟩
    refine ⟨⟨rfl, valid, known, free⟩, fun q qListed => ?_, distinct⟩
    obtain ⟨qName, qValid, qKnown, qFree⟩ := restFit q qListed
    exact ⟨qName, qValid, qKnown, fun same => fresh ⟨q, qListed, same⟩, qFree⟩
  · rintro ⟨⟨rfl, valid, known, free⟩, restFit, distinct⟩
    refine ⟨⟨⟨rfl, valid, known, free⟩, fun q qListed => ?_⟩, ?_, distinct⟩
    · obtain ⟨qName, qValid, qKnown, -, qFree⟩ := restFit q qListed
      exact ⟨qName, qValid, qKnown, qFree⟩
    · rintro ⟨q, qListed, same⟩
      exact (restFit q qListed).2.2.2.1 same

/-- Staging nodes succeeds exactly when they fit; it adds them, unselected, and keeps the
references of those marked selected, in order. -/
theorem stageNodes_eq_ok {selected selected' : List NodeRef} {nodes : List (String × Node)} :
    stageNodes e selected nodes = .ok (e', selected') ↔
      NodesFit e nodes ∧ e' = e.addNodes nodes ∧
        selected' = selected ++ (nodes.filter (·.2.selected)).map (·.2.ref) := by
  induction nodes generalizing e selected with
  | nil =>
    simp only [stageNodes, Except.ok.injEq, Prod.mk.injEq, NodesFit, List.not_mem_nil,
      false_imp_iff, implies_true, List.map_nil, List.nodup_nil, and_self, true_and, addNodes,
      List.foldl_nil, List.filter_nil, List.append_nil]
    constructor <;> rintro ⟨sameE, sameSel⟩ <;> exact ⟨sameE.symm, sameSel.symm⟩
  | cons p rest ih =>
    obtain ⟨name, n⟩ := p
    rw [stageNodes_cons_eq_ok, ih, nodesFit_cons]
    simp only [addNodes, List.foldl_cons, List.filter_cons]
    cases n.selected with
    | false => simp only [Bool.false_eq_true, ↓reduceIte, and_assoc]
    | true =>
      simp only [↓reduceIte, List.append_assoc, List.cons_append, List.nil_append, List.map_cons,
        and_assoc]

/-- Staging configs succeeds exactly when each belongs to a node; they are stored in order, a
later config of a node replacing an earlier one. -/
theorem stageConfigs_eq_ok {configs : List (String × NodeConfig)} :
    stageConfigs e configs = .ok e' ↔
      (∀ p ∈ configs, e.graph.contains p.1 = true) ∧
        e' = { e with params := configs.foldl (fun st p => st.insertConfig p.1 p.2) e.params } := by
  induction configs generalizing e with
  | nil =>
    simp only [stageConfigs, Except.ok.injEq, List.not_mem_nil, false_imp_iff, implies_true,
      List.foldl_nil, true_and]
    exact ⟨Eq.symm, Eq.symm⟩
  | cons p rest ih =>
    obtain ⟨name, config⟩ := p
    rw [stageConfigs_cons_eq_ok, ih]
    simp only [List.mem_cons, forall_eq_or_imp, List.foldl_cons, and_assoc]

/-- Staging chosen any-types succeeds exactly when each key belongs to a node; they are stored in
order. -/
theorem stageAnyTypes_eq_ok {anyTypes : List (String × String)} :
    stageAnyTypes e anyTypes = .ok e' ↔
      (∀ p ∈ anyTypes, (e.graph.nodeList.any fun n => (anyKeyParam? p.1 n.name).isSome) = true) ∧
        e' = { e with params := anyTypes.foldl (fun st p => st.insertAnyType p.1 p.2) e.params } := by
  induction anyTypes generalizing e with
  | nil =>
    simp only [stageAnyTypes, Except.ok.injEq, List.not_mem_nil, false_imp_iff, implies_true,
      List.foldl_nil, true_and]
    exact ⟨Eq.symm, Eq.symm⟩
  | cons p rest ih =>
    obtain ⟨key, concrete⟩ := p
    rw [stageAnyTypes_cons_eq_ok, ih]
    simp only [List.mem_cons, forall_eq_or_imp, List.foldl_cons, and_assoc]

/-- Giving nodes their starting parameters one by one adds a config for each, and any-types keyed
under them. -/
theorem foldlM_initNode_eq_ok {l : List Node}
    (h : l.foldlM (fun e n => do
      let s ← e.catalog.structure? n.package
      pure { e with params := e.params.initNode n.name s }) e = .ok e') :
    ∃ params, e' = { e with params } ∧
      (∀ k, (params.configs.get? k).isSome ↔ (e.params.configs.get? k).isSome ∨ ∃ n ∈ l, n.name = k) ∧
      (∀ key, (params.anyTypes.get? key).isSome →
        (e.params.anyTypes.get? key).isSome ∨ ∃ n ∈ l, ∃ p, key = anyKey n.name p) := by
  induction l generalizing e with
  | nil =>
    refine ⟨e.params, ?_, fun k => by simp, fun key typed => .inl typed⟩
    cases h
    rfl
  | cons n rest ih =>
    simp only [List.foldlM_cons, Except.bind_eq_ok, pure, Except.pure, Except.ok.injEq] at h
    obtain ⟨e₁, ⟨s, -, rfl⟩, restRan⟩ := h
    obtain ⟨params, rfl, configsLive, anyOwned⟩ := ih restRan
    refine ⟨params, rfl, fun k => ?_, fun key typed => ?_⟩
    · rw [configsLive k, ParamStore.initNode_configs_get?]
      by_cases atName : k = n.name
      · subst atName
        simp
      · simp [atName, Ne.symm atName]
    · rcases anyOwned key typed with typed | ⟨m, listed', p, rfl⟩
      · rcases (ParamStore.isSome_initNode_anyTypes _ _ _ _).mp typed with typed | ⟨p, -, -, rfl⟩
        · exact .inl typed
        · exact .inr ⟨n, List.mem_cons_self, p.name, rfl⟩
      · exact .inr ⟨m, List.mem_cons_of_mem _ listed', p, rfl⟩

/-- Connecting edges one by one keeps the graph sound, and changes only the edges. -/
theorem GraphSound.connectAll (h : e.GraphSound) {edges : List Edge}
    (ran : connectAll e edges = .ok e') :
    e'.GraphSound ∧ ∃ es, e' = { e with graph := { e.graph with edges := es } } := by
  induction edges generalizing e with
  | nil =>
    simp only [Editor.connectAll, Except.ok.injEq] at ran
    subst ran
    exact ⟨h, e.graph.edges, rfl⟩
  | cons edge rest ih =>
    obtain ⟨added, e₁, connected, restRan⟩ := connectAll_cons_eq_ok.mp ran
    have sound₁ := h.connect_ok connected
    obtain ⟨es₁, rfl⟩ := connect_ok_edges connected
    obtain ⟨sound₂, es, rfl⟩ := ih sound₁ restRan
    exact ⟨sound₂, es, rfl⟩

theorem foldl_insertConfig (l : List (String × NodeConfig)) (st : ParamStore) :
    l.foldl (fun st p => st.insertConfig p.1 p.2) st =
      ⟨l.foldl (fun t p => t.insert p.1 p.2) st.configs, st.anyTypes⟩ := by
  induction l generalizing st with
  | nil => rfl
  | cons p rest ih => exact ih _

theorem foldl_insertAnyType (l : List (String × String)) (st : ParamStore) :
    l.foldl (fun st p => st.insertAnyType p.1 p.2) st =
      ⟨st.configs, l.foldl (fun t p => t.insert p.1 p.2) st.anyTypes⟩ := by
  induction l generalizing st with
  | nil => rfl
  | cons p rest ih => exact ih _

end Steps

section AddNodes

variable {e : Editor} {nodes : List (String × Node)}

/-- Adding snapshot nodes changes only the node table. -/
theorem addNodes_eq (e : Editor) (nodes : List (String × Node)) :
    e.addNodes nodes = { e with graph := { e.graph with
      nodes := nodes.foldl (fun t p => t.insert p.2.name { p.2 with selected := false })
        e.graph.nodes } } := by
  induction nodes generalizing e with
  | nil => rfl
  | cons p rest ih => exact ih _

/-- Adding fitting nodes keeps the graph sound. -/
theorem GraphSound.addNodes (h : e.GraphSound) (fit : NodesFit e nodes) :
    (e.addNodes nodes).GraphSound := by
  induction nodes generalizing e with
  | nil => exact h
  | cons p rest ih =>
    obtain ⟨name, n⟩ := p
    obtain ⟨⟨rfl, valid, known, free⟩, restFit⟩ := nodesFit_cons.mp fit
    exact ih (h.withNode (n := { n with selected := false }) e.params known valid free) restFit

/-- Adding fitting nodes keeps the nodes that were there. -/
theorem addNodes_node?_of_node? (fit : NodesFit e nodes) {k : String} {m : Node}
    (found : e.node? k = some m) : (e.addNodes nodes).node? k = some m := by
  induction nodes generalizing e with
  | nil => exact found
  | cons p rest ih =>
    obtain ⟨name, n⟩ := p
    obtain ⟨⟨rfl, -, -, free⟩, restFit⟩ := nodesFit_cons.mp fit
    have kept : (e.withNode { n with selected := false } e.params).node? k = some m :=
      withNode_node?_of_node? (n := { n with selected := false }) free found
    exact ih restFit kept

/-- Each fitting node is added under its name, unselected. -/
theorem addNodes_node?_of_mem (fit : NodesFit e nodes) {p : String × Node} (given : p ∈ nodes) :
    (e.addNodes nodes).node? p.2.name = some { p.2 with selected := false } := by
  induction nodes generalizing e with
  | nil => cases given
  | cons q rest ih =>
    obtain ⟨name, n⟩ := q
    obtain ⟨⟨rfl, -, -, -⟩, restFit⟩ := nodesFit_cons.mp fit
    rcases List.mem_cons.mp given with rfl | given
    · apply addNodes_node?_of_node? restFit
      simp
    · exact ih restFit given

/-- The keys of fitting nodes are their names, and they are distinct. -/
theorem NodesFit.names_nodup (fit : NodesFit e nodes) : (nodes.map (·.2.name)).Nodup := by
  have keys : nodes.map (·.2.name) = nodes.map Prod.fst :=
    List.map_congr_left fun p given => ((fit.1 p given).1).symm
  rw [keys]
  exact fit.2

end AddNodes

/-- A node of the list of a sound graph is stored under its name. -/
theorem GraphSound.node?_of_mem_nodeList {e : Editor} (h : e.GraphSound) {n : Node}
    (listed : n ∈ e.graph.nodeList) : e.node? n.name = some n :=
  (Graph.mem_nodeList_iff h.name_eq).mp listed

/-- What a loaded snapshot guarantees: a sound graph, a config for exactly the live nodes, chosen
any-types keyed under live nodes, and a sound selection. -/
structure LoadSound (e : Editor) : Prop where
  graph : e.GraphSound
  config_live : ∀ k, (e.params.configs.get? k).isSome = (e.node? k).isSome
  anyType_owned : ∀ key, (e.params.anyTypes.get? key).isSome →
    ∃ k param, (e.node? k).isSome ∧ key = anyKey k param
  selection : e.SelectionSound

/-- An editor the commands keep in their invariant is sound as a load leaves one. -/
theorem Invariant.loadSound {e : Editor} (h : e.Invariant) : e.LoadSound where
  graph := h.graph
  config_live := h.params.config_live
  anyType_owned := fun key typed => by
    obtain ⟨k, n, -, p, found, -, -, -, rfl⟩ := (h.params.anyTypes_exact key).mp typed
    exact ⟨k, p.name, by rw [found]; rfl, rfl⟩
  selection := h.selection

section Staged

variable {g e₁ e₂ e₃ : Editor}

/-- The parameter steps of a load, over an editor with a sound graph and no parameters yet, give
exactly the live nodes a config and key every chosen any-type under a live node. -/
theorem stageParams_sound (sound : g.GraphSound) (noParams : g.params = ParamStore.empty)
    {configs : List (String × NodeConfig)} {anyConfigs : List (String × String)}
    (configsRan : stageConfigs g configs = .ok e₁) (anyTypesRan : stageAnyTypes e₁ anyConfigs = .ok e₂)
    (initRan : initUnconfigured e₂ = .ok e₃) :
    e₃ = { g with params := e₃.params } ∧
      (∀ k, (e₃.params.configs.get? k).isSome = (g.node? k).isSome) ∧
      (∀ key, (e₃.params.anyTypes.get? key).isSome →
        ∃ k param, (g.node? k).isSome ∧ key = anyKey k param) := by
  obtain ⟨configsOwned, rfl⟩ := stageConfigs_eq_ok.mp configsRan
  obtain ⟨anyGiven, rfl⟩ := stageAnyTypes_eq_ok.mp anyTypesRan
  obtain ⟨params, rfl, configsLive, anyOwned⟩ := foldlM_initNode_eq_ok initRan
  simp only [foldl_insertConfig, foldl_insertAnyType, noParams, ParamStore.empty] at configsLive anyOwned
  refine ⟨rfl, fun k => Bool.eq_iff_iff.mpr ?_, fun key typed => ?_⟩
  · rw [configsLive k, Table.isSome_get?_foldl_insert]
    constructor
    · rintro ((fromEmpty | ⟨p, given, rfl⟩) | ⟨n, listed, rfl⟩)
      · simp at fromEmpty
      · simpa using configsOwned p given
      · rw [sound.node?_of_mem_nodeList (List.mem_filter.mp listed).1]
        rfl
    · intro live
      obtain ⟨n, found⟩ := Option.isSome_iff_exists.mp live
      by_cases configured : ∃ p ∈ configs, k = p.1
      · exact .inl (.inr configured)
      · refine .inr ⟨n, List.mem_filter.mpr ⟨Graph.mem_nodeList_of_node? found, ?_⟩, sound.name_eq found⟩
        have noConfig : ¬ ((configs.foldl (fun t p => t.insert p.1 p.2) Table.empty).get? k).isSome := by
          rw [Table.isSome_get?_foldl_insert]
          simpa using configured
        simpa [ParamStore.config?, sound.name_eq found, foldl_insertConfig, foldl_insertAnyType, noParams,
          ParamStore.empty] using noConfig
  · rcases anyOwned key typed with typed | ⟨n, listed, param, rfl⟩
    · rw [Table.isSome_get?_foldl_insert] at typed
      rcases typed with typed | ⟨p, given, rfl⟩
      · simp at typed
      · obtain ⟨n, listed, keyed⟩ := List.any_eq_true.mp (anyGiven p given)
        obtain ⟨param, keyed⟩ := Option.isSome_iff_exists.mp keyed
        exact ⟨n.name, param, by rw [sound.node?_of_mem_nodeList listed]; rfl,
          anyKeyParam?_eq_some_iff.mp keyed⟩
    · exact ⟨n.name, param, by rw [sound.node?_of_mem_nodeList (List.mem_filter.mp listed).1]; rfl, rfl⟩

/-- A staged snapshot is sound and keeps the snapshot's transform; it selects exactly the nodes
the snapshot marks selected, in the snapshot's order and each once. -/
theorem stageSnapshot_sound {e e' : Editor} {s : Snapshot} (ran : e.stageSnapshot s = .ok e') :
    e'.LoadSound ∧ e'.transform = s.transform ∧
      e'.selection.selected = (s.nodes.filter (·.2.selected)).map (·.2.ref) ∧
      e'.selection.names.Nodup := by
  obtain ⟨catalog, staged, selected, e₁, e₂, e₃, e₄, -, nodesRan, configsRan, anyTypesRan, initRan, edgesRan, rfl⟩ :=
    stageSnapshot_eq_ok.mp ran
  obtain ⟨fit, rfl, rfl⟩ := stageNodes_eq_ok.mp nodesRan
  set g := ({ ofCatalog catalog with transform := s.transform } : Editor).addNodes s.nodes with gIs
  have baseSound : ({ ofCatalog catalog with transform := s.transform } : Editor).GraphSound :=
    (invariant_ofCatalog catalog).graph.of_sameShape (.of_nodes_eq rfl rfl) rfl
  have sound : g.GraphSound := baseSound.addNodes fit
  obtain ⟨shape₃, configsLive, anyOwned⟩ := stageParams_sound sound (by rw [gIs, addNodes_eq]; rfl) configsRan anyTypesRan initRan
  have catalog₃ : e₃.catalog = g.catalog := by rw [shape₃]
  have graph₃ : e₃.graph = g.graph := by rw [shape₃]
  obtain ⟨sound₄, es, rfl⟩ :=
    (sound.of_sameShape (.of_nodes_eq catalog₃ (by rw [graph₃])) (by rw [graph₃])).connectAll edgesRan
  -- the selection is replaced and the flags synced; neither touches what the graph facts read
  set e₅ : Editor :=
    { e₃ with
      graph := { e₃.graph with edges := es }
      selection := Selection.replace _ ([] ++ (s.nodes.filter (·.2.selected)).map (·.2.ref)) }
  have sound₅ : e₅.GraphSound := sound₄.of_sameShape (.of_nodes_eq rfl rfl) rfl
  have liveSame : ∀ k, (e₅.syncSelectedFlags.node? k).isSome = (g.node? k).isSome := fun k => by
    rw [(sameShape_syncSelectedFlags e₅).isSome_node?]
    simp only [node?_def, e₅, graph₃]
  have selectedLive : ∀ r ∈ e₅.selection.selected, (e₅.node? r.name).isSome := by
    intro r chosen
    simp only [e₅, Selection.replace, List.nil_append] at chosen
    obtain ⟨p, given, rfl⟩ := List.mem_map.mp chosen
    have added : g.node? p.2.name = some { p.2 with selected := false } :=
      addNodes_node?_of_mem fit (List.mem_filter.mp given).1
    simp only [node?_def, e₅, graph₃, Node.ref] at added ⊢
    simp [added]
  refine ⟨⟨sound₅.of_sameShape (sameShape_syncSelectedFlags e₅) rfl, fun k => ?_, fun key typed => ?_,
    .syncSelectedFlags sound₅.name_eq selectedLive⟩, ?_, by simp [e₅, Selection.replace], ?_⟩
  · rw [liveSame]
    exact configsLive k
  · obtain ⟨k, param, live, rfl⟩ := anyOwned key typed
    exact ⟨k, param, by rw [liveSame]; exact live, rfl⟩
  · show e₃.transform = s.transform
    rw [shape₃, gIs, addNodes_eq]
  · have distinct := fit.names_nodup.sublist
      ((List.filter_sublist (p := fun p : String × Node => p.2.selected)).map (·.2.name))
    simp only [syncSelectedFlags_selection, e₅, Selection.names, Selection.replace,
      List.nil_append, List.map_map]
    exact distinct

end Staged

end Editor

end PipelineEditor
