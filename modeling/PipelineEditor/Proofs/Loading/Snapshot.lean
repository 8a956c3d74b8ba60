import PipelineEditor.Proofs.Loading.Edges
import PipelineEditor.Proofs.Loading.Entries
import PipelineEditor.Proofs.Commands.CompatiblePorts

/-! What loading a snapshot makes of the editor, entry by entry. -/

namespace PipelineEditor

/-- Registering entries, each listed under its package, gives each package its last entry. -/
theorem Catalog.get?_foldl_register_last {l : List (String × NodeStructure)}
    (keyed : ∀ p ∈ l, p.1 = p.2.package) (c : Catalog) (package : String) :
    ((l.map Prod.snd).foldl register c).get? package = (lastValue? l package).or (c.get? package) := by
  induction l generalizing c with
  | nil => simp
  | cons p rest ih =>
    rw [List.map_cons, List.foldl_cons, ih (fun q listed => keyed q (List.mem_cons_of_mem _ listed)),
      lastValue?_cons, Option.or_assoc]
    have keyedHead : p.1 = p.2.package := keyed p List.mem_cons_self
    simp only [get?, register, Table.get?_insert, ← keyedHead]
    by_cases atHead : package = p.1 <;> simp [atHead]

namespace Editor

variable {e e' : Editor}

/-- Staged catalog entries are each listed under their package, and registered in order. -/
theorem stageStructures_eq_ok {c c' : Catalog} {l : List (String × NodeStructure)}
    (staged : stageStructures c l = .ok c') :
    (∀ p ∈ l, p.1 = p.2.package) ∧ c' = (l.map Prod.snd).foldl Catalog.register c := by
  induction l generalizing c with
  | nil =>
    cases staged
    exact ⟨by simp, rfl⟩
  | cons p rest ih =>
    obtain ⟨package, s⟩ := p
    obtain ⟨keyedHead, restStaged⟩ := stageStructures_cons_eq_ok.mp staged
    obtain ⟨keyed, rfl⟩ := ih restStaged
    exact ⟨List.forall_mem_cons.mpr ⟨keyedHead, keyed⟩, rfl⟩

/-- Snapshot nodes added to an editor without nodes are exactly the listed ones, unselected. -/
theorem addNodes_node?_of_empty {nodes : List (String × Node)} (noNodes : e.graph.nodes = Table.empty)
    (fit : NodesFit e nodes) (k : String) (n : Node) :
    (e.addNodes nodes).node? k = some n ↔ ∃ m, (k, m) ∈ nodes ∧ n = { m with selected := false } := by
  constructor
  · intro found
    have added : (nodes.foldl (fun t p => t.insert p.2.name { p.2 with selected := false })
        Table.empty).get? k = some n := by
      rw [node?_def, addNodes_eq, noNodes] at found
      exact found
    have folded : nodes.foldl (fun t p => t.insert p.2.name { p.2 with selected := false }) Table.empty =
        (nodes.map fun p => (p.2.name, { p.2 with selected := false })).foldl
          (fun t p => t.insert p.1 p.2) Table.empty := by
      rw [List.foldl_map]
    have last : lastValue? (nodes.map fun p => (p.2.name, { p.2 with selected := false })) k = some n := by
      rw [folded, Table.get?_foldl_insert_last] at added
      simpa using added
    obtain ⟨p, entry, pairIs⟩ := List.mem_map.mp (mem_of_lastValue?_eq_some last)
    simp only [Prod.mk.injEq] at pairIs
    obtain ⟨named, rfl⟩ := pairIs
    have keyIs : p.1 = k := (fit.1 p entry).1.trans named
    exact ⟨p.2, by rw [← keyIs]; exact entry, rfl⟩
  · rintro ⟨m, listed, rfl⟩
    have named : k = m.name := (fit.1 _ listed).1
    rw [named]
    exact addNodes_node?_of_mem fit listed

/-- Giving nodes of distinct names their starting parameters one by one gives each the starting
config of its entry, and `str` under the key of each of its declared `any` parameters; every other
config and chosen type stays. -/
theorem foldlM_initNode_lookups {l : List Node} (distinct : l.Pairwise fun a b => a.name ≠ b.name)
    (ran : l.foldlM (fun e n => do
      let s ← e.catalog.structure? n.package
      pure { e with params := e.params.initNode n.name s }) e = .ok e') :
    e' = { e with params := e'.params } ∧
      (∀ n ∈ l, ∃ s, e.catalog.get? n.package = some s ∧
        e'.params.configs.get? n.name = some s.startConfig) ∧
      (∀ k, (∀ n ∈ l, n.name ≠ k) → e'.params.configs.get? k = e.params.configs.get? k) ∧
      (∀ key, (∃ n ∈ l, ∃ s q, e.catalog.get? n.package = some s ∧ q ∈ s.parameter ∧
        q.kind.isAny = true ∧ key = anyKey n.name q.name) →
          e'.params.anyTypes.get? key = some defaultAnyType) ∧
      (∀ key, ¬ (∃ n ∈ l, ∃ s q, e.catalog.get? n.package = some s ∧ q ∈ s.parameter ∧
        q.kind.isAny = true ∧ key = anyKey n.name q.name) →
          e'.params.anyTypes.get? key = e.params.anyTypes.get? key) := by
  induction l generalizing e with
  | nil =>
    cases ran
    exact ⟨rfl, by simp, fun _ _ => rfl, by simp, fun _ _ => rfl⟩
  | cons n rest ih =>
    simp only [List.foldlM_cons, Except.bind_eq_ok, pure, Except.pure] at ran
    obtain ⟨e₁, ⟨s, lookedUp, stepIs⟩, restRan⟩ := ran
    cases stepIs
    have known : e.catalog.get? n.package = some s := Catalog.structure?_eq_ok.mp lookedUp
    obtain ⟨fresh, restDistinct⟩ := List.pairwise_cons.mp distinct
    obtain ⟨shape, started, keptConfigs, reset, keptTypes⟩ := ih restDistinct restRan
    refine ⟨shape, ?_, fun k notListed => ?_, fun key resetKey => ?_, fun key notReset => ?_⟩
    · intro m listed
      rcases List.mem_cons.mp listed with rfl | listed
      · refine ⟨s, known, ?_⟩
        rw [keptConfigs m.name fun n' listed' => Ne.symm (fresh n' listed'),
          ParamStore.initNode_configs_get?_eq, if_pos rfl]
      · exact started m listed
    · rw [keptConfigs k fun n' listed' => notListed n' (List.mem_cons_of_mem _ listed'),
        ParamStore.initNode_configs_get?_eq, if_neg (Ne.symm (notListed n List.mem_cons_self))]
    · by_cases later : ∃ m ∈ rest, ∃ s q, e.catalog.get? m.package = some s ∧ q ∈ s.parameter ∧
          q.kind.isAny = true ∧ key = anyKey m.name q.name
      · exact reset key later
      · rw [keptTypes key later, ParamStore.initNode_anyTypes_get?, if_pos]
        obtain ⟨m, listed, s', q, known', declared, isAny, rfl⟩ := resetKey
        rcases List.mem_cons.mp listed with rfl | listed
        · rw [known, Option.some.injEq] at known'
          subst known'
          exact ⟨q, declared, isAny, rfl⟩
        · exact absurd ⟨m, listed, s', q, known', declared, isAny, rfl⟩ later
    · have later : ¬ ∃ m ∈ rest, ∃ s q, e.catalog.get? m.package = some s ∧ q ∈ s.parameter ∧
          q.kind.isAny = true ∧ key = anyKey m.name q.name := by
        rintro ⟨m, listed, restKey⟩
        exact notReset ⟨m, List.mem_cons_of_mem _ listed, restKey⟩
      rw [keptTypes key later, ParamStore.initNode_anyTypes_get?, if_neg]
      rintro ⟨q, declared, isAny, rfl⟩
      exact notReset ⟨n, List.mem_cons_self, s, q, known, declared, isAny, rfl⟩

/-- Giving the nodes without a config their starting parameters, in an editor whose nodes are
stored under their names: each such node gets the starting config of its entry, every config there
was stays, and `str` is set under the key of each declared `any` parameter of such a node, every
other chosen type staying. -/
theorem initUnconfigured_lookups (named : ∀ {k n}, e.node? k = some n → n.name = k)
    (ran : initUnconfigured e = .ok e') :
    e' = { e with params := e'.params } ∧
      (∀ k n, e.node? k = some n → e.params.configs.get? k = none →
        ∃ s, e.catalog.get? n.package = some s ∧ e'.params.configs.get? k = some s.startConfig) ∧
      (∀ k, (e.params.configs.get? k).isSome → e'.params.configs.get? k = e.params.configs.get? k) ∧
      (∀ key, (∃ k n s q, e.node? k = some n ∧ e.params.configs.get? k = none ∧
        e.catalog.get? n.package = some s ∧ q ∈ s.parameter ∧ q.kind.isAny = true ∧
          key = anyKey k q.name) → e'.params.anyTypes.get? key = some defaultAnyType) ∧
      (∀ key, ¬ (∃ k n s q, e.node? k = some n ∧ e.params.configs.get? k = none ∧
        e.catalog.get? n.package = some s ∧ q ∈ s.parameter ∧ q.kind.isAny = true ∧
          key = anyKey k q.name) → e'.params.anyTypes.get? key = e.params.anyTypes.get? key) := by
  have distinct : (e.graph.nodeList.filter fun n => (e.params.config? n.name).isNone).Pairwise
      fun a b => a.name ≠ b.name :=
    (nodeList_pairwise_name_ne named).sublist List.filter_sublist
  obtain ⟨shape, started, keptConfigs, reset, keptTypes⟩ := foldlM_initNode_lookups distinct ran
  have unconfigured : ∀ n, n ∈ e.graph.nodeList.filter (fun n => (e.params.config? n.name).isNone) ↔
      e.node? n.name = some n ∧ e.params.configs.get? n.name = none := fun n => by
    simp only [List.mem_filter, Graph.mem_nodeList_iff named, ParamStore.config?, Option.isNone_iff_eq_none,
      Editor.node?]
  refine ⟨shape, fun k n found noConfig => ?_, fun k configured => ?_, fun key resetKey => ?_, fun key notReset => ?_⟩
  · obtain rfl := named found
    exact started n ((unconfigured n).mpr ⟨found, noConfig⟩)
  · refine keptConfigs k fun n found nameIs => ?_
    rw [← nameIs, ((unconfigured n).mp found).2] at configured
    exact Bool.noConfusion configured
  · obtain ⟨k, n, s, q, found, noConfig, known, declared, isAny, rfl⟩ := resetKey
    obtain rfl := named found
    exact reset _ ⟨n, (unconfigured n).mpr ⟨found, noConfig⟩, s, q, known, declared, isAny, rfl⟩
  · refine keptTypes key ?_
    rintro ⟨n, found, s, q, known, declared, isAny, keyIs⟩
    obtain ⟨found', noConfig⟩ := (unconfigured n).mp found
    exact notReset ⟨n.name, n, s, q, found', noConfig, known, declared, isAny, keyIs⟩

/-- Storing configs and then chosen any-types into an editor without parameters stores each key's
last entry, and changes nothing else. -/
theorem stageConfigs_stageAnyTypes_lookups {g e₁ e₂ : Editor} (noParams : g.params = ParamStore.empty)
    {configs : List (String × NodeConfig)} {anyConfigs : List (String × String)}
    (configsRan : stageConfigs g configs = .ok e₁) (anyTypesRan : stageAnyTypes e₁ anyConfigs = .ok e₂) :
    e₂ = { g with params := e₂.params } ∧ (∀ k, e₂.params.configs.get? k = lastValue? configs k) ∧
      ∀ key, e₂.params.anyTypes.get? key = lastValue? anyConfigs key := by
  obtain ⟨-, rfl⟩ := stageConfigs_eq_ok.mp configsRan
  obtain ⟨-, rfl⟩ := stageAnyTypes_eq_ok.mp anyTypesRan
  refine ⟨rfl, fun k => ?_, fun key => ?_⟩ <;>
    simp [foldl_insertConfig, foldl_insertAnyType, noParams, ParamStore.empty, Table.get?_foldl_insert_last]

/-- Of fitting snapshot nodes, the selection of those marked selected holds a listed node exactly
when it is marked: no other listed node has its name. -/
theorem NodesFit.contains_selected {nodes : List (String × Node)} (fit : NodesFit e nodes)
    {k : String} {m : Node} (listed : (k, m) ∈ nodes) (doubleClick : Bool) :
    (⟨(nodes.filter (·.2.selected)).map (·.2.ref), doubleClick⟩ : Selection).contains m.name =
      m.selected := by
  rw [Bool.eq_iff_iff]
  simp only [Selection.contains, List.any_map, List.any_eq_true, List.mem_filter, Function.comp_apply,
    Node.ref, beq_iff_eq]
  constructor
  · rintro ⟨p, ⟨pListed, marked⟩, sameName⟩
    obtain rfl : p = (k, m) := List.inj_on_of_nodup_map fit.names_nodup pListed listed sameName
    exact marked
  · intro marked
    exact ⟨(k, m), ⟨listed, marked⟩, rfl⟩

/-- A key a load sets to `str`: the key of a declared `any` parameter of a node the snapshot lists
without a config. -/
def ResetByLoad (s : Snapshot) (catalog : Catalog) (key : String) : Prop :=
  ∃ k n st q, (k, n) ∈ s.nodes ∧ lastValue? s.configs k = none ∧ catalog.get? n.package = some st ∧
    q ∈ st.parameter ∧ q.kind.isAny = true ∧ key = anyKey k q.name

/-- The editor `E'` is snapshot `s` loaded over editor `E`: the catalog of `E` with the listed
entries registered, the listed nodes, the listed edges connected in order, the listed configs with
starting configs for the nodes listed without one, the listed any-types except under the keys the
starting configs set, and the listed transform and selection. -/
structure SnapshotLoaded (E : Editor) (s : Snapshot) (E' : Editor) : Prop where
  catalog : ∀ package,
    E'.catalog.get? package = (lastValue? s.structures package).or (E.catalog.get? package)
  node : ∀ k n, E'.node? k = some n ↔ (k, n) ∈ s.nodes
  edges : ∀ x, x ∈ E'.graph.edges ↔ LastInto (s.edges.map Prod.snd) x
  config : ∀ k n, (k, n) ∈ s.nodes → ∃ st, E'.catalog.get? n.package = some st ∧
    E'.params.configs.get? k = some ((lastValue? s.configs k).getD st.startConfig)
  config_live : ∀ k, (E'.params.configs.get? k).isSome = (E'.node? k).isSome
  anyType_reset : ∀ key, ResetByLoad s E'.catalog key →
    E'.params.anyTypes.get? key = some defaultAnyType
  anyType_kept : ∀ key, ¬ ResetByLoad s E'.catalog key →
    E'.params.anyTypes.get? key = lastValue? s.anyConfigs key
  transform : E'.transform = s.transform
  selection : E'.selection = ⟨(s.nodes.filter (·.2.selected)).map (·.2.ref), false⟩

/-- What the staged editor holds once the payload is stored, before the nodes without a config
get their starting parameters: the listed nodes, unselected and stored under their names, over the
new catalog with no edges and nothing selected, and each key's last listed config and any-type. -/
theorem stageSnapshot_stored {catalog : Catalog} {s : Snapshot} {staged e₁ e₂ : Editor}
    {selected : List NodeRef}
    (nodesRan : stageNodes { ofCatalog catalog with transform := s.transform } [] s.nodes =
      .ok (staged, selected))
    (configsRan : stageConfigs staged s.configs = .ok e₁) (anyTypesRan : stageAnyTypes e₁ s.anyConfigs = .ok e₂) :
    NodesFit { ofCatalog catalog with transform := s.transform } s.nodes ∧
      selected = (s.nodes.filter (·.2.selected)).map (·.2.ref) ∧
      (∀ k n, e₂.node? k = some n ↔ ∃ m, (k, m) ∈ s.nodes ∧ n = { m with selected := false }) ∧
      e₂.catalog = catalog ∧ e₂.graph.edges = [] ∧ e₂.selection = Selection.empty ∧
      (∀ k, e₂.params.configs.get? k = lastValue? s.configs k) ∧
      ∀ key, e₂.params.anyTypes.get? key = lastValue? s.anyConfigs key := by
  obtain ⟨fit, stagedIs, rfl⟩ := stageNodes_eq_ok.mp nodesRan
  have noParams : staged.params = ParamStore.empty := by rw [stagedIs, addNodes_eq]; rfl
  obtain ⟨shape₂, configs₂, anyTypes₂⟩ := stageConfigs_stageAnyTypes_lookups noParams configsRan anyTypesRan
  refine ⟨fit, List.nil_append _, ?_, ?_, ?_, ?_, configs₂, anyTypes₂⟩
  · rw [shape₂, stagedIs]
    exact addNodes_node?_of_empty rfl fit
  all_goals rw [shape₂, stagedIs, addNodes_eq]; rfl

/-- A snapshot that loads gives exactly the editor it lists, with one exception: a node listed
without a config gets its entry's starting config, and with it `str` under the key of each of its
declared `any` parameters, whatever any-type the snapshot lists under that key. -/
theorem loadSnapshot_exact_state {E E' : Editor} {s : Snapshot} (ran : (loadSnapshot s).run E = .ok () E') :
    SnapshotLoaded E s E' := by
  have stagedOk : E.stageSnapshot s = .ok E' := by
    rw [loadSnapshot_run] at ran
    split at ran <;> cases ran
    assumption
  obtain ⟨sound, sameTransform, -, -⟩ := stageSnapshot_sound stagedOk
  obtain ⟨catalog, staged, selected, e₁, e₂, e₃, e₄, structuresRan, nodesRan, configsRan, anyTypesRan, initRan, edgesRan, result⟩ :=
    stageSnapshot_eq_ok.mp stagedOk
  obtain ⟨keyed, catalogIs⟩ := stageStructures_eq_ok structuresRan
  obtain ⟨fit, rfl, nodes₂, catalog₂, noEdges₂, selection₂, configs₂, anyTypes₂⟩ :=
    stageSnapshot_stored nodesRan configsRan anyTypesRan
  have named₂ : ∀ {k n}, e₂.node? k = some n → n.name = k := fun {k n} found => by
    obtain ⟨m, mListed, rfl⟩ := (nodes₂ k n).mp found
    exact ((fit.1 _ mListed).1).symm
  -- giving the nodes without a config their starting parameters is where listed any-types are lost
  obtain ⟨shape₃, started, keptConfigs, reset, keptTypes⟩ := initUnconfigured_lookups named₂ initRan
  have catalog₃ : e₃.catalog = e₂.catalog := by rw [shape₃]
  have graph₃ : e₃.graph = e₂.graph := by rw [shape₃]
  have selection₃ : e₃.selection = Selection.empty := by rw [shape₃]; exact selection₂
  have edgesIff := mem_edges_of_connectAll_of_nil (by rw [graph₃]; exact noEdges₂) edgesRan
  obtain ⟨es, rfl⟩ := connectAll_eq_ok_edges edgesRan
  have finalCatalog : E'.catalog = catalog := by
    rw [result, ← catalog₂, ← catalog₃]
    rfl
  have finalParams : E'.params = e₃.params := by rw [result]; rfl
  have finalSelection : E'.selection = ⟨(s.nodes.filter (·.2.selected)).map (·.2.ref), false⟩ := by
    rw [result, syncSelectedFlags_selection]
    simp [Selection.replace, selection₃, Selection.empty]
  have finalNode : ∀ k, E'.node? k = (e₂.node? k).map fun n =>
      { n with selected := (⟨(s.nodes.filter (·.2.selected)).map (·.2.ref), false⟩ : Selection).contains n.name } := by
    intro k
    rw [result, syncSelectedFlags_node?]
    simp only [node?_def, graph₃, Selection.replace, selection₃, Selection.empty]
  refine
    { catalog := fun package => ?_
      node := fun k n => ?_
      edges := fun x => ?_
      config := fun k n listed => ?_
      config_live := sound.config_live
      anyType_reset := fun key resetKey => ?_
      anyType_kept := fun key notReset => ?_
      transform := sameTransform
      selection := finalSelection }
  · rw [finalCatalog, catalogIs]
    exact Catalog.get?_foldl_register_last keyed E.catalog package
  · rw [finalNode, Option.map_eq_some_iff]
    constructor
    · rintro ⟨_, found₀, rfl⟩
      obtain ⟨m, mListed, rfl⟩ := (nodes₂ k _).mp found₀
      simp only [fit.contains_selected mListed]
      exact mListed
    · intro listed
      refine ⟨{ n with selected := false }, (nodes₂ k _).mpr ⟨n, listed, rfl⟩, ?_⟩
      simp only [fit.contains_selected listed]
  · rw [result, syncSelectedFlags_edges]
    exact edgesIff x
  · obtain ⟨st, known⟩ := Option.isSome_iff_exists.mp (fit.1 _ listed).2.2.1
    rw [finalCatalog, finalParams]
    rcases last : lastValue? s.configs k with _ | c
    · have found₂ : e₂.node? k = some { n with selected := false } := (nodes₂ k _).mpr ⟨n, listed, rfl⟩
      obtain ⟨st', known', startCfg⟩ := started k _ found₂ (by rw [configs₂, last])
      exact ⟨st', by rw [← catalog₂]; exact known', startCfg⟩
    · refine ⟨st, known, ?_⟩
      rw [keptConfigs k (by rw [configs₂, last]; rfl), configs₂, last]
      rfl
  · obtain ⟨k, m, st, q, mListed, noConfig, known, declared, isAny, rfl⟩ := resetKey
    rw [finalParams]
    refine reset _ ⟨k, { m with selected := false }, st, q, (nodes₂ k _).mpr ⟨m, mListed, rfl⟩,
      by rw [configs₂, noConfig], ?_, declared, isAny, rfl⟩
    rw [catalog₂, ← finalCatalog]
    exact known
  · rw [finalParams, keptTypes key ?_, anyTypes₂]
    rintro ⟨k, n, st, q, found, noConfig, known, declared, isAny, keyIs⟩
    obtain ⟨m, mListed, rfl⟩ := (nodes₂ k n).mp found
    refine notReset ⟨k, m, st, q, mListed, by rw [← configs₂]; exact noConfig, ?_, declared, isAny, keyIs⟩
    rw [finalCatalog, ← catalog₂]
    exact known

/-- The catalog of one class `S`, whose parameter `p` is of kind `any`. -/
def anyParamCatalog : Catalog :=
  Catalog.ofStructures [{ package := "pkg.S", clazz := "S", parameter := [{ name := "p", type := "any" }] }]

/-- A snapshot of one node `n` of class `S`, listed without a config and with `int` chosen for its
parameter `p`. -/
def unconfiguredAnySnapshot : Snapshot :=
  { nodes := [("n", { name := "n", package := "pkg.S", position := ⟨0, 0⟩ })]
    anyConfigs := [("n$p", "int")] }

theorem unconfiguredAnySnapshot_loaded :
    ∃ E', (loadSnapshot unconfiguredAnySnapshot).run (ofCatalog anyParamCatalog) = .ok () E' ∧
      SnapshotLoaded (ofCatalog anyParamCatalog) unconfiguredAnySnapshot E' := by
  obtain ⟨E', stagedOk⟩ :
      ∃ E', (ofCatalog anyParamCatalog).stageSnapshot unconfiguredAnySnapshot = .ok E' :=
    ⟨_, rfl⟩
  have ran : (loadSnapshot unconfiguredAnySnapshot).run (ofCatalog anyParamCatalog) = .ok () E' := by
    rw [loadSnapshot_run, stagedOk]
  exact ⟨E', ran, loadSnapshot_exact_state ran⟩

/-- The snapshot chooses `int` for parameter `p` of `n`, and the loaded editor holds `str`. -/
theorem load_overwrites_listed_anyType :
    lastValue? unconfiguredAnySnapshot.anyConfigs "n$p" = some "int" ∧
      ∃ E', (loadSnapshot unconfiguredAnySnapshot).run (ofCatalog anyParamCatalog) = .ok () E' ∧
        E'.params.anyTypes.get? "n$p" = some "str" :=
  ⟨rfl, _, rfl, rfl⟩

end Editor

end PipelineEditor
