import PipelineEditor.Proofs.Snapshot.Load
import PipelineEditor.Proofs.Snapshot.EdgeKeys

/-! A snapshot of a sound editor reloads as the editor it was taken of, on any editor. -/

namespace PipelineEditor

namespace Catalog

variable {c : Catalog}

theorem get?_foldl_register_of_ne {l : List NodeStructure} {package : String}
    (otherPackage : ∀ s ∈ l, s.package ≠ package) : (l.foldl register c).get? package = c.get? package := by
  induction l generalizing c with
  | nil => rfl
  | cons s rest ih =>
    rw [List.foldl_cons, ih fun t declared => otherPackage t (List.mem_cons_of_mem _ declared)]
    simp [get?, register, Ne.symm (otherPackage s List.mem_cons_self)]

/-- Registering entries of distinct packages gives each package its entry. -/
theorem get?_foldl_register {l : List NodeStructure} (distinct : (l.map (·.package)).Nodup)
    {s : NodeStructure} (listed : s ∈ l) : (l.foldl register c).get? s.package = some s := by
  induction l generalizing c with
  | nil => cases listed
  | cons t rest ih =>
    obtain ⟨fresh, restDistinct⟩ := List.nodup_cons.mp distinct
    rw [List.foldl_cons]
    rcases List.mem_cons.mp listed with rfl | listed
    · rw [get?_foldl_register_of_ne fun u uListed samePackage => fresh (List.mem_map.mpr ⟨u, uListed, samePackage⟩)]
      simp [get?, register]
    · exact ih restDistinct listed

/-- An entry is stored under its own package. -/
theorem package_of_get? {package : String} {s : NodeStructure} (found : c.get? package = some s) :
    s.package = package :=
  c.keyed (package, s) (Table.mem_entries_of_get? found)

end Catalog

namespace Graph

/-- Evicting around an edge whose input port no edge enters removes nothing. -/
theorem evictInto_of_free {g : Graph} {edge : Edge} (free : ∀ a ∈ g.edges, a.target ≠ edge.target) :
    g.evictInto edge = g := by
  have noneAtPort : g.edgesAtPort edge.target = [] := by
    apply List.eq_nil_iff_forall_not_mem.mpr
    intro a atPort
    obtain ⟨atPort, touching⟩ := mem_edgesAtPort.mp atPort
    exact free a atPort (Edge.touches_target_iff.mp touching)
  rw [evictInto_eq, noneAtPort]
  rfl

end Graph

namespace Editor

section Connect

variable {e e' : Editor}

/-- A port keeps its type in an editor where its node stands with the same package and the
catalog gives that package the same entry. -/
theorem portType_of_agree {p : PortRef} {t : PortType}
    (agree : ∀ n, e.node? p.node = some n →
      ∃ n', e'.node? p.node = some n' ∧ e'.catalog.get? n'.package = e.catalog.get? n.package)
    (typed : e.portType p = .ok t) : e'.portType p = .ok t := by
  obtain ⟨n, s, found, known, declared⟩ := portType_eq_ok.mp typed
  obtain ⟨n', listed', sameEntry⟩ := agree n found
  exact portType_eq_ok.mpr ⟨n', s, listed', sameEntry.trans known, declared⟩

/-- An edge keeps fitting where both its nodes stand with packages the catalog gives the same
entries. -/
theorem EdgeFits.of_agree {edge : Edge}
    (agree : ∀ k, (k = edge.fromNode ∨ k = edge.toNode) → ∀ n, e.node? k = some n →
      ∃ n', e'.node? k = some n' ∧ e'.catalog.get? n'.package = e.catalog.get? n.package)
    (fits : e.EdgeFits edge) : e'.EdgeFits edge := by
  obtain ⟨apart, a, b, fromTyped, toTyped, fit⟩ := fits
  exact ⟨apart, a, b, portType_of_agree (agree _ (.inl rfl)) fromTyped,
    portType_of_agree (agree _ (.inr rfl)) toTyped, fit⟩

/-- A fitting edge into an input port no edge enters is connected, at the end of the edges. -/
theorem connect_run_of_fits {edge : Edge} (fits : e.EdgeFits edge)
    (free : ∀ a ∈ e.graph.edges, a.target ≠ edge.target) :
    (connect edge.fromNode edge.fromPort edge.toNode edge.toPort).run e =
      .ok edge { e with graph := { e.graph with edges := e.graph.edges ++ [edge] } } := by
  have fresh : edge ∉ e.graph.edges := fun stored => free edge stored rfl
  rw [connect_run_of_edgeFits fits, Graph.evictInto_of_free free, Editor.withEdge, if_neg fresh]

/-- Edges that fit, are distinct, enter distinct input ports and enter none an edge already
enters are connected one by one, each at the end of the edges. -/
theorem connectAll_of_fits {edges : List Edge} (fits : ∀ edge ∈ edges, e.EdgeFits edge)
    (distinct : edges.Nodup) (onePerInput : ∀ a ∈ edges, ∀ b ∈ edges, a.target = b.target → a = b)
    (free : ∀ a ∈ e.graph.edges, ∀ b ∈ edges, a.target ≠ b.target) :
    connectAll e edges = .ok { e with graph := { e.graph with edges := e.graph.edges ++ edges } } := by
  induction edges generalizing e with
  | nil => simp [connectAll]
  | cons edge rest ih =>
    obtain ⟨notInRest, restDistinct⟩ := List.nodup_cons.mp distinct
    have stepRan := connect_run_of_fits (fits edge List.mem_cons_self)
      fun a aStored => free a aStored edge List.mem_cons_self
    set e₁ : Editor := { e with graph := { e.graph with edges := e.graph.edges ++ [edge] } }
    have fits₁ : ∀ b ∈ rest, e₁.EdgeFits b := fun b bListed =>
      (fits b (List.mem_cons_of_mem _ bListed)).congr rfl rfl
    have free₁ : ∀ a ∈ e₁.graph.edges, ∀ b ∈ rest, a.target ≠ b.target := by
      intro a aStored b bListed
      rcases List.mem_append.mp aStored with aStored | aStored
      · exact free a aStored b (List.mem_cons_of_mem _ bListed)
      · rw [List.mem_singleton.mp aStored]
        intro sameTarget
        have same := onePerInput edge List.mem_cons_self b (List.mem_cons_of_mem _ bListed) sameTarget
        exact notInRest (same ▸ bListed)
    have restRan := ih fits₁ restDistinct
      (fun a aStored b bListed => onePerInput a (List.mem_cons_of_mem _ aStored) b (List.mem_cons_of_mem _ bListed)) free₁
    rw [connectAll_cons_eq_ok.mpr ⟨edge, e₁, stepRan, restRan⟩]
    simp [e₁]

end Connect

section Structures

variable {G : Editor}

theorem mem_packagesInUse {p : String} :
    p ∈ G.packagesInUse ↔ ∃ n ∈ G.graph.nodeList, n.package = p := by
  unfold packagesInUse Table.ofList
  rw [Table.mem_keys_iff, Table.isSome_get?_foldl_insert]
  simp [eq_comm]

theorem stageStructures_of_keyed {c : Catalog} {l : List (String × NodeStructure)}
    (keyed : ∀ p ∈ l, p.1 = p.2.package) :
    stageStructures c l = .ok ((l.map Prod.snd).foldl Catalog.register c) := by
  induction l generalizing c with
  | nil => rfl
  | cons p rest ih =>
    obtain ⟨package, s⟩ := p
    exact stageStructures_cons_eq_ok.mpr ⟨keyed _ List.mem_cons_self,
      ih fun q qListed => keyed q (List.mem_cons_of_mem _ qListed)⟩

/-- Registering a snapshot's catalog entries gives every package in use its entry. -/
theorem get?_register_snapshot (sound : G.GraphSound) (c : Catalog) {p : String}
    (inUse : p ∈ G.packagesInUse) :
    ((G.snapshot.structures.map Prod.snd).foldl Catalog.register c).get? p = G.catalog.get? p := by
  obtain ⟨n, listed, rfl⟩ := mem_packagesInUse.mp inUse
  obtain ⟨s, known⟩ := Option.isSome_iff_exists.mp (sound.package_known (sound.node?_of_mem_nodeList listed))
  have entries : G.snapshot.structures.map Prod.snd = G.packagesInUse.filterMap G.catalog.get? := by
    simp [snapshot, Function.comp_def]
  have distinct : ((G.packagesInUse.filterMap G.catalog.get?).map (·.package)).Nodup := by
    refine ((Table.keys_nodup _).filterMap fun a a' s known known' => ?_).map_on fun s known s' known' samePackage => ?_
    · rw [← Catalog.package_of_get? known, ← Catalog.package_of_get? known']
    · obtain ⟨a, -, aEntry⟩ := List.mem_filterMap.mp known
      obtain ⟨a', -, aEntry'⟩ := List.mem_filterMap.mp known'
      rw [Catalog.package_of_get? aEntry, Catalog.package_of_get? aEntry'] at samePackage
      subst samePackage
      rw [aEntry] at aEntry'
      exact Option.some.inj aEntry'
  have entryListed : s ∈ G.packagesInUse.filterMap G.catalog.get? := List.mem_filterMap.mpr ⟨_, inUse, known⟩
  rw [entries, known, ← Catalog.package_of_get? known]
  exact Catalog.get?_foldl_register distinct entryListed

end Structures

section Staging

variable {G b : Editor}

/-- The nodes of a sound editor fit an editor without nodes whose catalog knows their
packages. -/
theorem nodesFit_snapshot (sound : G.GraphSound) (noNodes : b.graph.nodes = Table.empty)
    (known : ∀ n ∈ G.graph.nodeList, (b.catalog.get? n.package).isSome) :
    NodesFit b G.snapshot.nodes := by
  refine ⟨fun p entry => ?_, Table.keys_nodup _⟩
  have found : G.node? p.1 = some p.2 := Table.get?_of_mem_entries (Table.keys_nodup _) entry
  refine ⟨(sound.name_eq found).symm, sound.name_valid found,
    known p.2 (List.mem_map_of_mem entry), ?_⟩
  simp [Graph.contains, noNodes]

/-- Adding the nodes of a sound editor to an editor without nodes gives the same node table, each
node unselected. -/
theorem addNodes_snapshot (sound : G.GraphSound) (noNodes : b.graph.nodes = Table.empty) :
    (b.addNodes G.snapshot.nodes).graph.nodes = G.graph.nodes.map fun n => { n with selected := false } := by
  have keys : G.graph.nodes.entries.map (fun p => (p.2.name, { p.2 with selected := false })) =
      G.graph.nodes.entries.map fun p => (p.1, { p.2 with selected := false }) :=
    List.map_congr_left fun p entry =>
      by rw [sound.name_eq (Table.get?_of_mem_entries (Table.keys_nodup _) entry)]
  have folded : G.graph.nodes.entries.foldl
      (fun t p => t.insert p.2.name { p.2 with selected := false }) Table.empty =
      (G.graph.nodes.entries.map fun p => (p.2.name, { p.2 with selected := false })).foldl
        (fun t e => t.insert e.1 e.2) Table.empty :=
    (List.foldl_map (f := fun p : String × Node => (p.2.name, { p.2 with selected := false }))
      (g := fun (t : Table Node) (e : String × Node) => t.insert e.1 e.2)).symm
  apply Table.ext
  rw [addNodes_eq, noNodes]
  show (G.graph.nodes.entries.foldl (fun t p => t.insert p.2.name { p.2 with selected := false })
    Table.empty).entries = _
  rw [folded, keys]
  exact Table.foldl_insert_of_ascending (List.pairwise_map.mpr G.graph.nodes.ascending)

/-- Over a sound editor's nodes unselected, a name looks up its node unselected. -/
theorem node?_of_unselected
    (unselected : b.graph.nodes = G.graph.nodes.map fun n => { n with selected := false }) (k : String) :
    b.node? k = (G.node? k).map fun n => { n with selected := false } := by
  simp [unselected]

/-- Staging the configs and chosen any-types of a sound editor over its nodes rebuilds its
parameter tables and leaves no node without a config. -/
theorem stageParams_snapshot (sound : G.LoadSound)
    (unselected : b.graph.nodes = G.graph.nodes.map fun n => { n with selected := false })
    (noParams : b.params = ParamStore.empty) :
    ∃ e₁, stageConfigs b G.snapshot.configs = .ok e₁ ∧
      stageAnyTypes e₁ G.snapshot.anyConfigs = .ok { b with params := G.params } ∧
      initUnconfigured { b with params := G.params } = .ok { b with params := G.params } := by
  have lifted : ∀ {k n}, G.node? k = some n → b.node? k = some { n with selected := false } :=
    fun found => by rw [node?_of_unselected unselected, found]; rfl
  have liveSame : ∀ k, (b.node? k).isSome = (G.node? k).isSome := fun k => by
    rw [node?_of_unselected unselected, Option.isSome_map]
  have configsOwned : ∀ p ∈ G.snapshot.configs, b.graph.contains p.1 = true := fun p entry => by
    have configured : (G.params.configs.get? p.1).isSome := by
      rw [Table.get?_of_mem_entries (Table.keys_nodup _) entry]
      rfl
    rw [sound.config_live, ← liveSame] at configured
    simpa [Graph.contains] using configured
  have anyOwned : ∀ p ∈ G.snapshot.anyConfigs,
      (b.graph.nodeList.any fun n => (anyKeyParam? p.1 n.name).isSome) = true := fun p entry => by
    have typedAny : (G.params.anyTypes.get? p.1).isSome := by
      rw [Table.get?_of_mem_entries (Table.keys_nodup _) entry]
      rfl
    obtain ⟨k, param, live, keyIs⟩ := sound.anyType_owned _ typedAny
    obtain ⟨n, found⟩ := Option.isSome_iff_exists.mp live
    refine List.any_eq_true.mpr ⟨_, Graph.mem_nodeList_of_node? (lifted found), ?_⟩
    show (anyKeyParam? p.1 n.name).isSome = true
    rw [sound.graph.name_eq found, anyKeyParam?_eq_some_iff.mpr keyIs]
    rfl
  have rebuilt : (G.snapshot.anyConfigs.foldl (fun st p => st.insertAnyType p.1 p.2)
      (G.snapshot.configs.foldl (fun st p => st.insertConfig p.1 p.2) b.params)) = G.params := by
    rw [foldl_insertConfig, foldl_insertAnyType, noParams]
    exact congrArg₂ ParamStore.mk (Table.ofList_entries _) (Table.ofList_entries _)
  refine ⟨_, stageConfigs_eq_ok.mpr ⟨configsOwned, rfl⟩,
    stageAnyTypes_eq_ok.mpr ⟨anyOwned, by rw [← rebuilt]⟩, ?_⟩
  -- no node is left without a config, so no starting parameters are given
  have noneUnconfigured : (b.graph.nodeList.filter fun n => (G.params.config? n.name).isNone) = [] := by
    refine List.filter_eq_nil_iff.mpr fun n found => ?_
    obtain ⟨⟨k, m⟩, mListed, rfl⟩ := List.mem_map.mp (show n ∈ b.graph.nodes.values from found)
    rw [unselected] at mListed
    obtain ⟨⟨k', n'⟩, listed', pairIs⟩ := List.mem_map.mp mListed
    obtain ⟨rfl, rfl⟩ := Prod.mk.inj pairIs
    have inG : G.node? k' = some n' := Table.get?_of_mem_entries (Table.keys_nodup _) listed'
    have configured := sound.config_live k'
    rw [inG, Option.isSome_some] at configured
    simp [ParamStore.config?, sound.graph.name_eq inG, Option.isSome_iff_ne_none.mp configured]
  unfold initUnconfigured
  rw [noneUnconfigured]
  rfl

/-- Over the same nodes and catalog entries and no edges, connecting a sound editor's edges in
key order rebuilds them in that order. -/
theorem connectAll_snapshot (sound : G.GraphSound)
    (unselected : b.graph.nodes = G.graph.nodes.map fun n => { n with selected := false })
    (noEdges : b.graph.edges = [])
    (catalogAgrees : ∀ p ∈ G.packagesInUse, b.catalog.get? p = G.catalog.get? p) :
    connectAll b (G.snapshot.edges.map Prod.snd) =
      .ok { b with graph := { b.graph with edges := G.snapshot.edges.map Prod.snd } } := by
  have perm : (G.snapshot.edges.map Prod.snd).Perm G.graph.edges := by
    have sortedPerm := (List.mergeSort_perm (G.graph.edges.map fun edge => (edge.key, edge))
      fun a b => !(b.1 < a.1)).map Prod.snd
    simpa [snapshot, List.map_map, Function.comp_def] using sortedPerm
  have agree : ∀ edge : Edge, ∀ k, (k = edge.fromNode ∨ k = edge.toNode) → ∀ n, G.node? k = some n →
      ∃ n', b.node? k = some n' ∧ b.catalog.get? n'.package = G.catalog.get? n.package :=
    fun _ k _ n found => ⟨{ n with selected := false }, by rw [node?_of_unselected unselected, found]; rfl,
      catalogAgrees _ (mem_packagesInUse.mpr ⟨n, Graph.mem_nodeList_of_node? found, rfl⟩)⟩
  have ran := connectAll_of_fits (e := b)
    (fun edge listedEdge => (sound.edge_fits edge (perm.subset listedEdge)).of_agree (agree edge))
    (perm.nodup_iff.mpr sound.edges_nodup)
    (fun x xListed y yListed => sound.one_per_input x (perm.subset xListed) y (perm.subset yListed))
    (by simp [noEdges])
  rw [ran, noEdges, List.nil_append]

/-- Marking, over a sound editor's nodes unselected, the nodes its snapshot marks selected gives
back its node table. -/
theorem syncSelectedFlags_snapshot (sound : G.GraphSound)
    (unselected : b.graph.nodes = G.graph.nodes.map fun n => { n with selected := false })
    (selectedAre : b.selection.selected = (G.snapshot.nodes.filter (·.2.selected)).map (·.2.ref)) :
    b.syncSelectedFlags.graph.nodes = G.graph.nodes := by
  have flagged : ∀ p ∈ G.graph.nodes.entries, b.selection.contains p.2.name = p.2.selected := by
    intro p entry
    have keyName : ∀ {q : String × Node}, q ∈ G.graph.nodes.entries → q.2.name = q.1 :=
      fun qListed => sound.name_eq (Table.get?_of_mem_entries (Table.keys_nodup _) qListed)
    apply Bool.eq_iff_iff.mpr
    rw [Selection.contains_iff, selectedAre]
    constructor
    · rintro ⟨r, chosen, rName⟩
      obtain ⟨q, qListed, rfl⟩ := List.mem_map.mp chosen
      obtain ⟨qListed, qSelected⟩ := List.mem_filter.mp qListed
      have same : q = p := Table.eq_of_mem_of_key_eq G.graph.nodes.ascending qListed entry
        (by rw [← keyName qListed, ← keyName entry]; exact rName)
      rw [← same]
      exact qSelected
    · intro pSelected
      exact ⟨p.2.ref, List.mem_map_of_mem (List.mem_filter.mpr ⟨entry, pSelected⟩), rfl⟩
  apply Table.ext
  show (b.graph.nodes.entries.map fun p => (p.1, { p.2 with selected := b.selection.contains p.2.name })) =
    G.graph.nodes.entries
  rw [unselected]
  show ((G.graph.nodes.entries.map fun p => (p.1, { p.2 with selected := false })).map
    fun p => (p.1, { p.2 with selected := b.selection.contains p.2.name })) = _
  rw [List.map_map]
  conv_rhs => rw [← List.map_id G.graph.nodes.entries]
  apply List.map_congr_left
  intro p entry
  simp only [Function.comp_apply, flagged p entry]
  rfl

/-- The nodes a sound editor's snapshot marks selected are its selected nodes, by ascending
name. -/
theorem snapshot_selected_names (sound : G.LoadSound) :
    ((G.snapshot.nodes.filter (·.2.selected)).map (·.2.ref.name)).Pairwise (· < ·) ∧
      ∀ k, k ∈ (G.snapshot.nodes.filter (·.2.selected)).map (·.2.ref.name) ↔ k ∈ G.selection.names := by
  have keyName : ∀ {q : String × Node}, q ∈ G.graph.nodes.entries → q.2.ref.name = q.1 :=
    fun qListed => sound.graph.name_eq (Table.get?_of_mem_entries (Table.keys_nodup _) qListed)
  refine ⟨?_, fun k => ?_⟩
  · have ascending := G.graph.nodes.ascending.filter fun p => p.2.selected
    show ((G.graph.nodes.entries.filter (·.2.selected)).map (·.2.ref.name)).Pairwise (· < ·)
    rw [List.map_congr_left fun q qListed => keyName (List.mem_filter.mp qListed).1]
    exact List.pairwise_map.mpr ascending
  · constructor
    · rintro kListed
      obtain ⟨p, entry, rfl⟩ := List.mem_map.mp kListed
      obtain ⟨entry, pSelected⟩ := List.mem_filter.mp entry
      have inG : G.node? p.1 = some p.2 := Table.get?_of_mem_entries (Table.keys_nodup _) entry
      have contained := (sound.selection.flag_eq inG).symm.trans pSelected
      obtain ⟨r, chosen, rName⟩ := Selection.contains_iff.mp contained
      rw [keyName entry, ← rName]
      exact List.mem_map_of_mem chosen
    · intro kListed
      obtain ⟨r, chosen, rfl⟩ := List.mem_map.mp kListed
      obtain ⟨n, found⟩ := Option.isSome_iff_exists.mp (sound.selection.selected_live r chosen)
      have nSelected : n.selected = true :=
        (sound.selection.flag_eq found).trans (Selection.contains_iff.mpr ⟨r, chosen, rfl⟩)
      have entryStored := Table.mem_entries_of_get? found
      exact List.mem_map.mpr ⟨(r.name, n), List.mem_filter.mpr ⟨entryStored, nSelected⟩, keyName entryStored⟩

end Staging

/-- Listing a snapshot's edges by key again gives the same list. -/
theorem snapshot_edges_resorted (G : Editor) :
    ((G.snapshot.edges.map Prod.snd).map fun edge => (edge.key, edge)).mergeSort
      (fun a b => !(b.1 < a.1)) = G.snapshot.edges := by
  have keyed : (G.snapshot.edges.map Prod.snd).map (fun edge => (edge.key, edge)) = G.snapshot.edges := by
    rw [List.map_map]
    conv_rhs => rw [← List.map_id G.snapshot.edges]
    apply List.map_congr_left
    intro p entry
    obtain ⟨edge, -, rfl⟩ := List.mem_map.mp (List.mem_mergeSort.mp entry)
    rfl
  rw [keyed]
  exact List.mergeSort_of_pairwise (pairwise_mergeSort_byKey _)

/-- A snapshot reads the node table, the edges as a set ordered by key, the transform, the
parameter tables and the catalog entries of the packages in use. -/
theorem snapshot_eq_of {E G : Editor} (sameNodes : E.graph.nodes = G.graph.nodes)
    (edgesAre : E.graph.edges = G.snapshot.edges.map Prod.snd) (sameTransform : E.transform = G.transform)
    (sameParams : E.params = G.params) (catalogAgrees : ∀ p ∈ G.packagesInUse, E.catalog.get? p = G.catalog.get? p) :
    E.snapshot = G.snapshot := by
  have packages : E.packagesInUse = G.packagesInUse := by
    unfold packagesInUse Graph.nodeList Table.values
    rw [sameNodes]
  have structures : E.packagesInUse.filterMap E.catalog.get? = G.packagesInUse.filterMap G.catalog.get? := by
    rw [packages]
    exact List.filterMap_congr catalogAgrees
  have sorted : (E.graph.edges.map fun edge => (edge.key, edge)).mergeSort (fun a b => !(b.1 < a.1)) =
      G.snapshot.edges := by
    rw [edgesAre]
    exact snapshot_edges_resorted G
  show Snapshot.mk E.graph.nodes.entries
    ((E.graph.edges.map fun edge => (edge.key, edge)).mergeSort fun a b => !(b.1 < a.1)) E.transform
    ((E.packagesInUse.filterMap E.catalog.get?).map fun s => (s.package, s)) E.params.configs.entries
    E.params.anyTypes.entries = G.snapshot
  rw [sameNodes, sorted, sameTransform, structures, sameParams]
  rfl

/-- On any editor, staging the snapshot of an editor whose state is sound succeeds and gives an
editor with the same snapshot, whose selection holds the same names in ascending order. -/
theorem stageSnapshot_snapshot (E G : Editor) (sound : G.LoadSound) :
    ∃ E', E.stageSnapshot G.snapshot = .ok E' ∧ E'.snapshot = G.snapshot ∧
      E'.selection.names.Pairwise (· < ·) ∧ ∀ k, k ∈ E'.selection.names ↔ k ∈ G.selection.names := by
  set catalog := (G.snapshot.structures.map Prod.snd).foldl Catalog.register E.catalog
  have structures : stageStructures E.catalog G.snapshot.structures = .ok catalog :=
    stageStructures_of_keyed fun p entry => by
      obtain ⟨s, -, rfl⟩ := List.mem_map.mp entry
      rfl
  have catalogAgrees : ∀ p ∈ G.packagesInUse, catalog.get? p = G.catalog.get? p :=
    fun p entry => get?_register_snapshot sound.graph E.catalog entry
  set base : Editor := { ofCatalog catalog with transform := G.transform }
  have known : ∀ n ∈ G.graph.nodeList, (base.catalog.get? n.package).isSome := fun n listed => by
    rw [show base.catalog = catalog from rfl, catalogAgrees _ (mem_packagesInUse.mpr ⟨n, listed, rfl⟩)]
    exact sound.graph.package_known (sound.graph.node?_of_mem_nodeList listed)
  have fit := nodesFit_snapshot sound.graph (b := base) rfl known
  have unselected := addNodes_snapshot sound.graph (b := base) rfl
  have stagedIs : base.addNodes G.snapshot.nodes = { base with graph := { base.graph with
      nodes := (base.addNodes G.snapshot.nodes).graph.nodes } } := by
    rw [addNodes_eq]
  set staged := base.addNodes G.snapshot.nodes
  obtain ⟨e₁, configsRan, anyTypesRan, initRan⟩ := stageParams_snapshot sound unselected (by rw [stagedIs]; rfl)
  have edgesRan := connectAll_snapshot sound.graph (b := { staged with params := G.params }) unselected
    (by rw [stagedIs]; rfl) (by rw [stagedIs]; exact catalogAgrees)
  set selected := [] ++ (G.snapshot.nodes.filter (·.2.selected)).map (·.2.ref)
  set e₄ : Editor := { staged with
    params := G.params
    graph := { staged.graph with edges := G.snapshot.edges.map Prod.snd } }
  refine ⟨({ e₄ with selection := e₄.selection.replace selected }).syncSelectedFlags,
    stageSnapshot_eq_ok.mpr ⟨catalog, staged, selected, e₁, _, _, e₄, structures,
      stageNodes_eq_ok.mpr ⟨fit, rfl, rfl⟩, configsRan, anyTypesRan, initRan, edgesRan, rfl⟩, ?_, ?_⟩
  · refine snapshot_eq_of (syncSelectedFlags_snapshot sound.graph unselected ?_) rfl ?_ rfl ?_
    · simp [selected, e₄, Selection.replace]
    · show staged.transform = G.transform
      rw [stagedIs]
    · show ∀ p ∈ G.packagesInUse, staged.catalog.get? p = G.catalog.get? p
      rw [stagedIs]
      exact catalogAgrees
  · have names : ({ e₄ with selection := e₄.selection.replace selected }).syncSelectedFlags.selection.names =
        (G.snapshot.nodes.filter (·.2.selected)).map (·.2.ref.name) := by
      simp [selected, Selection.names, Selection.replace, List.map_map, Function.comp_def]
    rw [names]
    exact snapshot_selected_names sound

end Editor

end PipelineEditor
