import PipelineEditor.Proofs.Atomicity
import PipelineEditor.Proofs.Commands.Delete

/-! Renaming is substitution: in a sound editor a rename puts the new name in place of the old one everywhere. -/

namespace PipelineEditor

namespace Editor

variable {e : Editor} {x y : String} {n : Node} {s : NodeStructure}

/-- In a sound editor a live node has a chosen type for exactly its declared `any` parameters. -/
theorem Invariant.anyTypes_anyKey_isSome (h : e.Invariant) (found : e.node? x = some n)
    (entry : e.catalog.get? n.package = some s) (param : String) :
    (e.params.anyTypes.get? (anyKey x param)).isSome ↔
      ∃ p ∈ s.parameter, p.kind.isAny = true ∧ p.name = param := by
  rw [h.params.anyTypes_exact]
  constructor
  · rintro ⟨k, m, s', p, other, entry', declared, isAny, keyEq⟩
    obtain ⟨rfl, rfl⟩ := anyKey_inj (h.graph.dollar_not_mem found) (h.graph.dollar_not_mem other) keyEq
    rw [found] at other
    cases other
    rw [entry] at entry'
    cases entry'
    exact ⟨p, declared, isAny, rfl⟩
  · rintro ⟨p, declared, isAny, rfl⟩
    exact ⟨x, n, s, p, found, entry, declared, isAny, rfl⟩

/-- In a sound editor no chosen type is kept under a free name. -/
theorem Invariant.anyTypes_anyKey_of_free (h : e.Invariant) (dollarFree : '$' ∉ y.toList)
    (free : e.graph.contains y = false) (param : String) :
    e.params.anyTypes.get? (anyKey y param) = none := by
  rw [← Option.not_isSome_iff_eq_none, h.params.anyTypes_exact]
  rintro ⟨k, m, s, p, found, -, -, -, keyEq⟩
  obtain ⟨rfl, -⟩ := anyKey_inj dollarFree (h.graph.dollar_not_mem found) keyEq
  exact ne_of_node?_of_contains found free rfl

/-- The editor a rename leaves: the middle of the rename with the edges `es`, and the renamed
node selected alone. -/
abbrev renamedSelected (e : Editor) (x y : String) (n : Node) (s : NodeStructure) (es : List Edge) :
    Editor :=
  ({ e.renamedWithout x y n s with
      graph := { (e.renamedWithout x y n s).graph with edges := es }
      selection := ⟨[⟨y, n.package⟩], e.selection.doubleClick⟩ }).syncSelectedFlags

theorem renamedSelected_node? (h : e.EdgesSound) (es : List Edge) (k : String) :
    (e.renamedSelected x y n s es).node? k =
      if k = x then none else if k = y then some ⟨y, n.package, n.position, true⟩
      else (e.node? k).map fun m => { m with selected := false } := by
  rw [syncSelectedFlags_node?]
  show ((e.renamedWithout x y n s).node? k).map _ = _
  rw [renamedWithout_node?]
  split
  · rfl
  split
  · simp [Selection.contains]
  · rename_i notOld notNew
    cases found : e.node? k with
    | none => rfl
    | some m =>
      have apart : y ≠ m.name := by
        rw [h.name_eq found]
        exact Ne.symm notNew
      simp [Selection.contains, apart]

/-- The edges kept by the rename and the moved ones are together the old edges with the old name
replaced. -/
theorem mem_renamed_edges (c : Edge) :
    c ∈ (e.graph.edges.filter fun b => !(b.fromNode == x || b.toNode == x)) ∨
      c ∈ (e.graph.incidentEdges x).map (·.renamed x y) ↔ c ∈ e.graph.edges.map (·.renamed x y) := by
  constructor
  · rintro (listed | listed)
    · obtain ⟨present, kept⟩ := List.mem_filter.mp listed
      simp only [Bool.not_eq_true', Bool.or_eq_false_iff, beq_eq_false_iff_ne] at kept
      exact List.mem_map.mpr ⟨c, present, Edge.renamed_of_ne kept.1 kept.2 y⟩
    · obtain ⟨b, original, rfl⟩ := List.mem_map.mp listed
      exact List.mem_map.mpr ⟨b, (mem_incidentEdges.mp original).1, rfl⟩
  · intro listed
    obtain ⟨b, original, rfl⟩ := List.mem_map.mp listed
    by_cases incident : b.fromNode = x ∨ b.toNode = x
    · exact .inr (List.mem_map.mpr ⟨b, mem_incidentEdges.mpr ⟨original, incident⟩, rfl⟩)
    · rw [not_or] at incident
      rw [Edge.renamed_of_ne incident.1 incident.2]
      exact .inl (List.mem_filter.mpr ⟨original, by simp [incident.1, incident.2]⟩)

/-- In a sound editor a rename of a live node to a valid free name answers the renamed node,
selected, and leaves the renamed editor with the old edges, their ends moved. -/
theorem rename_run_of_sound (h : e.Invariant) (found : e.node? x = some n)
    (entry : e.catalog.get? n.package = some s) (valid : isValidNodeName y = true)
    (free : e.graph.contains y = false) :
    ∃ es, (∀ c, c ∈ es ↔ c ∈ e.graph.edges.map (·.renamed x y)) ∧
      (rename x y).run e = .ok ⟨y, n.package, n.position, true⟩ (e.renamedSelected x y n s es) := by
  have apart : x ≠ y := ne_of_node?_of_contains found free
  -- the moved edges fit the middle of the rename, so adding them back is never refused
  obtain ⟨e₂, added⟩ := addEdges_run_ok (e := e.renamedWithout x y n s) _
    (h.graph.edgesSound.renamed_fits free found)
  obtain ⟨es, edgesAdded⟩ := addEdges_after_eq ((e.graph.incidentEdges x).map (·.renamed x y))
    (e.renamedWithout x y n s)
  have members := mem_edges_of_addEdges_run added
  rw [Edit.after_of_run_ok added] at edgesAdded
  subst edgesAdded
  refine ⟨es, fun c => (members c).trans (mem_renamed_edges c), ?_⟩
  rw [rename_run_of_checks valid free found entry]
  generalize ran : EStateM.run (Editor.addEdges _) _ = r
  have ranOk : r = .ok () { e.renamedWithout x y n s with
      graph := { (e.renamedWithout x y n s).graph with edges := es } } := ran.symm.trans added
  subst ranOk
  have nodeAfter := renamedSelected_node? (x := x) (y := y) (n := n) (s := s) h.graph.edgesSound es y
  rw [if_neg (Ne.symm apart), if_pos rfl] at nodeAfter
  show EStateM.Result.ok (((e.renamedSelected x y n s es).node? y).getD _) _ = _
  rw [nodeAfter]
  rfl

/-- Moving the ends at a live node to a free name keeps the edges apart. -/
theorem EdgesSound.renamed_inj (h : e.EdgesSound) (free : e.graph.contains y = false) {a b : Edge}
    (aListed : a ∈ e.graph.edges) (bListed : b ∈ e.graph.edges) (sameRenamed : a.renamed x y = b.renamed x y) :
    a = b := by
  obtain ⟨aFromFree, aToFree⟩ := h.ends_ne_free free aListed
  obtain ⟨bFromFree, bToFree⟩ := h.ends_ne_free free bListed
  cases a
  cases b
  simp only [Edge.renamed, Edge.mk.injEq] at sameRenamed ⊢
  obtain ⟨sameFrom, sameFromPort, sameTo, sameToPort⟩ := sameRenamed
  exact ⟨renamed_end_inj aFromFree bFromFree sameFrom, sameFromPort, renamed_end_inj aToFree bToFree sameTo, sameToPort⟩

/-- Cloning the config of a live node `x` of a sound editor to a free name `y`, from a store that
agrees with the editor's away from `y` and holds no chosen type of `y` but for declared `any`
parameters: `y` gets the config and the chosen types of `x`, and nothing else changes. -/
theorem Invariant.cloneConfig?_params (h : e.Invariant) (found : e.node? x = some n)
    (entry : e.catalog.get? n.package = some s) (dollarFree : '$' ∉ y.toList) (apart : x ≠ y)
    (st₀ : ParamStore) (configsAgree : ∀ k, k ≠ y → st₀.configs.get? k = e.params.configs.get? k)
    (keysAgree : ∀ key, (∀ p, key ≠ anyKey y p) → st₀.anyTypes.get? key = e.params.anyTypes.get? key)
    (undeclared : ∀ p, ¬ (∃ q ∈ s.parameter, q.kind.isAny = true ∧ q.name = p) →
      st₀.anyTypes.get? (anyKey y p) = none) :
    ∃ st', st₀.cloneConfig? x s y = some st' ∧
      st'.configs.get? y = e.params.configs.get? x ∧
      (∀ k, k ≠ y → st'.configs.get? k = e.params.configs.get? k) ∧
      (∀ p, st'.anyTypes.get? (anyKey y p) = e.params.anyTypes.get? (anyKey x p)) ∧
      (∀ key, (∀ p, key ≠ anyKey y p) → st'.anyTypes.get? key = e.params.anyTypes.get? key) := by
  obtain ⟨config, hasConfig⟩ : ∃ config, st₀.configs.get? x = some config := by
    rw [configsAgree x apart]
    exact Option.isSome_iff_exists.mp ((h.params.config_live x).trans (by rw [found]; rfl))
  obtain ⟨st', cloned⟩ : ∃ st', st₀.cloneConfig? x s y = some st' :=
    ⟨_, by rw [ParamStore.cloneConfig?, hasConfig]; rfl⟩
  obtain ⟨config', source, clonedConfigs, -⟩ := ParamStore.cloneConfig?_eq_some cloned
  have keysApart : ∀ p q, anyKey x p ≠ anyKey y q := h.graph.anyKey_ne found dollarFree apart
  refine ⟨st', cloned, ?_, fun k notNew => ?_, fun p => ?_, fun key notNewKey => ?_⟩
  · rw [clonedConfigs, Table.get?_insert, if_pos rfl, ← source, configsAgree x apart]
  · rw [clonedConfigs, Table.get?_insert, if_neg notNew, configsAgree k notNew]
  · rw [ParamStore.cloneConfig?_anyTypes_get?_anyKey cloned, keysAgree _ (keysApart p)]
    split
    · rename_i anyDeclared
      obtain ⟨v, chosen⟩ := Option.isSome_iff_exists.mp ((h.anyTypes_anyKey_isSome found entry p).mpr anyDeclared)
      rw [chosen]
      rfl
    · rename_i anyDeclared
      rw [undeclared p anyDeclared, eq_comm, ← Option.not_isSome_iff_eq_none,
        h.anyTypes_anyKey_isSome found entry]
      exact anyDeclared
  · rw [ParamStore.cloneConfig?_anyTypes_get?_of_ne cloned _ notNewKey, keysAgree _ notNewKey]

/-- The parameters a rename leaves: the config and the chosen types of the old name move to the
new one, and every other entry stays. -/
theorem renamedSelected_params (h : e.Invariant) (found : e.node? x = some n)
    (entry : e.catalog.get? n.package = some s) (valid : isValidNodeName y = true)
    (free : e.graph.contains y = false) (es : List Edge) :
    let st := (e.renamedSelected x y n s es).params
    st.configs.get? y = e.params.configs.get? x ∧ st.configs.get? x = none ∧
      (∀ k, k ≠ x → k ≠ y → st.configs.get? k = e.params.configs.get? k) ∧
      (∀ p, st.anyTypes.get? (anyKey y p) = e.params.anyTypes.get? (anyKey x p)) ∧
      (∀ p, st.anyTypes.get? (anyKey x p) = none) ∧
      (∀ key, (∀ p, key ≠ anyKey x p) → (∀ p, key ≠ anyKey y p) →
        st.anyTypes.get? key = e.params.anyTypes.get? key) := by
  intro st
  have apart : x ≠ y := ne_of_node?_of_contains found free
  have oldFree := h.graph.dollar_not_mem found
  have newFree := (isValidNodeName_iff.mp valid).2
  -- the rename copies the config straight from the editor's store, then drops the old name's
  obtain ⟨st', cloned, configNew, configOther, anyNew, anyOther⟩ := h.cloneConfig?_params found entry newFree apart e.params
    (fun _ _ => rfl) (fun _ _ => rfl) fun p _ => h.anyTypes_anyKey_of_free newFree free p
  have stored : st = st'.removeConfig x := by simp [st, cloned]
  rw [stored]
  refine ⟨?_, by simp [ParamStore.removeConfig_configs_get?], fun k notOld notNew => ?_, fun p => ?_,
    ParamStore.removeConfig_anyTypes_get?_anyKey _ _, fun key notOld notNew => ?_⟩
  · rw [ParamStore.removeConfig_configs_get?, if_neg (Ne.symm apart), configNew]
  · rw [ParamStore.removeConfig_configs_get?, if_neg notOld, configOther k notNew]
  · rw [ParamStore.removeConfig_anyTypes_get?_anyKey_of_ne _ oldFree newFree (Ne.symm apart), anyNew]
  · rw [ParamStore.removeConfig_anyTypes_get?_of_ne _ _ _ notOld, anyOther key notNew]

/-- In a sound editor, renaming a live node `x` to a valid name `y` no node has succeeds and
substitutes `y` for `x` everywhere: the node keeps its package and position, the edges are the old
ones with their ends at `x` moved to `y`, and the config and chosen types of `x` move to `y`.
Besides, the selection becomes `y` alone, so no other node is flagged; nothing else changes, and
no node, edge, config or chosen type names `x` any more. -/
theorem rename_substitutes (h : e.Invariant) (found : e.node? x = some n)
    (valid : isValidNodeName y = true) (free : e.graph.contains y = false) :
    ∃ e', (rename x y).run e = .ok ⟨y, n.package, n.position, true⟩ e' ∧
      e'.node? y = some ⟨y, n.package, n.position, true⟩ ∧ e'.node? x = none ∧
      (∀ k, k ≠ x → k ≠ y → e'.node? k = (e.node? k).map fun m => { m with selected := false }) ∧
      e'.graph.edges.Perm (e.graph.edges.map (·.renamed x y)) ∧
      (∀ b ∈ e'.graph.edges, b.fromNode ≠ x ∧ b.toNode ≠ x) ∧
      e'.params.configs.get? y = e.params.configs.get? x ∧ e'.params.configs.get? x = none ∧
      (∀ k, k ≠ x → k ≠ y → e'.params.configs.get? k = e.params.configs.get? k) ∧
      (∀ p, e'.params.anyTypes.get? (anyKey y p) = e.params.anyTypes.get? (anyKey x p)) ∧
      (∀ p, e'.params.anyTypes.get? (anyKey x p) = none) ∧
      (∀ key, (∀ p, key ≠ anyKey x p) → (∀ p, key ≠ anyKey y p) →
        e'.params.anyTypes.get? key = e.params.anyTypes.get? key) ∧
      e'.selection.selected = [⟨y, n.package⟩] ∧ e'.selection.doubleClick = e.selection.doubleClick ∧
      e'.catalog = e.catalog ∧ e'.transform = e.transform := by
  obtain ⟨s, entry⟩ := Option.isSome_iff_exists.mp (h.graph.package_known found)
  have apart : x ≠ y := ne_of_node?_of_contains found free
  obtain ⟨es, members, ran⟩ := rename_run_of_sound h found entry valid free
  have soundAfter : (e.renamedSelected x y n s es).Invariant := by
    have sound' := h.rename x y
    rwa [Edit.after_of_run_ok ran] at sound'
  have nodeAfter := renamedSelected_node? (x := x) (y := y) (n := n) (s := s) h.graph.edgesSound es
  obtain ⟨configNew, configOld, configOther, anyNew, anyOld, anyOther⟩ := renamedSelected_params h found entry valid free es
  have oldGone : (e.renamedSelected x y n s es).graph.contains x = false := by
    rw [Graph.contains_eq_isSome, ← node?_def, nodeAfter, if_pos rfl]
    rfl
  refine ⟨_, ran, by rw [nodeAfter, if_neg (Ne.symm apart), if_pos rfl], by rw [nodeAfter, if_pos rfl],
    fun k notOld notNew => by rw [nodeAfter, if_neg notOld, if_neg notNew], ?_,
    fun b listed => soundAfter.graph.edgesSound.ends_ne_free oldGone listed, configNew, configOld, configOther, anyNew, anyOld, anyOther,
    rfl, rfl, rfl, rfl⟩
  have distinct : (e.graph.edges.map (·.renamed x y)).Nodup :=
    h.graph.edges_nodup.map_on fun a aListed b listed sameRenamed => h.graph.edgesSound.renamed_inj free aListed listed sameRenamed
  exact (List.perm_ext_iff_of_nodup soundAfter.graph.edges_nodup distinct).mpr members

/-- A catalog of one class `N` with an input `in`, an output `out` and an `any` parameter `p`. -/
def joinedAnyCatalog : Catalog :=
  Catalog.ofStructures [{
    package := "pkg.N"
    clazz := "N"
    input := Table.ofList [("in", ⟨"int"⟩)]
    output := Table.ofList [("out", ⟨"int"⟩)]
    parameter := [{ name := "p", type := "any" }] }]

/-- Of two joined nodes `a` and `b`, renaming `a` to `c` moves the edge's end and the chosen type
of `p` to `c`. -/
theorem rename_moves_joined_node :
    let S := replay [.create "pkg.N" ⟨0, 0⟩ (some "a"), .create "pkg.N" ⟨0, 0⟩ (some "b"),
      .connect "a" "out" "b" "in"] (ofCatalog joinedAnyCatalog)
    S.Invariant ∧ isValidNodeName "c" = true ∧ S.graph.contains "c" = false ∧
      ((rename "a" "c").after S).graph.edges = [⟨"c", "out", "b", "in"⟩] ∧
      ((rename "a" "c").after S).params.anyTypes.get? (anyKey "c" "p") = some "str" := by
  intro S
  have sound : S.Invariant := ((invariant_ofCatalog joinedAnyCatalog).replay (by decide) _ (by decide)).1
  have live : (S.node? "a").isSome = true := by decide
  obtain ⟨n, found⟩ := Option.isSome_iff_exists.mp live
  obtain ⟨e', ran, -, -, -, perm, -, -, -, -, anyNew, -⟩ :=
    rename_substitutes (y := "c") sound found (by decide) (by decide)
  rw [Edit.after_of_run_ok ran]
  have moved : S.graph.edges.map (·.renamed "a" "c") = [⟨"c", "out", "b", "in"⟩] := by decide
  rw [moved] at perm
  refine ⟨sound, by decide, by decide, List.perm_singleton.mp perm, ?_⟩
  rw [anyNew]
  decide

end Editor

end PipelineEditor
