import PipelineEditor.Proofs.Commands.Rename

/-! Copying and cloning, exactly: the clones they make, their configs, edges and selection. -/

namespace PipelineEditor

namespace Editor

section Gather

variable {e : Editor}

/-- Appending a name keeps it only when it is new. -/
theorem eraseDups_append_singleton (ys : List String) (k : String) :
    (ys ++ [k]).eraseDups = if k ∈ ys then ys.eraseDups else ys.eraseDups ++ [k] := by
  rw [List.eraseDups_append]
  by_cases seen : k ∈ ys <;> simp [List.removeAll, seen, List.eraseDups_cons]

/-- A fold whose step takes the result for the names read to the result for one more name ends
in the result for all of them. -/
theorem foldlM_eq_ok_of_step {α : Type} {f : α → String → Except EditorError α}
    (g : List String → α) (P : String → Prop) (step : ∀ ys k, (∀ y ∈ ys, P y) → P k → f (g ys) k = .ok (g (ys ++ [k]))) :
    ∀ (names ys : List String), (∀ y ∈ ys, P y) → (∀ k ∈ names, P k) →
      names.foldlM f (g ys) = .ok (g (ys ++ names)) := by
  intro names
  induction names with
  | nil => simp [pure, Except.pure]
  | cons k rest ih =>
    intro ys readOk namesOk
    have nameOk := namesOk k List.mem_cons_self
    rw [List.foldlM_cons, step ys k readOk nameOk]
    simp only [bind, Except.bind]
    have readOk' : ∀ y ∈ ys ++ [k], P y := by
      intro y listed
      rcases List.mem_append.mp listed with listed | listed
      · exact readOk y listed
      · rw [List.mem_singleton.mp listed]
        exact nameOk
    have restDone := ih (ys ++ [k]) readOk' fun y listed => namesOk y (List.mem_cons_of_mem _ listed)
    rwa [List.append_assoc, List.singleton_append] at restDone

/-- The nodes gathered for a copy from live names are those of the names without repeats, in the
order each was first named. -/
theorem copiedNodes_of_live (h : e.EdgesSound)
    (known : ∀ {k n}, e.node? k = some n → (e.catalog.get? n.package).isSome) {names : List String}
    (live : ∀ k ∈ names, (e.node? k).isSome) :
    e.copiedNodes names = .ok (names.eraseDups.filterMap e.node?) := by
  unfold copiedNodes
  refine foldlM_eq_ok_of_step (fun ys => ys.eraseDups.filterMap e.node?)
    (fun k => (e.node? k).isSome) ?_ names [] (by simp) live
  intro ys k readOk live'
  obtain ⟨n, found⟩ := Option.isSome_iff_exists.mp live'
  obtain ⟨s, entry⟩ := Option.isSome_iff_exists.mp (known found)
  have named : n.name = k := h.name_eq found
  simp only [existingNode_eq_ok.mpr found, Catalog.structure?_eq_ok.mpr entry, bind, Except.bind, pure,
    Except.pure, Except.ok.injEq]
  have seenBefore : (ys.eraseDups.filterMap e.node?).any (·.name == n.name) = decide (k ∈ ys) := by
    rw [named, Bool.eq_iff_iff, List.any_eq_true, decide_eq_true_iff]
    constructor
    · rintro ⟨m, gathered, sameName⟩
      obtain ⟨y, read, foundY⟩ := List.mem_filterMap.mp gathered
      rw [beq_iff_eq, h.name_eq foundY] at sameName
      exact List.mem_eraseDups.mp (sameName ▸ read)
    · intro seen
      exact ⟨n, List.mem_filterMap.mpr ⟨k, List.mem_eraseDups.mpr seen, found⟩, by simp [named]⟩
  rw [seenBefore, eraseDups_append_singleton]
  by_cases seen : k ∈ ys
  · simp [seen]
  · rw [if_neg (by simpa using seen), if_neg seen, List.filterMap_append]
    simp only [List.filterMap_cons, found, List.filterMap_nil]

/-- The nodes of live names bear those names. -/
theorem names_filterMap_node? (h : e.EdgesSound) {names : List String}
    (live : ∀ k ∈ names, (e.node? k).isSome) : (names.filterMap e.node?).map Node.name = names := by
  have named : names.filterMap (fun k => (e.node? k).map Node.name) = names.filterMap some :=
    List.filterMap_congr fun k listed => by
      obtain ⟨m, found⟩ := Option.isSome_iff_exists.mp (live k listed)
      rw [found, Option.map_some, h.name_eq found]
  rw [List.map_filterMap, named, List.filterMap_some]

end Gather

section Clone

variable {e : Editor} {m : Node} {s : NodeStructure} {name : String} {position : Position}

/-- In a sound editor, cloning a live node under a valid free name at a finite position adds the
clone, unselected, with the node's config and chosen types, and changes nothing else. -/
theorem cloneAs_run_of_sound (h : e.Invariant) (found : e.node? m.name = some m)
    (entry : e.catalog.get? m.package = some s) (valid : isValidNodeName name = true)
    (free : e.graph.contains name = false) (finite : position.isFinite = true) :
    ∃ st', (cloneAs m name position).run e = .ok ⟨name, m.package, position, false⟩
        (e.withNode ⟨name, m.package, position, false⟩ st') ∧
      st'.configs.get? name = e.params.configs.get? m.name ∧
      (∀ k, k ≠ name → st'.configs.get? k = e.params.configs.get? k) ∧
      (∀ p, st'.anyTypes.get? (anyKey name p) = e.params.anyTypes.get? (anyKey m.name p)) ∧
      (∀ key, (∀ p, key ≠ anyKey name p) → st'.anyTypes.get? key = e.params.anyTypes.get? key) := by
  obtain ⟨c, e₁, ran⟩ := cloneAs_run_ok entry finite valid free
  obtain ⟨s', entry', -, -, -, rfl, rfl⟩ := cloneAs_run_eq_ok ran
  rw [entry] at entry'
  cases entry'
  have apart : m.name ≠ name := ne_of_node?_of_contains found free
  have newFree := (isValidNodeName_iff.mp valid).2
  obtain ⟨st', cloned, configNew, configOther, anyNew, anyOther⟩ := h.cloneConfig?_params found entry newFree apart
    (e.params.initNode name s) (fun k notNew => by rw [ParamStore.initNode_configs_get?, if_neg notNew])
    (fun key notNewKey => ParamStore.initNode_anyTypes_get?_of_ne _ _ _ _ notNewKey)
    fun p undeclared => by
      rw [ParamStore.initNode_anyTypes_get?_anyKey, if_neg undeclared, h.anyTypes_anyKey_of_free newFree free]
  have newParams : ((e.params.initNode name s).cloneConfig? m.name s name).getD
      (e.params.initNode name s) = st' := by rw [cloned]; rfl
  refine ⟨st', ?_, configNew, configOther, anyNew, anyOther⟩
  rw [← newParams]
  exact ran

end Clone

/-- The clones copying makes of nodes, one after another: each is named the next free name from
its original's name against the nodes the clones before it joined, has its original's package,
stands 200 to the right of and 200 below it, and is not selected. -/
def plannedClones (e : Editor) : List Node → List Node
  | [] => []
  | m :: rest =>
    let c : Node := ⟨e.nextNodeName m.name, m.package, m.position.offset cloneOffset cloneOffset, false⟩
    c :: plannedClones { e with graph := { e.graph with nodes := e.graph.nodes.insert c.name c } } rest

section Planned

variable {e e' : Editor}

/-- The plan reads only the nodes. -/
theorem plannedClones_congr (sameGraph : e.graph = e'.graph) (models : List Node) :
    e.plannedClones models = e'.plannedClones models := by
  induction models generalizing e e' with
  | nil => rfl
  | cons m rest ih =>
    simp only [plannedClones, nextNodeName, sameGraph]
    exact congrArg _ (ih rfl)

theorem length_plannedClones (models : List Node) : (e.plannedClones models).length = models.length := by
  induction models generalizing e with
  | nil => rfl
  | cons m rest ih => simp [plannedClones, ih]

/-- Every planned clone is named by a name no node of the editor has. -/
theorem plannedClones_fresh (models : List Node) :
    ∀ c ∈ e.plannedClones models, e.graph.contains c.name = false := by
  induction models generalizing e with
  | nil => simp [plannedClones]
  | cons m rest ih =>
    intro c planned
    rcases List.mem_cons.mp planned with rfl | planned
    · exact nextNodeName_free e m.name
    · -- a later clone's name is free once the first clone has joined, so it was free before
      have laterFree := ih c planned
      simp only [Graph.contains_eq_isSome, Table.get?_insert] at laterFree ⊢
      split at laterFree
      · cases laterFree
      · exact laterFree

/-- The planned clones are named apart. -/
theorem nodup_plannedClones (models : List Node) : ((e.plannedClones models).map Node.name).Nodup := by
  induction models generalizing e with
  | nil => simp [plannedClones]
  | cons m rest ih =>
    refine List.nodup_cons.mpr ⟨fun listedName => ?_, ih⟩
    obtain ⟨c, planned, sameName⟩ := List.mem_map.mp listedName
    have free := plannedClones_fresh rest c planned
    simp [Graph.contains_eq_isSome, sameName] at free

/-- No live name is a planned clone's. -/
theorem not_mem_plannedClones_of_node? {k : String} {m : Node} (found : e.node? k = some m)
    (models : List Node) : k ∉ (e.plannedClones models).map Node.name := by
  intro listedName
  obtain ⟨c, planned, rfl⟩ := List.mem_map.mp listedName
  exact ne_of_node?_of_contains found (plannedClones_fresh models c planned) rfl

/-- A planned clone's name holds no `$` when its original's holds none. -/
theorem plannedClones_name (models : List Node) (modelsFree : ∀ m ∈ models, '$' ∉ m.name.toList) :
    ∀ c ∈ e.plannedClones models, '$' ∉ c.name.toList := by
  induction models generalizing e with
  | nil => simp [plannedClones]
  | cons m rest ih =>
    intro c planned
    rcases List.mem_cons.mp planned with rfl | planned
    · exact (isValidNodeName_iff.mp (isValidNodeName_nextNodeName e (modelsFree m List.mem_cons_self))).2
    · exact ih (fun m' listed => modelsFree m' (List.mem_cons_of_mem _ listed)) c planned

/-- Each planned clone has its original's package and position moved by the clone offset, and is
not selected. -/
theorem plannedClones_zip (models : List Node) :
    ∀ mc ∈ models.zip (e.plannedClones models), mc.2.package = mc.1.package ∧
      mc.2.position = mc.1.position.offset cloneOffset cloneOffset ∧ mc.2.selected = false := by
  induction models generalizing e with
  | nil => simp
  | cons m rest ih =>
    intro mc paired
    simp only [plannedClones, List.zip_cons_cons, List.mem_cons] at paired
    rcases paired with rfl | paired
    · exact ⟨rfl, rfl, rfl⟩
    · exact ih mc paired

/-- The clones after the first are planned against the editor the first clone joined, whatever
parameters it holds. -/
theorem plannedClones_cons_withNode (model : Node) (rest : List Node) (params : ParamStore) :
    e.plannedClones (model :: rest) =
      ⟨e.nextNodeName model.name, model.package, model.position.offset cloneOffset cloneOffset, false⟩ ::
        (e.withNode ⟨e.nextNodeName model.name, model.package,
          model.position.offset cloneOffset cloneOffset, false⟩ params).plannedClones rest := by
  rw [plannedClones]
  exact congrArg (List.cons _) (plannedClones_congr (by rfl) rest)

end Planned

/-- What cloning the nodes `models` one after another leaves in `e'`, read against `e`: each
planned clone stands under its name with its original's config and chosen types, and every other
node, config and chosen type, the edges, the selection, the catalog and the view are as in `e`. -/
structure ClonedExactly (e e' : Editor) (models : List Node) : Prop where
  clone_node : ∀ c ∈ e.plannedClones models, e'.node? c.name = some c
  other_node : ∀ k, k ∉ (e.plannedClones models).map Node.name → e'.node? k = e.node? k
  clone_params : ∀ mc ∈ models.zip (e.plannedClones models),
    e'.params.configs.get? mc.2.name = e.params.configs.get? mc.1.name ∧
      ∀ p, e'.params.anyTypes.get? (anyKey mc.2.name p) = e.params.anyTypes.get? (anyKey mc.1.name p)
  other_config : ∀ k, k ∉ (e.plannedClones models).map Node.name →
    e'.params.configs.get? k = e.params.configs.get? k
  other_anyType : ∀ key, (∀ c ∈ e.plannedClones models, ∀ p, key ≠ anyKey c.name p) →
    e'.params.anyTypes.get? key = e.params.anyTypes.get? key
  edges : e'.graph.edges = e.graph.edges
  selection : e'.selection = e.selection
  catalog : e'.catalog = e.catalog
  transform : e'.transform = e.transform

theorem ClonedExactly.nil (e : Editor) : ClonedExactly e e [] where
  clone_node := by simp [plannedClones]
  other_node _ _ := rfl
  clone_params := by simp [plannedClones]
  other_config _ _ := rfl
  other_anyType _ _ := rfl
  edges := rfl
  selection := rfl
  catalog := rfl
  transform := rfl

/-- The step of the cloning: a first clone of `model`, added with its original's config and chosen
types and nothing else changed, followed by clones of `rest` that leave `e'` exactly, leaves `e'`
exactly for `model :: rest`. -/
theorem ClonedExactly.cons {e e' : Editor} (h : e.Invariant) {model : Node} {rest : List Node}
    (found : e.node? model.name = some model) (restFound : ∀ m ∈ rest, e.node? m.name = some m)
    {st' : ParamStore}
    (configNew : st'.configs.get? (e.nextNodeName model.name) = e.params.configs.get? model.name)
    (configOther : ∀ k, k ≠ e.nextNodeName model.name → st'.configs.get? k = e.params.configs.get? k)
    (anyNew : ∀ p, st'.anyTypes.get? (anyKey (e.nextNodeName model.name) p) =
      e.params.anyTypes.get? (anyKey model.name p))
    (anyOther : ∀ key, (∀ p, key ≠ anyKey (e.nextNodeName model.name) p) →
      st'.anyTypes.get? key = e.params.anyTypes.get? key)
    (restCloned : ClonedExactly (e.withNode ⟨e.nextNodeName model.name, model.package,
      model.position.offset cloneOffset cloneOffset, false⟩ st') e' rest) :
    ClonedExactly e e' (model :: rest) := by
  set c : Node := ⟨e.nextNodeName model.name, model.package,
    model.position.offset cloneOffset cloneOffset, false⟩ with cDef
  set P := (e.withNode c st').plannedClones rest
  have plan : e.plannedClones (model :: rest) = c :: P := plannedClones_cons_withNode model rest st'
  have fresh : e.graph.contains c.name = false := nextNodeName_free e model.name
  have cloneFree : '$' ∉ c.name.toList :=
    (isValidNodeName_iff.mp (isValidNodeName_nextNodeName e (h.graph.dollar_not_mem found))).2
  have notLater : c.name ∉ P.map Node.name :=
    not_mem_plannedClones_of_node? (show (e.withNode c st').node? c.name = some c by
      rw [withNode_node?, if_pos rfl]) rest
  have laterNamesFree : ∀ c' ∈ P, '$' ∉ c'.name.toList := plannedClones_name rest fun m listed =>
    (GraphSound.dollar_not_mem h.graph (restFound m listed))
  have keysApart : ∀ c' ∈ P, ∀ p q, anyKey c.name p ≠ anyKey c'.name q := fun c' later p q collide =>
    notLater (List.mem_map.mpr ⟨c', later, ((anyKey_inj cloneFree (laterNamesFree c' later) collide).1).symm⟩)
  have origApart : ∀ m ∈ rest, m.name ≠ c.name := fun m listed => ne_of_node?_of_contains (restFound m listed) fresh
  have origKeysApart : ∀ m ∈ rest, ∀ p q, anyKey m.name p ≠ anyKey c.name q := fun m listed =>
    h.graph.anyKey_ne (restFound m listed) cloneFree (origApart m listed)
  refine
    { clone_node := ?_, other_node := ?_, clone_params := ?_, other_config := ?_,
      other_anyType := ?_, edges := restCloned.edges, selection := restCloned.selection,
      catalog := restCloned.catalog, transform := restCloned.transform } <;> rw [plan]
  · intro c'' planned
    rcases List.mem_cons.mp planned with rfl | planned
    · rw [restCloned.other_node _ notLater, withNode_node?, if_pos rfl]
    · exact restCloned.clone_node c'' planned
  · intro k notClone
    simp only [List.map_cons, List.mem_cons, not_or] at notClone
    rw [restCloned.other_node k notClone.2, withNode_node?, if_neg notClone.1]
  · intro mc paired
    rw [List.zip_cons_cons] at paired
    rcases List.mem_cons.mp paired with rfl | paired
    · exact ⟨(restCloned.other_config _ notLater).trans configNew,
        fun p => (restCloned.other_anyType _ fun c' later q => keysApart c' later p q).trans (anyNew p)⟩
    · -- a later clone copied its original as the first clone left it, which is as it was
      obtain ⟨config, anyTypes⟩ := restCloned.clone_params mc paired
      have origListed := (List.of_mem_zip paired).1
      exact ⟨config.trans (configOther _ (origApart _ origListed)),
        fun p => (anyTypes p).trans (anyOther _ fun q => origKeysApart _ origListed p q)⟩
  · intro k notClone
    simp only [List.map_cons, List.mem_cons, not_or] at notClone
    exact (restCloned.other_config k notClone.2).trans (configOther k notClone.1)
  · intro key notCloneKey
    exact (restCloned.other_anyType key fun c' later => notCloneKey c' (List.mem_cons_of_mem _ later)).trans
      (anyOther key (notCloneKey c List.mem_cons_self))

/-- In a sound editor with its nodes at finite positions, cloning live nodes one after another
makes exactly the planned clones, each with its original's config and chosen types. -/
theorem cloneEach_run_of_sound {e : Editor} (h : e.Invariant) (positions : e.PositionsFinite)
    (models : List Node) (live : ∀ m ∈ models, e.node? m.name = some m) :
    ∃ e', (cloneEach models).run e = .ok ((models.map Node.name).zip (e.plannedClones models)) e' ∧
      ClonedExactly e e' models := by
  induction models generalizing e with
  | nil => exact ⟨e, rfl, .nil e⟩
  | cons model rest ih =>
    have found := live model List.mem_cons_self
    have restFound : ∀ m ∈ rest, e.node? m.name = some m := fun m listed => live m (List.mem_cons_of_mem _ listed)
    obtain ⟨s, entry⟩ := Option.isSome_iff_exists.mp (h.graph.package_known found)
    have valid := isValidNodeName_nextNodeName e (h.graph.dollar_not_mem found)
    have fresh : e.graph.contains (e.nextNodeName model.name) = false := nextNodeName_free e model.name
    obtain ⟨st', ran₁, configNew, configOther, anyNew, anyOther⟩ :=
      cloneAs_run_of_sound h found entry valid fresh (offset_isFinite (positions _ _ found))
    obtain ⟨e', restRan, restCloned⟩ := ih (h.cloneAs_ok found ran₁) (positions.of_cloneAs ran₁)
      fun m listed => withNode_node?_of_node? fresh (restFound m listed)
    refine ⟨e', ?_, restCloned.cons h found restFound configNew configOther anyNew anyOther⟩
    rw [cloneEach_cons_run, ran₁]
    simp only [restRan, plannedClones_cons_withNode model rest st', List.map_cons, List.zip_cons_cons]

/-- The editor a copy leaves: the clones added, the edges `es`, and the clones selected. -/
abbrev copiedSelected (e₁ : Editor) (es : List Edge) (clones : List Node) : Editor :=
  ({ e₁ with
      graph := { e₁.graph with edges := es }
      selection := e₁.selection.replace (clones.map Node.ref) }).syncSelectedFlags

section Copied

variable {e e₁ : Editor} {models : List Node}

/-- Selecting nodes flags a node exactly when one of them has its name. -/
theorem contains_replace_iff (s : Selection) (clones : List Node) (k : String) :
    (s.replace (clones.map Node.ref)).contains k = true ↔ k ∈ clones.map Node.name := by
  simp only [Selection.replace, Selection.contains, List.any_map, List.any_eq_true,
    Function.comp_apply, Node.ref, beq_iff_eq, List.mem_map]

theorem copiedSelected_node?_clone (cloned : ClonedExactly e e₁ models) {c : Node}
    (planned : c ∈ e.plannedClones models) (es : List Edge) :
    (copiedSelected e₁ es (e.plannedClones models)).node? c.name = some { c with selected := true } := by
  rw [syncSelectedFlags_node?]
  show (e₁.node? c.name).map _ = _
  rw [cloned.clone_node c planned, Option.map_some,
    (contains_replace_iff _ _ _).mpr (List.mem_map_of_mem planned)]

theorem copiedSelected_node?_other (h : e.EdgesSound) (cloned : ClonedExactly e e₁ models) {k : String}
    (notClone : k ∉ (e.plannedClones models).map Node.name) (es : List Edge) :
    (copiedSelected e₁ es (e.plannedClones models)).node? k =
      (e.node? k).map fun m => { m with selected := false } := by
  rw [syncSelectedFlags_node?]
  show (e₁.node? k).map _ = _
  rw [cloned.other_node k notClone]
  cases found : e.node? k with
  | none => rfl
  | some m =>
    rw [Option.map_some, Option.map_some, h.name_eq found,
      Bool.eq_false_iff.mpr fun flagged => notClone ((contains_replace_iff _ _ _).mp flagged)]

end Copied

/-- In a sound editor with its nodes at finite positions, copying live nodes clones each distinct
one as planned, adds the edges among them moved onto the clones, and selects the clones, which it
gives back selected. -/
theorem copy_run_of_sound {e : Editor} (h : e.Invariant) (positions : e.PositionsFinite)
    {names : List String} (live : ∀ k ∈ names, (e.node? k).isSome) :
    let originals := names.eraseDups.filterMap e.node?
    let clones := e.plannedClones originals
    ∃ e₁ es, ClonedExactly e e₁ originals ∧
      (∀ x, x ∈ es ↔ x ∈ e.graph.edges ∨
        x ∈ cloneEdges ((originals.map Node.name).zip clones) e.graph.edges) ∧
      (copy names).run e = .ok (clones.map fun c => { c with selected := true })
        (copiedSelected e₁ es clones) := by
  intro originals clones
  have gathered : e.copiedNodes names = .ok originals :=
    copiedNodes_of_live h.graph.edgesSound h.graph.package_known live
  have origFound : ∀ m ∈ originals, e.node? m.name = some m := by
    intro m listed
    obtain ⟨k, -, found⟩ := List.mem_filterMap.mp listed
    rw [h.graph.name_eq found]
    exact found
  have origLive : ∀ m ∈ originals, ∃ k, e.node? k = some m := fun m listed => ⟨_, origFound m listed⟩
  obtain ⟨e₁, ran₁, cloned⟩ := cloneEach_run_of_sound h positions originals origFound
  -- the edges among the originals, moved onto the clones, fit and are never refused
  have clonedAll := cloneEach_run_eq_ok ran₁
  obtain ⟨e₂, added⟩ := addEdges_run_ok (e := e₁) _ (clonedAll.cloneEdges_fit h.graph.edgesSound origLive)
  obtain ⟨es, edgesAdded⟩ := addEdges_after_eq (cloneEdges ((originals.map Node.name).zip clones) e₁.graph.edges) e₁
  have members := mem_edges_of_addEdges_run added
  rw [Edit.after_of_run_ok added] at edgesAdded
  subst edgesAdded
  refine ⟨e₁, es, cloned, fun x => by rw [members, cloned.edges], ?_⟩
  have clonesOf : ((originals.map Node.name).zip (e.plannedClones originals)).map Prod.snd = clones :=
    List.map_snd_zip (by simp [length_plannedClones])
  have givenBack : clones.filterMap (fun c => (copiedSelected e₁ es clones).node? c.name) =
      clones.map fun c => { c with selected := true } := by
    rw [List.filterMap_congr fun c planned => copiedSelected_node?_clone cloned planned es]
    exact congrFun List.filterMap_eq_map clones
  rw [copy_run, gathered]
  simp only [ran₁, added, clonesOf]
  rw [← givenBack]

/-- In a sound editor whose catalog names new nodes without `$`, cloning a live node adds one
unselected clone, named the next free name from its package's base name and placed 200 to the
right and 200 down, with the node's config and chosen types. -/
theorem clone_run_of_sound {e : Editor} (h : e.Invariant) (namesFree : e.catalog.NamesFree)
    (positions : e.PositionsFinite) {x : String} {n : Node} (found : e.node? x = some n) {s : NodeStructure}
    (entry : e.catalog.get? n.package = some s) :
    ∃ st', (clone x).run e =
        .ok ⟨e.nextNodeName s.baseName, n.package, n.position.offset cloneOffset cloneOffset, false⟩
          (e.withNode ⟨e.nextNodeName s.baseName, n.package,
            n.position.offset cloneOffset cloneOffset, false⟩ st') ∧
      st'.configs.get? (e.nextNodeName s.baseName) = e.params.configs.get? x ∧
      (∀ k, k ≠ e.nextNodeName s.baseName → st'.configs.get? k = e.params.configs.get? k) ∧
      (∀ p, st'.anyTypes.get? (anyKey (e.nextNodeName s.baseName) p) =
        e.params.anyTypes.get? (anyKey x p)) ∧
      (∀ key, (∀ p, key ≠ anyKey (e.nextNodeName s.baseName) p) →
        st'.anyTypes.get? key = e.params.anyTypes.get? key) := by
  have named : n.name = x := h.graph.name_eq found
  have foundNamed : e.node? n.name = some n := by rw [named]; exact found
  obtain ⟨st', ran, configNew, configOther, anyNew, anyOther⟩ := cloneAs_run_of_sound h foundNamed entry
    (isValidNodeName_nextNodeName e (namesFree.baseName entry)) (nextNodeName_free e _)
    (offset_isFinite (positions _ _ found))
  rw [named] at configNew anyNew
  refine ⟨st', ?_, configNew, configOther, anyNew, anyOther⟩
  simp only [clone, EStateM.run_bind, EStateM.run_get, Edit.run_liftExcept,
    existingNode_eq_ok.mpr found, Catalog.structure?_eq_ok.mpr entry]
  exact ran

/-- Looking a key up among keys paired with values, then mapping the value, is looking it up
among the keys paired with the mapped values. -/
theorem lookup_zip_map {β γ : Type} (f : β → γ) :
    ∀ (keys : List String) (values : List β) (k : String),
      (keys.zip (values.map f)).lookup k = ((keys.zip values).lookup k).map f
  | [], _, _ => rfl
  | _ :: _, [], _ => rfl
  | a :: keys, v :: values, k => by
    simp only [List.map_cons, List.zip_cons_cons, List.lookup_cons]
    split <;> simp [lookup_zip_map f keys values k]

/-- An edge cloned between names paired with clones is an edge between two paired names, moved
onto their clones' names. -/
theorem mem_cloneEdges_zip {keys : List String} {clones : List Node} {edges : List Edge} {x : Edge} :
    x ∈ cloneEdges (keys.zip clones) edges ↔ ∃ b ∈ edges, ∃ u v,
      (keys.zip (clones.map Node.name)).lookup b.fromNode = some u ∧
      (keys.zip (clones.map Node.name)).lookup b.toNode = some v ∧ x = ⟨u, b.fromPort, v, b.toPort⟩ := by
  rw [mem_cloneEdges]
  simp only [lookup_zip_map]
  constructor
  · rintro ⟨b, original, p, q, fromClone, toClone, rfl⟩
    exact ⟨b, original, p.name, q.name, by rw [fromClone]; rfl, by rw [toClone]; rfl, rfl⟩
  · rintro ⟨b, original, u, v, fromName, toName, rfl⟩
    obtain ⟨p, fromClone, rfl⟩ := Option.map_eq_some_iff.mp fromName
    obtain ⟨q, toClone, rfl⟩ := Option.map_eq_some_iff.mp toName
    exact ⟨b, original, p, q, fromClone, toClone, rfl⟩

/-- Copy and clone in every editor reached from a catalog whose entries name new nodes without
`$`. Copying live names, repeats allowed, clones each distinct original once, in the order of
first naming, as planned: named the next free name from the original's name against the nodes the
earlier clones joined, with its package, 200 to the right and 200 down, its config and its chosen
types. Every old node stays, unselected, with its config and chosen types; the edges are the old
ones and one edge between the clones for each old edge between two originals; the clones are
selected and given back, in order. Cloning a live node adds one unselected clone named from its
package's base name, placed and set up the same way, with no edges and the selection kept. -/
theorem copy_and_clone_exact (c : Catalog) (catalogFree : c.NamesFree) (actions : List Action)
    (actionsFree : ∀ a ∈ actions, a.NamesFree) :
    let S := replay actions (ofCatalog c)
    (∀ names : List String, (∀ k ∈ names, (S.node? k).isSome) →
      let originals := names.eraseDups.filterMap S.node?
      let clones := S.plannedClones originals
      ∃ S', (copy names).run S = .ok (clones.map fun c => { c with selected := true }) S' ∧
        originals.map Node.name = names.eraseDups ∧
        (∀ oc ∈ originals.zip clones, oc.2.package = oc.1.package ∧
          oc.2.position = oc.1.position.offset cloneOffset cloneOffset ∧
          S'.node? oc.2.name = some { oc.2 with selected := true } ∧
          S'.params.configs.get? oc.2.name = S.params.configs.get? oc.1.name ∧
          ∀ p, S'.params.anyTypes.get? (anyKey oc.2.name p) = S.params.anyTypes.get? (anyKey oc.1.name p)) ∧
        (∀ k m, S.node? k = some m → S'.node? k = some { m with selected := false } ∧
          S'.params.configs.get? k = S.params.configs.get? k ∧
          ∀ p, S'.params.anyTypes.get? (anyKey k p) = S.params.anyTypes.get? (anyKey k p)) ∧
        (∀ k, S.node? k = none → k ∉ clones.map Node.name → S'.node? k = none) ∧
        S'.graph.edges.Nodup ∧
        (∀ x, x ∈ S'.graph.edges ↔ x ∈ S.graph.edges ∨ ∃ b ∈ S.graph.edges, ∃ u v,
          (names.eraseDups.zip (clones.map Node.name)).lookup b.fromNode = some u ∧
          (names.eraseDups.zip (clones.map Node.name)).lookup b.toNode = some v ∧
          x = ⟨u, b.fromPort, v, b.toPort⟩) ∧
        S'.selection.selected = clones.map Node.ref ∧ S'.catalog = S.catalog ∧
        S'.transform = S.transform) ∧
    (∀ x n, S.node? x = some n → ∃ s S', S.catalog.get? n.package = some s ∧
      (clone x).run S = .ok ⟨S.nextNodeName s.baseName, n.package,
        n.position.offset cloneOffset cloneOffset, false⟩ S' ∧
      (∀ k, S'.node? k = if k = S.nextNodeName s.baseName then some ⟨S.nextNodeName s.baseName,
        n.package, n.position.offset cloneOffset cloneOffset, false⟩ else S.node? k) ∧
      S'.params.configs.get? (S.nextNodeName s.baseName) = S.params.configs.get? x ∧
      (∀ p, S'.params.anyTypes.get? (anyKey (S.nextNodeName s.baseName) p) =
        S.params.anyTypes.get? (anyKey x p)) ∧
      (∀ k, (S.node? k).isSome → S'.params.configs.get? k = S.params.configs.get? k ∧
        ∀ p, S'.params.anyTypes.get? (anyKey k p) = S.params.anyTypes.get? (anyKey k p)) ∧
      S'.graph.edges = S.graph.edges ∧ S'.selection = S.selection) := by
  intro S
  obtain ⟨h, namesFree⟩ := (invariant_ofCatalog c).replay catalogFree actions actionsFree
  have positions : S.PositionsFinite := (positionsFinite_ofCatalog c).replay actions
  refine ⟨fun names live => ?_, fun x n foundX => ?_⟩
  · intro originals clones
    obtain ⟨e₁, es, cloned, members, ran⟩ := copy_run_of_sound h positions live
    have origNames : originals.map Node.name = names.eraseDups :=
      names_filterMap_node? h.graph.edgesSound fun k deduped => live k (List.mem_eraseDups.mp deduped)
    have soundAfter : (copiedSelected e₁ es clones).Invariant := by
      have sound' := h.copy names
      rwa [Edit.after_of_run_ok ran] at sound'
    have clonesFree : ∀ c ∈ clones, '$' ∉ c.name.toList := plannedClones_name originals fun m listed => by
      obtain ⟨k, -, found⟩ := List.mem_filterMap.mp listed
      rw [h.graph.name_eq found]
      exact h.graph.dollar_not_mem found
    have liveNotClone : ∀ {k m}, S.node? k = some m → k ∉ clones.map Node.name :=
      fun found => not_mem_plannedClones_of_node? found originals
    refine ⟨_, ran, origNames, fun oc paired => ?_, fun k m found => ?_,
      fun k absent notClone => by
        rw [copiedSelected_node?_other h.graph.edgesSound cloned notClone es, absent]; rfl,
      soundAfter.graph.edges_nodup, fun x => ?_, rfl, cloned.catalog, cloned.transform⟩
    · obtain ⟨samePackage, moved, -⟩ := plannedClones_zip originals oc paired
      exact ⟨samePackage, moved, copiedSelected_node?_clone cloned (List.of_mem_zip paired).2 es,
        cloned.clone_params oc paired⟩
    · refine ⟨by rw [copiedSelected_node?_other h.graph.edgesSound cloned (liveNotClone found) es, found]; rfl,
        cloned.other_config k (liveNotClone found), fun p => cloned.other_anyType _ fun c' planned q => ?_⟩
      exact h.graph.anyKey_ne found (clonesFree c' planned)
        (fun collide => liveNotClone found (collide ▸ List.mem_map_of_mem planned)) p q
    · show x ∈ es ↔ _
      rw [members, mem_cloneEdges_zip, origNames]
  · obtain ⟨s, entry⟩ := Option.isSome_iff_exists.mp (h.graph.package_known foundX)
    obtain ⟨st', ran, configNew, configOther, anyNew, anyOther⟩ := clone_run_of_sound h namesFree positions foundX entry
    have free := nextNodeName_free S s.baseName
    have newFree := (isValidNodeName_iff.mp (isValidNodeName_nextNodeName S (namesFree.baseName entry))).2
    refine ⟨s, _, entry, ran, fun k => withNode_node? k, configNew, anyNew, fun k live' => ?_, rfl, rfl⟩
    obtain ⟨m, foundM⟩ := Option.isSome_iff_exists.mp live'
    have apart : k ≠ S.nextNodeName s.baseName := ne_of_node?_of_contains foundM free
    exact ⟨configOther k apart, fun p => anyOther _ fun q => h.graph.anyKey_ne foundM newFree apart p q⟩

/-- Of two joined nodes `a` and `b`, copying `a`, `b` and `a` again makes the clones `a1` and
`b1`, joined as `a` and `b` are. -/
theorem copy_joins_copied_pair :
    joinedAnyCatalog.NamesFree ∧
      (∀ a ∈ [Action.create "pkg.N" ⟨0, 0⟩ (some "a"), .create "pkg.N" ⟨0, 0⟩ (some "b"),
        .connect "a" "out" "b" "in"], a.NamesFree) ∧
      ∃ clones S', (copy ["a", "b", "a"]).run (replay [.create "pkg.N" ⟨0, 0⟩ (some "a"),
          .create "pkg.N" ⟨0, 0⟩ (some "b"), .connect "a" "out" "b" "in"]
          (ofCatalog joinedAnyCatalog)) = .ok clones S' ∧
        clones.map Node.name = ["a1", "b1"] ∧ ⟨"a1", "out", "b1", "in"⟩ ∈ S'.graph.edges := by
  refine ⟨by decide, by decide, ?_⟩
  obtain ⟨copies, -⟩ := copy_and_clone_exact joinedAnyCatalog (by decide) [.create "pkg.N" ⟨0, 0⟩ (some "a"),
    .create "pkg.N" ⟨0, 0⟩ (some "b"), .connect "a" "out" "b" "in"] (by decide)
  obtain ⟨S', ran, -, -, -, -, -, edgesAfter, -⟩ := copies ["a", "b", "a"] (by decide)
  exact ⟨_, S', ran, by decide,
    (edgesAfter _).mpr (.inr ⟨⟨"a", "out", "b", "in"⟩, by decide, "a1", "b1", by decide, by decide, rfl⟩)⟩

/-- With a `$` in a class, the live node `A$B1` cannot be copied: its clone's name `A$B11` is no
valid name. -/
theorem copy_dollar_node_refused :
    ¬ ∀ names : List String,
      (∀ k ∈ names, ((replay [.create "pkg.X" ⟨0, 0⟩ none] (ofCatalog dollarClassCatalog)).node? k).isSome) →
      ∃ clones S', (copy names).run (replay [.create "pkg.X" ⟨0, 0⟩ none] (ofCatalog dollarClassCatalog)) =
        .ok clones S' := by
  intro clonedAll
  obtain ⟨clones, S', ran⟩ := clonedAll ["A$B1"] (by decide)
  have refused : (copy ["A$B1"]).run (replay [.create "pkg.X" ⟨0, 0⟩ none] (ofCatalog dollarClassCatalog)) =
      .error (.invalidName "A$B11") ((copy ["A$B1"]).after
        (replay [.create "pkg.X" ⟨0, 0⟩ none] (ofCatalog dollarClassCatalog))) := rfl
  rw [refused] at ran
  cases ran

end Editor

end PipelineEditor
