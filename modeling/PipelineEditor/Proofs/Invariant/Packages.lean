import PipelineEditor.Proofs.Session

/-! Every run keeps every node's package in the catalog, whatever the catalog. -/

namespace PipelineEditor

namespace Editor

/-- Every node's package has an entry in the catalog. -/
def PackagesKnown (e : Editor) : Prop :=
  ∀ k n, e.node? k = some n → (e.catalog.get? n.package).isSome

section Frames

variable {e e' : Editor}

theorem PackagesKnown.of_sameShape (h : e.PackagesKnown) (shape : SameShape e e') :
    e'.PackagesKnown := by
  intro k n' found'
  obtain ⟨n, found, -, samePackage⟩ := shape.exists_node?_symm found'
  rw [shape.catalog, samePackage]
  exact h k n found

theorem PackagesKnown.reselect (h : e.PackagesKnown) (selection : Selection) :
    ({ e with selection }).syncSelectedFlags.PackagesKnown :=
  h.of_sameShape ⟨rfl, (sameShape_syncSelectedFlags { e with selection }).keys,
    (sameShape_syncSelectedFlags { e with selection }).ref⟩

theorem PackagesKnown.withNode (h : e.PackagesKnown) {n : Node} (params : ParamStore)
    (known : (e.catalog.get? n.package).isSome) : (e.withNode n params).PackagesKnown := by
  intro k m found
  rw [withNode_node?] at found
  split at found
  · cases found
    exact known
  · exact h k m found

theorem PackagesKnown.withoutNode (h : e.PackagesKnown) (name : String) :
    (e.withoutNode name).PackagesKnown :=
  fun k _ found => h k _ (ne_of_withoutNode_node? found).2

theorem PackagesKnown.addEdges (h : e.PackagesKnown) (edges : List Edge) :
    ((addEdges edges).after e).PackagesKnown := by
  obtain ⟨es, edgesAdded⟩ := addEdges_after_eq edges e
  rw [edgesAdded]
  exact h

end Frames

section Commands

variable {e e' : Editor}

theorem PackagesKnown.of_create (h : e.PackagesKnown) {package : String} {position : Position}
    {name? : Option String} {n : Node} (ran : (create package position name?).run e = .ok n e') :
    e'.PackagesKnown := by
  obtain ⟨s, entry, -, -, -, built, rfl⟩ := create_run_eq_ok ran
  have samePackage : n.package = package := by rw [built]
  exact h.withNode _ (by rw [samePackage, entry]; rfl)

theorem PackagesKnown.of_cloneAs (h : e.PackagesKnown) {model n : Node} {name : String}
    {position : Position} (ran : (cloneAs model name position).run e = .ok n e') :
    e'.PackagesKnown := by
  obtain ⟨s, entry, -, -, -, built, rfl⟩ := cloneAs_run_eq_ok ran
  have named : n.name = name := by rw [built]
  have samePackage : n.package = model.package := by rw [built]
  rw [← named]
  exact h.withNode _ (by rw [samePackage, entry]; rfl)

/-- Cloning nodes one by one keeps every package known, whether it ends or stops. -/
theorem PackagesKnown.cloneEach (h : e.PackagesKnown) (models : List Node) :
    ((cloneEach models).after e).PackagesKnown :=
  cloneEach_after_induction models (fun _ h ran => PackagesKnown.of_cloneAs h ran) h

/-- Copying keeps every package known, also when it stops after some clones. -/
theorem PackagesKnown.copy (h : e.PackagesKnown) (names : List String) :
    ((copy names).after e).PackagesKnown :=
  copy_after_induction h (fun models _ => h.cloneEach models) (fun _ _ _ _ _ sound₁ => sound₁.addEdges _)
    fun _ _ _ _ _ _ _ sound₂ => sound₂.reselect _

/-- Renaming keeps every package known: the node moves to its new name with its package, whose
entry the rename looked up. -/
theorem PackagesKnown.rename (h : e.PackagesKnown) (old new : String) :
    ((rename old new).after e).PackagesKnown :=
  rename_after_induction h
    (fun current s _ _ _ entry =>
      ((h.withNode (n := renamedNode current new) _ (by rw [entry]; rfl)).withoutNode old).addEdges _)
    fun _ _ _ _ _ _ _ _ sound₂ => sound₂.reselect _

theorem packagesKnown_ofCatalog (c : Catalog) : (ofCatalog c).PackagesKnown :=
  fun _ _ found => (invariant_ofCatalog c).graph.package_known found

/-- A loaded script satisfies the whole invariant over its catalog, so its packages are known. -/
theorem PackagesKnown.loadScript (h : e.PackagesKnown) (script : DecompiledScript) :
    ((loadScript script).after e).PackagesKnown :=
  loadScript_after_induction h fun _ stagedOk _ _ found =>
    (Invariant.stageScript stagedOk).1.graph.package_known found

end Commands

variable {e : Editor}

/-- One action keeps every package known, whatever the catalog. -/
theorem PackagesKnown.apply (h : e.PackagesKnown) (a : Action) : (a.apply e).PackagesKnown := by
  cases a with
  | create package position name? =>
    exact Edit.after_of_ok h (fun _ _ ran => h.of_create ran) fun _ _ => create_run_eq_error
  | connect fromNode fromPort toNode toPort =>
    refine Edit.after_of_ok h (fun _ _ ran => ?_) fun _ _ => connect_run_eq_error
    obtain ⟨es, rfl⟩ := connect_ok_edges ran
    exact h
  | delete name =>
    refine Edit.after_of_ok h (fun _ _ ran => ?_) fun _ _ => delete_run_eq_error
    obtain ⟨-, rfl⟩ := delete_run_eq_ok ran
    exact h.withoutNode name
  | clone name =>
    refine Edit.after_of_ok h (fun _ _ ran => ?_) fun _ _ => clone_run_eq_error
    obtain ⟨_, _, -, -, ran'⟩ := clone_run_eq_ok ran
    exact h.of_cloneAs ran'
  | copy names => exact h.copy names
  | rename old new => exact h.rename old new
  | renameSelected new => exact renameSelected_after_induction h fun r _ => h.rename r.name new
  | move name position =>
    refine Edit.after_of_ok h (fun _ _ ran => ?_) fun _ _ => move_run_eq_error
    obtain ⟨-, -, rfl⟩ := move_run_eq_ok ran
    exact h.of_sameShape (sameShape_updateNode e name position)
  | select name additive =>
    refine Edit.after_of_ok h (fun _ _ ran => ?_) fun _ _ => select_run_eq_error
    obtain ⟨n, -, rfl⟩ := select_run_eq_ok ran
    exact h.reselect _
  | toggle name =>
    refine Edit.after_of_ok h (fun _ _ ran => ?_) fun _ _ => select_run_eq_error
    obtain ⟨n, -, rfl⟩ := select_run_eq_ok ran
    exact h.reselect _
  | setParam node param value =>
    refine Edit.after_of_ok h (fun _ _ ran => ?_) fun _ _ => setParam_run_eq_error
    obtain ⟨params, -, rfl⟩ := setParam_run_eq_ok ran
    exact h
  | setAnyType node param concrete =>
    refine Edit.after_of_ok h (fun _ _ ran => ?_) fun _ _ => setAnyType_run_eq_error
    obtain ⟨params, -, rfl⟩ := setAnyType_run_eq_ok ran
    exact h
  | loadScript script => exact h.loadScript script
  | reset => exact packagesKnown_ofCatalog _
  | clearSelection =>
    show (clearSelection.after e).PackagesKnown
    rw [clearSelection_after]
    exact h.reselect _
  | disconnect edge =>
    show ((disconnect edge).after e).PackagesKnown
    rw [disconnect_after]
    exact h
  | disconnectPort port =>
    show ((disconnectPort port).after e).PackagesKnown
    rw [disconnectPort_after]
    exact h
  | markDoubleClick => exact h
  | takeDoubleClick => exact h
  | setTransform transform => exact h

/-- A run keeps every package known. -/
theorem PackagesKnown.replay (h : e.PackagesKnown) (actions : List Action) :
    (replay actions e).PackagesKnown := by
  induction actions generalizing e with
  | nil => exact h
  | cons a rest ih => exact ih (h.apply a)

/-- In every editor reached from a catalog's empty editor, whatever the catalog, every node's
package has an entry. -/
theorem packagesKnown_replay (c : Catalog) (actions : List Action) :
    (replay actions (ofCatalog c)).PackagesKnown :=
  (packagesKnown_ofCatalog c).replay actions

end Editor

end PipelineEditor
