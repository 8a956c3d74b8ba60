import PipelineEditor.Proofs.Session

/-! Every run keeps the edges sound, whatever names the catalog gives new nodes. -/

namespace PipelineEditor

namespace Editor

section Commands

variable {e e' : Editor}

theorem EdgesSound.of_create (h : e.EdgesSound) {package : String} {position : Position}
    {name? : Option String} {n : Node} (ran : (create package position name?).run e = .ok n e') :
    e'.EdgesSound := by
  obtain ⟨s, -, -, -, fresh, -, rfl⟩ := create_run_eq_ok ran
  exact h.withNode _ fresh

theorem EdgesSound.of_cloneAs (h : e.EdgesSound) {model n : Node} {name : String}
    {position : Position} (ran : (cloneAs model name position).run e = .ok n e') :
    e'.EdgesSound := by
  obtain ⟨s, -, -, -, fresh, built, rfl⟩ := cloneAs_run_eq_ok ran
  have named : n.name = name := by rw [built]
  rw [← named] at fresh ⊢
  exact h.withNode _ fresh

/-- Cloning nodes one by one keeps the edges sound, whether it ends or stops. -/
theorem EdgesSound.cloneEach (h : e.EdgesSound) (models : List Node) :
    ((cloneEach models).after e).EdgesSound :=
  cloneEach_after_induction models (fun _ h ran => EdgesSound.of_cloneAs h ran) h

/-- Copying keeps the edges sound, also when it stops after some clones: the edges it adds join
clones, under fresh names pairwise different, as their models were joined. -/
theorem EdgesSound.copy (h : e.EdgesSound) (names : List String) :
    ((copy names).after e).EdgesSound := by
  refine copy_after_induction h (fun models _ => h.cloneEach models)
    (fun models pairs e₁ copied ran sound₁ => ?_) fun _ _ _ _ _ _ _ sound₂ => sound₂.reselect _
  have live : ∀ m ∈ models, ∃ k, e.node? k = some m :=
    fun m listed => ((copiedNodes_eq_ok copied).1 m listed).1
  have cloned := cloneEach_run_eq_ok ran
  exact sound₁.addEdges _ (cloned.cloneEdges_fit h live) (cloned.cloneEdges_free h live)

/-- Renaming keeps the edges sound: the node's edges move to a free name. -/
theorem EdgesSound.rename (h : e.EdgesSound) (old new : String) :
    ((rename old new).after e).EdgesSound :=
  rename_after_induction h
    (fun current _ _ free oldFound _ =>
      ((h.withNode (n := renamedNode current new) _ free).withoutNode).addEdges _
        (h.renamed_fits free oldFound) (h.renamed_free free))
    fun _ _ _ _ _ _ _ _ sound₂ => sound₂.reselect _

theorem edgesSound_ofCatalog (c : Catalog) : (ofCatalog c).EdgesSound :=
  (invariant_ofCatalog c).graph.edgesSound

/-- A loaded script satisfies the whole invariant, so its edges are sound. -/
theorem EdgesSound.loadScript (h : e.EdgesSound) (script : DecompiledScript) :
    ((loadScript script).after e).EdgesSound :=
  loadScript_after_induction h fun _ stagedOk => (Invariant.stageScript stagedOk).1.graph.edgesSound

end Commands

variable {e : Editor}

/-- One action keeps the edges sound, whatever the catalog. -/
theorem EdgesSound.apply (h : e.EdgesSound) (a : Action) : (a.apply e).EdgesSound := by
  cases a with
  | create package position name? =>
    exact Edit.after_of_ok h (fun _ _ ran => h.of_create ran) fun _ _ => create_run_eq_error
  | connect fromNode fromPort toNode toPort =>
    exact Edit.after_of_ok h (fun _ _ ran => h.connect_ok ran) fun _ _ => connect_run_eq_error
  | delete name =>
    refine Edit.after_of_ok h (fun _ _ ran => ?_) fun _ _ => delete_run_eq_error
    obtain ⟨-, rfl⟩ := delete_run_eq_ok ran
    exact h.withoutNode
  | clone name =>
    refine Edit.after_of_ok h (fun _ _ ran => ?_) fun _ _ => clone_run_eq_error
    obtain ⟨_, _, -, -, ran'⟩ := clone_run_eq_ok ran
    exact h.of_cloneAs ran'
  | copy names => exact h.copy names
  | rename old new => exact h.rename old new
  | renameSelected new => exact renameSelected_after_induction h fun r _ => h.rename r.name new
  | move name position =>
    refine Edit.after_of_ok h (fun _ _ ran => ?_) fun _ _ => move_run_eq_error
    obtain ⟨-, -, rfl⟩ := move_run_eq_ok ran
    exact h.of_sameShape (sameShape_updateNode e name position) rfl
  | select name additive =>
    refine Edit.after_of_ok h (fun _ _ ran => ?_) fun _ _ => select_run_eq_error
    obtain ⟨n, -, rfl⟩ := select_run_eq_ok ran
    exact h.reselect _
  | toggle name =>
    refine Edit.after_of_ok h (fun _ _ ran => ?_) fun _ _ => select_run_eq_error
    obtain ⟨n, -, rfl⟩ := select_run_eq_ok ran
    exact h.reselect _
  | setParam node param value =>
    refine Edit.after_of_ok h (fun _ _ ran => ?_) fun _ _ => setParam_run_eq_error
    obtain ⟨params, -, rfl⟩ := setParam_run_eq_ok ran
    exact h.of_sameShape (.of_nodes_eq rfl rfl) rfl
  | setAnyType node param concrete =>
    refine Edit.after_of_ok h (fun _ _ ran => ?_) fun _ _ => setAnyType_run_eq_error
    obtain ⟨params, -, rfl⟩ := setAnyType_run_eq_ok ran
    exact h.of_sameShape (.of_nodes_eq rfl rfl) rfl
  | loadScript script => exact h.loadScript script
  | reset => exact edgesSound_ofCatalog _
  | disconnect edge =>
    show ((disconnect edge).after e).EdgesSound
    rw [disconnect_after]
    exact h.of_sublist (List.erase_sublist ..)
  | disconnectPort port =>
    show ((disconnectPort port).after e).EdgesSound
    rw [disconnectPort_after]
    exact h.of_sublist (foldl_erase_sublist _ _)
  | clearSelection =>
    show (clearSelection.after e).EdgesSound
    rw [clearSelection_after]
    exact h.reselect _
  | markDoubleClick => exact h.of_sameShape (.of_nodes_eq rfl rfl) rfl
  | takeDoubleClick => exact h.of_sameShape (.of_nodes_eq rfl rfl) rfl
  | setTransform transform => exact h.of_sameShape (.of_nodes_eq rfl rfl) rfl

/-- A run keeps the edges sound. -/
theorem EdgesSound.replay (h : e.EdgesSound) (actions : List Action) :
    (replay actions e).EdgesSound := by
  induction actions generalizing e with
  | nil => exact h
  | cons a rest ih => exact ih (h.apply a)

/-- Every editor reached from a catalog's empty editor has sound edges, whatever the catalog. -/
theorem edgesSound_replay (c : Catalog) (actions : List Action) :
    (replay actions (ofCatalog c)).EdgesSound :=
  (edgesSound_ofCatalog c).replay actions

end Editor

end PipelineEditor
