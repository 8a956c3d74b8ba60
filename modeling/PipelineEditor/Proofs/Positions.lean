import PipelineEditor.Proofs.Session

/-! Every node of every editor a run reaches stands at a finite position. -/

namespace PipelineEditor

namespace Editor

/-- Every node stands at a finite position. -/
def PositionsFinite (e : Editor) : Prop :=
  ∀ k n, e.node? k = some n → n.position.isFinite = true

section Frames

variable {e e' : Editor}

theorem PositionsFinite.of_nodes (h : e.PositionsFinite) (sameNodes : e'.graph.nodes = e.graph.nodes) :
    e'.PositionsFinite := fun k n found => by
  rw [node?_def, sameNodes] at found
  exact h k n found

theorem positionsFinite_ofCatalog (c : Catalog) : (ofCatalog c).PositionsFinite := fun _ _ found => by
  simp [ofCatalog, Graph.empty] at found

/-- Reflagging nodes moves none of them. -/
theorem PositionsFinite.syncSelectedFlags (h : e.PositionsFinite) :
    e.syncSelectedFlags.PositionsFinite := by
  intro k n' found'
  simp only [node?_def, Editor.syncSelectedFlags, Table.get?_map] at found'
  obtain ⟨n, found, rfl⟩ := Option.map_eq_some_iff.mp found'
  exact h k n found

/-- Changing the selection and reflagging the nodes moves none of them. -/
theorem PositionsFinite.reselect (h : e.PositionsFinite) (selection : Selection) :
    ({ e with selection }).syncSelectedFlags.PositionsFinite := by
  refine PositionsFinite.syncSelectedFlags ?_
  exact h.of_nodes rfl

theorem PositionsFinite.withNode (h : e.PositionsFinite) {n : Node} (params : ParamStore)
    (finite : n.position.isFinite = true) : (e.withNode n params).PositionsFinite := by
  intro k m found
  rw [withNode_node?] at found
  split at found
  · cases found
    exact finite
  · exact h k m found

theorem PositionsFinite.withoutNode (h : e.PositionsFinite) (name : String) :
    (e.withoutNode name).PositionsFinite := fun k m found => h k m (ne_of_withoutNode_node? found).2

theorem PositionsFinite.addEdges (h : e.PositionsFinite) (edges : List Edge) :
    ((addEdges edges).after e).PositionsFinite := by
  obtain ⟨es, added⟩ := addEdges_after_eq edges e
  rw [added]
  exact h.of_nodes rfl

end Frames

section Commands

variable {e e' : Editor}

/-- A property a command keeps when it answers, given that its refusals change nothing. -/
theorem PositionsFinite.after {α : Type} {c : Edit α} (h : e.PositionsFinite)
    (ok : ∀ a e', c.run e = .ok a e' → e'.PositionsFinite)
    (error : ∀ err e', c.run e = .error err e' → e' = e) : (c.after e).PositionsFinite :=
  Edit.after_of_ok h ok error

theorem PositionsFinite.of_create (h : e.PositionsFinite) {package : String} {position : Position}
    {name? : Option String} {n : Node} (ran : (create package position name?).run e = .ok n e') :
    e'.PositionsFinite := by
  obtain ⟨s, -, finite, -, -, built, rfl⟩ := create_run_eq_ok ran
  refine h.withNode _ ?_
  rw [built]
  exact finite

theorem PositionsFinite.of_cloneAs (h : e.PositionsFinite) {model n : Node} {name : String}
    {position : Position} (ran : (cloneAs model name position).run e = .ok n e') :
    e'.PositionsFinite := by
  obtain ⟨s, -, finite, -, -, built, rfl⟩ := cloneAs_run_eq_ok ran
  have named : n.name = name := by rw [built]
  rw [← named]
  refine h.withNode _ ?_
  rw [built]
  exact finite

theorem PositionsFinite.cloneEach (h : e.PositionsFinite) (models : List Node) :
    ((cloneEach models).after e).PositionsFinite :=
  cloneEach_after_induction models (fun _ h ran => PositionsFinite.of_cloneAs h ran) h

theorem PositionsFinite.copy (h : e.PositionsFinite) (names : List String) :
    ((copy names).after e).PositionsFinite :=
  copy_after_induction h (fun models _ => h.cloneEach models) (fun _ _ _ _ _ finite₁ => finite₁.addEdges _)
    fun _ _ _ _ _ _ _ finite₂ => finite₂.reselect _

/-- A renamed node keeps its position. -/
theorem PositionsFinite.rename (h : e.PositionsFinite) (old new : String) :
    ((rename old new).after e).PositionsFinite :=
  rename_after_induction h
    (fun current _ _ _ oldFound _ =>
      ((h.withNode (n := renamedNode current new) _ (h old current oldFound)).withoutNode old).addEdges _)
    fun _ _ _ _ _ _ _ _ finite₂ => finite₂.reselect _

theorem PositionsFinite.move (h : e.PositionsFinite) (name : String) (position : Position) :
    ((move name position).after e).PositionsFinite := by
  refine h.after (fun _ e' ran => ?_) fun _ _ => move_run_eq_error
  obtain ⟨finite, -, rfl⟩ := move_run_eq_ok ran
  intro k m found
  simp only [node?_def, Graph.updateNode, Table.get?_modify] at found
  split at found
  · obtain ⟨m₀, -, rfl⟩ := Option.map_eq_some_iff.mp found
    exact finite
  · exact h k m found

/-- Storing a node call's settings leaves the graph as it was. -/
theorem applySettings_graph {node package : String} {settings : List Script.Param}
    (ran : e.applySettings node package settings = .ok e') : e'.graph = e.graph := by
  induction settings generalizing e with
  | nil =>
    cases ran
    rfl
  | cons p rest ih =>
    simp only [Editor.applySettings, Except.bind_eq_ok] at ran
    obtain ⟨store, -, restRan⟩ := ran
    cases typeTag : p.type with
    | none =>
      simp only [typeTag, pure_bind] at restRan
      rw [ih restRan]
    | some concrete =>
      simp only [typeTag, Except.bind_eq_ok] at restRan
      obtain ⟨s, -, stored⟩ := restRan
      split at stored
      · simp only [Except.bind_eq_ok, pure_bind] at stored
        obtain ⟨store', -, restRan⟩ := stored
        rw [ih restRan]
      · simp only [pure_bind] at stored
        rw [ih stored]

theorem PositionsFinite.stageCalls (h : e.PositionsFinite) {packages : List (String × String)}
    {calls : List Script.NodeCall} (ran : stageCalls packages e calls = .ok e') :
    e'.PositionsFinite := by
  induction calls generalizing e with
  | nil =>
    cases ran
    exact h
  | cons call rest ih =>
    simp only [Editor.stageCalls, Except.bind_eq_ok] at ran
    obtain ⟨package, -, position, -, ⟨n, e₁⟩, created, e₂, settingsRan, restRan⟩ := ran
    rw [Edit.toExcept_eq_ok] at created
    exact ih ((h.of_create created).of_nodes (by rw [applySettings_graph settingsRan])) restRan

theorem PositionsFinite.stageLinks (h : e.PositionsFinite) {links : List Script.Link}
    (ran : stageLinks e links = .ok e') : e'.PositionsFinite := by
  induction links generalizing e with
  | nil =>
    cases ran
    exact h
  | cons l rest ih =>
    simp only [Editor.stageLinks, Except.bind_eq_ok] at ran
    obtain ⟨⟨edge, e₁⟩, connected, restRan⟩ := ran
    rw [Edit.toExcept_eq_ok] at connected
    obtain ⟨es, rfl⟩ := connect_ok_edges connected
    refine ih ?_ restRan
    exact h.of_nodes rfl

theorem positionsFinite_stageScript {script : DecompiledScript}
    (ran : e.stageScript script = .ok e') : e'.PositionsFinite := by
  simp only [Editor.stageScript, Except.bind_eq_ok] at ran
  obtain ⟨staged, callsRan, staged₂, linksRan, done⟩ := ran
  cases done
  exact (((positionsFinite_ofCatalog _).stageCalls callsRan).stageLinks linksRan).reselect _

theorem PositionsFinite.loadScript (h : e.PositionsFinite) (script : DecompiledScript) :
    ((loadScript script).after e).PositionsFinite :=
  loadScript_after_induction h fun _ staged => positionsFinite_stageScript staged

end Commands

variable {e : Editor}

/-- One action keeps every node at a finite position. -/
theorem PositionsFinite.apply (h : e.PositionsFinite) (a : Action) :
    (a.apply e).PositionsFinite := by
  cases a with
  | create package position name? =>
    exact h.after (fun _ _ ran => h.of_create ran) fun _ _ => create_run_eq_error
  | connect fromNode fromPort toNode toPort =>
    refine h.after (fun _ _ ran => ?_) fun _ _ => connect_run_eq_error
    obtain ⟨es, rfl⟩ := connect_ok_edges ran
    exact h.of_nodes rfl
  | delete name =>
    refine h.after (fun _ _ ran => ?_) fun _ _ => delete_run_eq_error
    obtain ⟨-, rfl⟩ := delete_run_eq_ok ran
    exact h.withoutNode name
  | clone name =>
    refine h.after (fun _ _ ran => ?_) fun _ _ => clone_run_eq_error
    obtain ⟨_, _, -, -, cloned⟩ := clone_run_eq_ok ran
    exact h.of_cloneAs cloned
  | copy names => exact h.copy names
  | rename old new => exact h.rename old new
  | renameSelected new => exact renameSelected_after_induction h fun r _ => h.rename r.name new
  | move name position => exact h.move name position
  | select name additive =>
    refine h.after (fun _ _ ran => ?_) fun _ _ => select_run_eq_error
    obtain ⟨n, -, rfl⟩ := select_run_eq_ok ran
    exact h.reselect _
  | toggle name =>
    refine h.after (fun _ _ ran => ?_) fun _ _ => select_run_eq_error
    obtain ⟨n, -, rfl⟩ := select_run_eq_ok ran
    exact h.reselect _
  | setParam node param value =>
    refine h.after (fun _ _ ran => ?_) fun _ _ => setParam_run_eq_error
    obtain ⟨params, -, rfl⟩ := setParam_run_eq_ok ran
    exact h.of_nodes rfl
  | setAnyType node param concrete =>
    refine h.after (fun _ _ ran => ?_) fun _ _ => setAnyType_run_eq_error
    obtain ⟨params, -, rfl⟩ := setAnyType_run_eq_ok ran
    exact h.of_nodes rfl
  | loadScript script => exact h.loadScript script
  | reset => exact positionsFinite_ofCatalog _
  | disconnect edge =>
    show ((disconnect edge).after e).PositionsFinite
    rw [disconnect_after]
    exact h.of_nodes rfl
  | disconnectPort port =>
    show ((disconnectPort port).after e).PositionsFinite
    rw [disconnectPort_after]
    exact h.of_nodes rfl
  | clearSelection =>
    show (clearSelection.after e).PositionsFinite
    rw [clearSelection_after]
    exact h.reselect _
  | markDoubleClick => exact h.of_nodes rfl
  | takeDoubleClick => exact h.of_nodes rfl
  | setTransform transform => exact h.of_nodes rfl

/-- A run keeps every node at a finite position. -/
theorem PositionsFinite.replay (h : e.PositionsFinite) (actions : List Action) :
    (replay actions e).PositionsFinite := by
  induction actions generalizing e with
  | nil => exact h
  | cons a rest ih => exact ih (h.apply a)

end Editor

end PipelineEditor
