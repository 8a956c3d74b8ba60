import PipelineEditor.Proofs.Positions
import PipelineEditor.Proofs.Binary64
import PipelineEditor.Snapshot.Load

/-! Refused commands change nothing in every editor a run reaches from a catalog of `$`-free names. -/

namespace PipelineEditor

namespace Edit

theorem after_map {α β : Type} (f : α → β) (c : Edit α) (e : Editor) :
    (f <$> c).after e = c.after e := by
  unfold after
  rw [run_map]
  cases c.run e <;> rfl

theorem run_map_eq_error {α β : Type} {f : α → β} {c : Edit α} {e e' : Editor}
    {err : EditorError} : (f <$> c).run e = .error err e' ↔ c.run e = .error err e' := by
  rw [run_map]
  cases c.run e <;> simp

end Edit

namespace Editor

section FreeNames

/-- Reading the decimal digits of a number gives the number back. -/
theorem digitsValue_toDigits (n : Nat) : Decimal.digitsValue (Nat.toDigits 10 n) = n := by
  induction n using Nat.strong_induction_on with
  | _ n ih =>
    have digitChar : ∀ d < 10, Decimal.digitValue (Nat.digitChar d) = d := by decide
    by_cases small : n < 10
    · rw [Nat.toDigits_of_lt_base small]
      simpa [Decimal.digitsValue] using digitChar n small
    · rw [Nat.toDigits_of_base_le (by decide) (by omega), Decimal.digitsValue, List.foldl_append,
        ← Decimal.digitsValue, ih (n / 10) (by omega)]
      simp only [List.foldl_cons, List.foldl_nil, digitChar (n % 10) (Nat.mod_lt n (by decide))]
      omega

/-- Numbered names from one base are different for different numbers. -/
theorem append_toString_inj {base : String} {i j : Nat}
    (same : base ++ toString i = base ++ toString j) : i = j := by
  have chars := congrArg String.toList same
  simp only [String.toList_append, Nat.toString_eq_repr, Nat.toList_repr] at chars
  have digits := congrArg Decimal.digitsValue (List.append_cancel_left chars)
  rwa [digitsValue_toDigits, digitsValue_toDigits] at digits

/-- When the name settled on is taken, so is every candidate tried before it. -/
theorem freeName_taken (g : Graph) (base : String) (fuel : Nat) :
    ∀ n, g.contains (freeName g base fuel n) = true →
      ∀ i, n ≤ i → i ≤ n + fuel → g.contains (base ++ toString i) = true := by
  induction fuel with
  | zero =>
    intro n settled i fromN toN
    rw [show i = n by omega]
    exact settled
  | succ fuel ih =>
    intro n settled i fromN toN
    simp only [freeName] at settled
    split at settled
    · rename_i taken
      rcases Nat.eq_or_lt_of_le fromN with rfl | later
      · exact taken
      · exact ih (n + 1) settled i later (by omega)
    · rename_i free
      exact absurd settled free

/-- The next name from a base is free: it tries one more candidate than there are nodes. -/
theorem nextNodeName_free (e : Editor) (base : String) :
    e.graph.contains (e.nextNodeName base) = false := by
  by_contra taken
  rw [Bool.not_eq_false] at taken
  have allTaken := freeName_taken e.graph base e.graph.nodeCount 1 taken
  -- the candidates `base1`, ..., `base(n + 1)` would be distinct keys of the `n` nodes
  have covered : ((List.range' 1 (e.graph.nodeCount + 1)).map fun i => base ++ toString i) ⊆
      e.graph.nodes.keys := by
    intro k listed
    obtain ⟨i, inRange, rfl⟩ := List.mem_map.mp listed
    rw [List.mem_range'_1] at inRange
    rw [Table.mem_keys_iff]
    exact allTaken i (by omega) (by omega)
  have distinct : ((List.range' 1 (e.graph.nodeCount + 1)).map fun i => base ++ toString i).Nodup :=
    (List.nodup_range' ..).map fun _ _ same => append_toString_inj same
  have length := distinct.length_le_of_subset covered
  simp [Graph.nodeCount, Table.size, Table.keys] at length

end FreeNames

section Progress

variable {e : Editor}

/-- A clone of a model of a known package, at a finite position under a valid free name, is
made. -/
theorem cloneAs_run_ok {model : Node} {name : String} {position : Position} {s : NodeStructure}
    (known : e.catalog.get? model.package = some s) (finite : position.isFinite = true)
    (valid : isValidNodeName name = true) (free : e.graph.contains name = false) :
    ∃ n e', (cloneAs model name position).run e = .ok n e' := by
  have named : e.newNodeName s.baseName (some name) = .ok name :=
    newNodeName_some_eq_ok.mpr ⟨valid, free, rfl⟩
  have nodeAdded : e.graph.addNode { name, package := model.package, position } =
      .ok { e.graph with
        nodes := e.graph.nodes.insert name { name, package := model.package, position } } :=
    Graph.addNode_eq_ok.mpr ⟨free, rfl⟩
  simp only [cloneAs, create, EStateM.run_bind, EStateM.run_get, Edit.run_liftExcept,
    Catalog.structure?_eq_ok.mpr known, ensureFinite, finite, if_true, named, nodeAdded, EStateM.run_set,
    EStateM.run_pure]
  exact ⟨_, _, rfl⟩

theorem offset_isFinite {p : Position} (finite : p.isFinite = true) :
    (p.offset cloneOffset cloneOffset).isFinite = true := by
  simp only [Position.isFinite, Bool.and_eq_true] at finite ⊢
  exact ⟨Binary64.isFinite_add_cloneOffset finite.1, Binary64.isFinite_add_cloneOffset finite.2⟩

/-- Adding edges that fit is never refused: each joins present nodes. -/
theorem addEdges_run_ok (edges : List Edge) (fits : ∀ b ∈ edges, e.EdgeFits b) :
    ∃ e', (addEdges edges).run e = .ok () e' := by
  induction edges generalizing e with
  | nil => exact ⟨e, rfl⟩
  | cons edge rest ih =>
    obtain ⟨-, a, b, fromTyped, toTyped, -⟩ := fits edge List.mem_cons_self
    have edgeAdded : ∃ added graph, e.graph.addEdge edge = .ok (added, graph) := by
      have fromLive := contains_of_portType_eq_ok fromTyped
      have toLive := contains_of_portType_eq_ok toTyped
      rw [Edge.source_node] at fromLive
      rw [Edge.target_node] at toLive
      unfold Graph.addEdge
      simp only [fromLive, toLive, Bool.not_true, Bool.false_eq_true, if_false]
      split <;> exact ⟨_, _, rfl⟩
    obtain ⟨added, graph, edgeAdded⟩ := edgeAdded
    rw [addEdges_cons_run, edgeAdded]
    dsimp only
    rw [withEdge_of_addEdge edgeAdded]
    exact ih fun b listed => (fits b (List.mem_cons_of_mem _ listed)).withEdge

/-- In a sound editor with its nodes at finite positions, cloning live nodes one by one is never
refused: each clone's name is valid and free, and its position finite. -/
theorem cloneEach_run_ok (h : e.Invariant) (finite : e.PositionsFinite) (models : List Node)
    (live : ∀ m ∈ models, ∃ k, e.node? k = some m) :
    ∃ pairs e', (cloneEach models).run e = .ok pairs e' := by
  induction models generalizing e with
  | nil => exact ⟨[], e, rfl⟩
  | cons model rest ih =>
    obtain ⟨k, found⟩ := live model List.mem_cons_self
    obtain ⟨s, known⟩ := Option.isSome_iff_exists.mp (h.graph.package_known found)
    have baseFree : '$' ∉ model.name.toList := by
      rw [h.graph.name_eq found]
      exact h.graph.dollar_not_mem found
    obtain ⟨n, e₁, cloned⟩ := cloneAs_run_ok known (offset_isFinite (finite k model found))
      (isValidNodeName_nextNodeName e baseFree) (nextNodeName_free e model.name)
    have live₁ : ∀ m ∈ rest, ∃ k, e₁.node? k = some m := fun m listed => by
      obtain ⟨k', found'⟩ := live m (List.mem_cons_of_mem _ listed)
      exact ⟨k', node?_of_cloneAs cloned found'⟩
    obtain ⟨more, e₂, restRan⟩ := ih (h.cloneAs_ok found cloned) (finite.of_cloneAs cloned) live₁
    refine ⟨(model.name, n) :: more, e₂, ?_⟩
    rw [cloneEach_cons_run, cloned]
    dsimp only
    rw [restRan]

end Progress

section Refusals

variable {e e' : Editor} {err : EditorError}

/-- In a sound editor with its nodes at finite positions a refused copy changes nothing: once the
names are checked, cloning and joining the clones is never refused. -/
theorem copy_run_eq_error_of_sound (h : e.Invariant) (finite : e.PositionsFinite)
    {names : List String} (refused : (copy names).run e = .error err e') : e' = e := by
  rw [copy_run] at refused
  rcases copied : e.copiedNodes names with err₀ | models <;> simp only [copied] at refused
  · cases refused
    rfl
  have live : ∀ m ∈ models, ∃ k, e.node? k = some m :=
    fun m listed => ((copiedNodes_eq_ok copied).1 m listed).1
  obtain ⟨pairs, e₁, cloned⟩ := cloneEach_run_ok h finite models live
  obtain ⟨e₂, joined⟩ := addEdges_run_ok _
    ((cloneEach_run_eq_ok cloned).cloneEdges_fit h.graph.edgesSound live)
  simp only [cloned, joined, reduceCtorEq] at refused

/-- In a sound editor a refused rename changes nothing: once its checks pass, every edge it adds
back joins live nodes. -/
theorem rename_run_eq_error_of_sound (h : e.Invariant) {old new : String}
    (refused : (rename old new).run e = .error err e') : e' = e := by
  by_cases checks : isValidNodeName new = true ∧ e.graph.contains new = false ∧
      ∃ current s, e.node? old = some current ∧ e.catalog.get? current.package = some s
  · obtain ⟨valid, free, current, s, oldFound, known⟩ := checks
    obtain ⟨e₂, joined⟩ := addEdges_run_ok (e := e.renamedWithout old new current s) _
      (h.graph.edgesSound.renamed_fits free oldFound)
    rw [rename_run_of_checks valid free oldFound known] at refused
    simp only [joined, reduceCtorEq] at refused
  · obtain ⟨err', refused'⟩ := rename_run_of_not_checks checks
    rw [refused'] at refused
    cases refused
    rfl

theorem renameSelected_run_eq_error_of_sound (h : e.Invariant) {new : String}
    (refused : (renameSelected new).run e = .error err e') : e' = e := by
  rw [renameSelected_run] at refused
  cases single : e.selection.single with
  | ok r =>
    rw [single] at refused
    exact rename_run_eq_error_of_sound h refused
  | error err₀ =>
    rw [single] at refused
    cases refused
    rfl

/-- A refused script changes nothing: it is staged apart. -/
theorem loadScript_run_eq_error {script : DecompiledScript}
    (refused : (loadScript script).run e = .error err e') : e' = e := by
  rw [loadScript_run] at refused
  split at refused
  · cases refused
  · cases refused
    rfl

/-- A refused snapshot changes nothing: it is staged apart. -/
theorem loadSnapshot_run_eq_error {s : Snapshot}
    (refused : (loadSnapshot s).run e = .error err e') : e' = e := by
  rw [loadSnapshot_run] at refused
  split at refused
  · cases refused
  · cases refused
    rfl

theorem loadSnapshotText_run_eq_error {raw : String}
    (refused : (loadSnapshotText raw).run e = .error err e') : e' = e := by
  rw [loadSnapshotText_run] at refused
  split at refused
  · exact loadSnapshot_run_eq_error refused
  · cases refused
    rfl

theorem loadScriptText_run (raw : String) (e : Editor) :
    (loadScriptText raw).run e =
      match readScript raw with
      | .ok s => (loadScript s).run e
      | .error err => .error err e := by
  simp only [loadScriptText, EStateM.run_bind, Edit.run_liftExcept]
  cases readScript raw <;> rfl

theorem loadScriptText_run_eq_error {raw : String}
    (refused : (loadScriptText raw).run e = .error err e') : e' = e := by
  rw [loadScriptText_run] at refused
  split at refused
  · exact loadScript_run_eq_error refused
  · cases refused
    rfl

end Refusals

namespace Action

/-- The command an action runs, its answer dropped. -/
def edit : Action → Edit Unit
  | create package position name? => (fun _ => ()) <$> Editor.create package position name?
  | connect fromNode fromPort toNode toPort =>
    (fun _ => ()) <$> Editor.connect fromNode fromPort toNode toPort
  | disconnect edge => (fun _ => ()) <$> Editor.disconnect edge
  | disconnectPort port => (fun _ => ()) <$> Editor.disconnectPort port
  | delete name => (fun _ => ()) <$> Editor.delete name
  | clone name => (fun _ => ()) <$> Editor.clone name
  | copy names => (fun _ => ()) <$> Editor.copy names
  | rename old new => (fun _ => ()) <$> Editor.rename old new
  | renameSelected new => (fun _ => ()) <$> Editor.renameSelected new
  | move name position => Editor.move name position
  | select name additive => Editor.select name additive
  | toggle name => Editor.toggle name
  | clearSelection => Editor.clearSelection
  | markDoubleClick => Editor.markDoubleClick
  | takeDoubleClick => (fun _ => ()) <$> Editor.takeDoubleClick
  | setParam node param value => Editor.setParam node param value
  | setAnyType node param concrete => Editor.setAnyType node param concrete
  | setTransform transform => Editor.setTransform transform
  | reset => Editor.reset
  | loadScript script => Editor.loadScript script

/-- An action leaves the editor its command leaves. -/
theorem apply_eq_after (a : Action) (e : Editor) : a.apply e = a.edit.after e := by
  cases a <;> simp only [apply, edit, Edit.after_map]

/-- In a sound editor with its nodes at finite positions, a refused action changes nothing. -/
theorem edit_run_eq_error {e e' : Editor} (h : e.Invariant) (finite : e.PositionsFinite) (a : Action)
    {err : EditorError} (refused : a.edit.run e = .error err e') : e' = e := by
  cases a with
  | create package position name? => exact create_run_eq_error (Edit.run_map_eq_error.mp refused)
  | connect fromNode fromPort toNode toPort =>
    exact connect_run_eq_error (Edit.run_map_eq_error.mp refused)
  | delete name => exact delete_run_eq_error (Edit.run_map_eq_error.mp refused)
  | clone name => exact clone_run_eq_error (Edit.run_map_eq_error.mp refused)
  | copy names => exact copy_run_eq_error_of_sound h finite (Edit.run_map_eq_error.mp refused)
  | rename old new => exact rename_run_eq_error_of_sound h (Edit.run_map_eq_error.mp refused)
  | renameSelected new =>
    exact renameSelected_run_eq_error_of_sound h (Edit.run_map_eq_error.mp refused)
  | move name position => exact move_run_eq_error refused
  | select name additive => exact select_run_eq_error refused
  | toggle name => exact select_run_eq_error refused
  | setParam node param value => exact setParam_run_eq_error refused
  | setAnyType node param concrete => exact setAnyType_run_eq_error refused
  | loadScript script => exact loadScript_run_eq_error refused
  -- the remaining commands are never refused
  | disconnect edge =>
    simp only [edit, Edit.run_map, Editor.disconnect, EStateM.run_modifyGet, reduceCtorEq] at refused
  | disconnectPort port =>
    simp only [edit, Edit.run_map, Editor.disconnectPort, EStateM.run_modifyGet,
      reduceCtorEq] at refused
  | clearSelection => simp only [edit, Editor.clearSelection, EStateM.run_modify, reduceCtorEq] at refused
  | markDoubleClick =>
    simp only [edit, Editor.markDoubleClick, EStateM.run_modify, reduceCtorEq] at refused
  | takeDoubleClick =>
    simp only [edit, Edit.run_map, Editor.takeDoubleClick, EStateM.run_modifyGet,
      reduceCtorEq] at refused
  | setTransform transform =>
    simp only [edit, Editor.setTransform, EStateM.run_modify, reduceCtorEq] at refused
  | reset => simp only [edit, Editor.reset, EStateM.run_modify, reduceCtorEq] at refused

end Action

/-- A command a user runs on an editor: an action, or a load of a snapshot, given as a value or as
text, or of a script text. -/
inductive Command where
  | action (a : Action)
  | loadSnapshot (s : Snapshot)
  | loadSnapshotText (raw : String)
  | loadScriptText (raw : String)

namespace Command

/-- The command's run, its answer dropped. -/
def edit : Command → Edit Unit
  | action a => a.edit
  | loadSnapshot s => Editor.loadSnapshot s
  | loadSnapshotText raw => Editor.loadSnapshotText raw
  | loadScriptText raw => Editor.loadScriptText raw

/-- In a sound editor with its nodes at finite positions, a refused command changes nothing. -/
theorem edit_run_eq_error {e e' : Editor} (h : e.Invariant) (finite : e.PositionsFinite)
    (c : Command) {err : EditorError} (refused : c.edit.run e = .error err e') : e' = e := by
  cases c with
  | action a => exact a.edit_run_eq_error h finite refused
  | loadSnapshot s => exact loadSnapshot_run_eq_error refused
  | loadSnapshotText raw => exact loadSnapshotText_run_eq_error refused
  | loadScriptText raw => exact loadScriptText_run_eq_error refused

end Command

/-- In every editor reached from a catalog whose entries name new nodes without `$`, by runs that
load only scripts bringing none in, a refused command leaves the editor as it was. -/
theorem refused_command_keeps_editor (c : Catalog) (catalogFree : c.NamesFree) (actions : List Action)
    (actionsFree : ∀ a ∈ actions, a.NamesFree) (cmd : Command) {err : EditorError} {e' : Editor}
    (refused : cmd.edit.run (replay actions (ofCatalog c)) = .error err e') :
    e' = replay actions (ofCatalog c) :=
  cmd.edit_run_eq_error (replay_invariant c catalogFree actions actionsFree)
    ((positionsFinite_ofCatalog c).replay actions) refused

theorem refused_copy_keeps_session :
    classRCatalog.NamesFree ∧
      (∀ a ∈ [Action.create "pkg.R" ⟨0, 0⟩ none, .clone "R1"], a.NamesFree) ∧
      (Command.action (.copy ["R1", "X"])).edit.run
          (replay [.create "pkg.R" ⟨0, 0⟩ none, .clone "R1"] (ofCatalog classRCatalog)) =
        .error (.unknownNode "X") ((Command.action (.copy ["R1", "X"])).edit.after
          (replay [.create "pkg.R" ⟨0, 0⟩ none, .clone "R1"] (ofCatalog classRCatalog))) ∧
      (Command.action (.copy ["R1", "X"])).edit.after
          (replay [.create "pkg.R" ⟨0, 0⟩ none, .clone "R1"] (ofCatalog classRCatalog)) =
        replay [.create "pkg.R" ⟨0, 0⟩ none, .clone "R1"] (ofCatalog classRCatalog) :=
  have refusal : (Command.action (.copy ["R1", "X"])).edit.run
      (replay [.create "pkg.R" ⟨0, 0⟩ none, .clone "R1"] (ofCatalog classRCatalog)) =
      .error (.unknownNode "X") ((Command.action (.copy ["R1", "X"])).edit.after
        (replay [.create "pkg.R" ⟨0, 0⟩ none, .clone "R1"] (ofCatalog classRCatalog))) := rfl
  ⟨by decide, by decide, refusal, refused_command_keeps_editor classRCatalog (by decide) _ (by decide) _ refusal⟩

/-- A catalog of a class whose name holds a `$`, beside the class `R`. -/
def dollarPairCatalog : Catalog :=
  Catalog.ofStructures [{ package := "pkg.X", clazz := "A$B" }, { package := "pkg.R", clazz := "R" }]

/-- With a `$` in a class, copying `R1` and `A$B1` makes the clone `R11`, is then refused on the
name `A$B11`, and the clone `R11` stays. -/
theorem dollar_copy_refusal_keeps_clone :
    ¬ ∀ err e', (Command.action (.copy ["R1", "A$B1"])).edit.run
        (replay [.create "pkg.R" ⟨0, 0⟩ none, .create "pkg.X" ⟨0, 0⟩ none]
          (ofCatalog dollarPairCatalog)) = .error err e' →
      e' = replay [.create "pkg.R" ⟨0, 0⟩ none, .create "pkg.X" ⟨0, 0⟩ none]
        (ofCatalog dollarPairCatalog) := by
  intro atomic
  have refusal : (Command.action (.copy ["R1", "A$B1"])).edit.run
      (replay [.create "pkg.R" ⟨0, 0⟩ none, .create "pkg.X" ⟨0, 0⟩ none]
        (ofCatalog dollarPairCatalog)) =
      .error (.invalidName "A$B11") ((Command.action (.copy ["R1", "A$B1"])).edit.after
        (replay [.create "pkg.R" ⟨0, 0⟩ none, .create "pkg.X" ⟨0, 0⟩ none]
          (ofCatalog dollarPairCatalog))) := rfl
  have cloneLive : (((Command.action (.copy ["R1", "A$B1"])).edit.after
      (replay [.create "pkg.R" ⟨0, 0⟩ none, .create "pkg.X" ⟨0, 0⟩ none]
        (ofCatalog dollarPairCatalog))).node? "R11").isSome = true := by decide
  rw [atomic _ _ refusal] at cloneLive
  revert cloneLive
  decide

end Editor

end PipelineEditor
