import PipelineEditor.Editor.Basic

/-!
Deleting, moving and selecting nodes, setting parameters, and starting over.

Deleting a node removes its edges, its config, its chosen any-types and its place in the
selection. Moving checks the position before the node.
-/

namespace PipelineEditor

namespace Editor

/-- Deletes a node with its edges, parameters and selection entry, giving back the node. -/
def delete (name : String) : Edit Node := do
  let e ← get
  match e.graph.removeNode name with
  | none => throw (.unknownNode name)
  | some (n, _, graph) =>
    set { e with
      graph := graph
      params := e.params.removeConfig name
      selection := e.selection.forget name }
    pure n

/-- Moves a node to a finite position. -/
def move (name : String) (position : Position) : Edit Unit := do
  liftExcept (ensureFinite position)
  let e ← get
  let _ ← liftExcept (e.existingNode name)
  set { e with graph := e.graph.updateNode name fun n => { n with position } }

/-- Selects a node, additively (toggling it) or alone. -/
def select (name : String) (additive : Bool) : Edit Unit := do
  let e ← get
  let n ← liftExcept (e.existingNode name)
  set ({ e with selection := e.selection.select n.ref additive }).syncSelectedFlags

/-- Toggles a node in the selection. -/
def toggle (name : String) : Edit Unit := select name true

/-- Selects nothing. -/
def clearSelection : Edit Unit :=
  modify fun e => ({ e with selection := e.selection.clear }).syncSelectedFlags

/-- Records a double click. -/
def markDoubleClick : Edit Unit :=
  modify fun e => { e with selection := e.selection.markDoubleClick }

/-- Whether a double click was pending; it no longer is. -/
def takeDoubleClick : Edit Bool :=
  modifyGet fun e =>
    let (pending, selection) := e.selection.takeDoubleClick
    (pending, { e with selection })

/-- Sets a parameter value of a configured node. -/
def setParam (node param : String) (value : Json) : Edit Unit := do
  let e ← get
  let params ← liftExcept (e.params.setValue node param value)
  set { e with params }

/-- Chooses the concrete type of an `any` parameter. -/
def setAnyType (node param concrete : String) : Edit Unit := do
  let e ← get
  let params ← liftExcept (e.params.setAnyType node param concrete)
  set { e with params }

/-- Removes all nodes, edges and parameters, clears the selection and the pending double click,
and resets the view; the catalog stays. -/
def reset : Edit Unit := modify fun e => ofCatalog e.catalog

/-- A refused deletion changes nothing. -/
theorem delete_run_eq_error {e e' : Editor} {name : String} {err : EditorError}
    (h : (delete name).run e = .error err e') : e' = e := by
  simp only [delete, EStateM.run_bind, EStateM.run_get] at h
  split at h
  · simp only [Edit.run_throw] at h
    cases h; rfl
  · simp only [EStateM.run_bind, EStateM.run_set, EStateM.run_pure, reduceCtorEq] at h

theorem delete_run_eq_ok {e e' : Editor} {name : String} {n : Node}
    (h : (delete name).run e = .ok n e') :
    e.node? name = some n ∧
      e' = { e with
        graph := ⟨e.graph.nodes.erase name,
          e.graph.edges.filter fun b => !(b.fromNode == name || b.toNode == name)⟩
        params := e.params.removeConfig name
        selection := e.selection.forget name } := by
  simp only [delete, EStateM.run_bind, EStateM.run_get] at h
  split at h
  · simp only [Edit.run_throw, reduceCtorEq] at h
  · rename_i m removed g hg
    obtain ⟨hm, -, rfl⟩ := Graph.removeNode_eq_some.mp hg
    simp only [EStateM.run_bind, EStateM.run_set, EStateM.run_pure, EStateM.Result.ok.injEq] at h
    obtain ⟨rfl, rfl⟩ := h
    exact ⟨hm, rfl⟩

/-- A refused move changes nothing. -/
theorem move_run_eq_error {e e' : Editor} {name : String} {position : Position}
    {err : EditorError} (h : (move name position).run e = .error err e') : e' = e := by
  simp only [move, EStateM.run_bind, EStateM.run_get, Edit.run_liftExcept] at h
  rcases hf : ensureFinite position with _ | _ <;> simp only [hf] at h
  · cases h; rfl
  rcases hn : e.existingNode name with _ | n <;> simp only [hn, EStateM.run_set] at h
  · cases h; rfl
  · cases h

theorem move_run_eq_ok {e e' : Editor} {name : String} {position : Position} {u : Unit}
    (h : (move name position).run e = .ok u e') :
    position.isFinite = true ∧ (e.node? name).isSome ∧
      e' = { e with graph := e.graph.updateNode name fun n => { n with position } } := by
  simp only [move, EStateM.run_bind, EStateM.run_get, Edit.run_liftExcept] at h
  rcases hf : ensureFinite position with _ | _ <;> simp only [hf, reduceCtorEq] at h
  rcases hn : e.existingNode name with _ | n <;>
    simp only [hn, EStateM.run_set, EStateM.Result.ok.injEq, reduceCtorEq] at h
  exact ⟨ensureFinite_eq_ok.mp hf, by rw [existingNode_eq_ok.mp hn]; rfl, h.2.symm⟩

/-- A refused selection changes nothing. -/
theorem select_run_eq_error {e e' : Editor} {name : String} {additive : Bool}
    {err : EditorError} (h : (select name additive).run e = .error err e') : e' = e := by
  simp only [select, EStateM.run_bind, EStateM.run_get, Edit.run_liftExcept] at h
  rcases hn : e.existingNode name with _ | n <;> simp only [hn, EStateM.run_set] at h
  · cases h; rfl
  · cases h

theorem select_run_eq_ok {e e' : Editor} {name : String} {additive : Bool} {u : Unit}
    (h : (select name additive).run e = .ok u e') :
    ∃ n, e.node? name = some n ∧
      e' = ({ e with selection := e.selection.select n.ref additive }).syncSelectedFlags := by
  simp only [select, EStateM.run_bind, EStateM.run_get, Edit.run_liftExcept] at h
  rcases hn : e.existingNode name with _ | n <;>
    simp only [hn, EStateM.run_set, EStateM.Result.ok.injEq, reduceCtorEq] at h
  exact ⟨n, existingNode_eq_ok.mp hn, h.2.symm⟩

/-- A refused parameter value changes nothing. -/
theorem setParam_run_eq_error {e e' : Editor} {node param : String} {value : Json}
    {err : EditorError} (h : (setParam node param value).run e = .error err e') : e' = e := by
  simp only [setParam, EStateM.run_bind, EStateM.run_get, Edit.run_liftExcept] at h
  rcases hp : e.params.setValue node param value with _ | params <;> simp only [hp, EStateM.run_set] at h
  · cases h; rfl
  · cases h

theorem setParam_run_eq_ok {e e' : Editor} {node param : String} {value : Json} {u : Unit}
    (h : (setParam node param value).run e = .ok u e') :
    ∃ params, e.params.setValue node param value = .ok params ∧ e' = { e with params } := by
  simp only [setParam, EStateM.run_bind, EStateM.run_get, Edit.run_liftExcept] at h
  rcases hp : e.params.setValue node param value with _ | params <;>
    simp only [hp, EStateM.run_set, EStateM.Result.ok.injEq, reduceCtorEq] at h
  exact ⟨params, rfl, h.2.symm⟩

/-- A refused any-type changes nothing. -/
theorem setAnyType_run_eq_error {e e' : Editor} {node param concrete : String}
    {err : EditorError} (h : (setAnyType node param concrete).run e = .error err e') : e' = e := by
  simp only [setAnyType, EStateM.run_bind, EStateM.run_get, Edit.run_liftExcept] at h
  rcases hp : e.params.setAnyType node param concrete with _ | params <;>
    simp only [hp, EStateM.run_set] at h
  · cases h; rfl
  · cases h

theorem setAnyType_run_eq_ok {e e' : Editor} {node param concrete : String} {u : Unit}
    (h : (setAnyType node param concrete).run e = .ok u e') :
    ∃ params, e.params.setAnyType node param concrete = .ok params ∧ e' = { e with params } := by
  simp only [setAnyType, EStateM.run_bind, EStateM.run_get, Edit.run_liftExcept] at h
  rcases hp : e.params.setAnyType node param concrete with _ | params <;>
    simp only [hp, EStateM.run_set, EStateM.Result.ok.injEq, reduceCtorEq] at h
  exact ⟨params, rfl, h.2.symm⟩

theorem clearSelection_after (e : Editor) :
    clearSelection.after e = ({ e with selection := e.selection.clear }).syncSelectedFlags := rfl

theorem markDoubleClick_after (e : Editor) :
    markDoubleClick.after e = { e with selection := e.selection.markDoubleClick } := rfl

theorem takeDoubleClick_after (e : Editor) :
    takeDoubleClick.after e = { e with selection := e.selection.takeDoubleClick.2 } := rfl

theorem reset_after (e : Editor) : reset.after e = ofCatalog e.catalog := rfl

end Editor

end PipelineEditor
