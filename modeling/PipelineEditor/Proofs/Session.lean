import PipelineEditor.Proofs.Invariant.Script

/-! Runs of editor commands, and the invariant every run keeps from a catalog that names new nodes safely. -/

namespace PipelineEditor

namespace Editor

/-- A command a user runs on an editor. -/
inductive Action where
  | create (package : String) (position : Position) (name? : Option String)
  | connect (fromNode fromPort toNode toPort : String)
  | disconnect (edge : Edge)
  | disconnectPort (port : PortRef)
  | delete (name : String)
  | clone (name : String)
  | copy (names : List String)
  | rename (old new : String)
  | renameSelected (new : String)
  | move (name : String) (position : Position)
  | select (name : String) (additive : Bool)
  | toggle (name : String)
  | clearSelection
  | markDoubleClick
  | takeDoubleClick
  | setParam (node param : String) (value : Json)
  | setAnyType (node param concrete : String)
  | setTransform (transform : ViewTransform)
  | reset
  | loadScript (script : DecompiledScript)

namespace Action

/-- The editor an action leaves, whether it answered or was refused. -/
def apply : Action → Editor → Editor
  | create package position name?, e => (Editor.create package position name?).after e
  | connect fromNode fromPort toNode toPort, e =>
    (Editor.connect fromNode fromPort toNode toPort).after e
  | disconnect edge, e => (Editor.disconnect edge).after e
  | disconnectPort port, e => (Editor.disconnectPort port).after e
  | delete name, e => (Editor.delete name).after e
  | clone name, e => (Editor.clone name).after e
  | copy names, e => (Editor.copy names).after e
  | rename old new, e => (Editor.rename old new).after e
  | renameSelected new, e => (Editor.renameSelected new).after e
  | move name position, e => (Editor.move name position).after e
  | select name additive, e => (Editor.select name additive).after e
  | toggle name, e => (Editor.toggle name).after e
  | clearSelection, e => Editor.clearSelection.after e
  | markDoubleClick, e => Editor.markDoubleClick.after e
  | takeDoubleClick, e => Editor.takeDoubleClick.after e
  | setParam node param value, e => (Editor.setParam node param value).after e
  | setAnyType node param concrete, e => (Editor.setAnyType node param concrete).after e
  | setTransform transform, e => (Editor.setTransform transform).after e
  | reset, e => Editor.reset.after e
  | loadScript script, e => (Editor.loadScript script).after e

/-- An action brings no `$` into the names of entries: a script's custom classes hold none. -/
def NamesFree : Action → Prop
  | loadScript script => ∀ b ∈ script.custom, '$' ∉ b.clazz.toList
  | _ => True

instance (a : Action) : Decidable a.NamesFree := by
  cases a <;> unfold NamesFree <;> infer_instance

end Action

/-- The editor a run of actions leaves. -/
def replay (actions : List Action) (e : Editor) : Editor :=
  actions.foldl (fun e a => a.apply e) e

variable {e : Editor}

/-- One action keeps a catalog that names new nodes safely: only a script load replaces it. -/
theorem namesFree_apply (namesFree : e.catalog.NamesFree) (a : Action) (actionFree : a.NamesFree) :
    (a.apply e).catalog.NamesFree := by
  cases a with
  | create package position name? =>
    rw [Action.apply, create_keeps_catalog]
    exact namesFree
  | connect fromNode fromPort toNode toPort =>
    rw [Action.apply, connect_keeps_catalog]
    exact namesFree
  | delete name =>
    rw [Action.apply, delete_keeps_catalog]
    exact namesFree
  | clone name =>
    rw [Action.apply, clone_keeps_catalog]
    exact namesFree
  | copy names =>
    rw [Action.apply, copy_keeps_catalog]
    exact namesFree
  | rename old new =>
    rw [Action.apply, rename_keeps_catalog]
    exact namesFree
  | renameSelected new =>
    rw [Action.apply, renameSelected_keeps_catalog]
    exact namesFree
  | move name position =>
    rw [Action.apply, move_keeps_catalog]
    exact namesFree
  | select name additive =>
    rw [Action.apply, select_keeps_catalog]
    exact namesFree
  | toggle name =>
    rw [Action.apply, toggle, select_keeps_catalog]
    exact namesFree
  | setParam node param value =>
    rw [Action.apply, setParam_keeps_catalog]
    exact namesFree
  | setAnyType node param concrete =>
    rw [Action.apply, setAnyType_keeps_catalog]
    exact namesFree
  | loadScript script => exact namesFree_loadScript namesFree actionFree
  | disconnect edge => exact namesFree
  | disconnectPort port => exact namesFree
  | clearSelection => exact namesFree
  | markDoubleClick => exact namesFree
  | takeDoubleClick => exact namesFree
  | setTransform transform => exact namesFree
  | reset => exact namesFree

/-- One action keeps the invariant, given a catalog that names new nodes safely. -/
theorem Invariant.apply (h : e.Invariant) (namesFree : e.catalog.NamesFree) (a : Action) :
    (a.apply e).Invariant := by
  cases a with
  | create package position name? => exact h.create namesFree package position name?
  | connect fromNode fromPort toNode toPort => exact h.connect fromNode fromPort toNode toPort
  | disconnect edge => exact h.disconnect edge
  | disconnectPort port => exact h.disconnectPort port
  | delete name => exact h.delete name
  | clone name => exact h.clone name
  | copy names => exact h.copy names
  | rename old new => exact h.rename old new
  | renameSelected new => exact h.renameSelected new
  | move name position => exact h.move name position
  | select name additive => exact h.select name additive
  | toggle name => exact h.select name true
  | clearSelection => exact h.clearSelection
  | markDoubleClick => exact h.markDoubleClick
  | takeDoubleClick => exact h.takeDoubleClick
  | setParam node param value => exact h.setParam node param value
  | setAnyType node param concrete => exact h.setAnyType node param concrete
  | setTransform transform => exact h.setTransform transform
  | reset => exact Invariant.reset
  | loadScript script => exact h.loadScript script

/-- A run keeps the invariant and a catalog that names new nodes safely, as long as its actions
bring no `$` into the catalog. -/
theorem Invariant.replay (h : e.Invariant) (namesFree : e.catalog.NamesFree) (actions : List Action)
    (actionsFree : ∀ a ∈ actions, a.NamesFree) :
    (replay actions e).Invariant ∧ (replay actions e).catalog.NamesFree := by
  induction actions generalizing e with
  | nil => exact ⟨h, namesFree⟩
  | cons a rest ih =>
    exact ih (h.apply namesFree a) (namesFree_apply namesFree a (actionsFree a List.mem_cons_self))
      fun b later => actionsFree b (List.mem_cons_of_mem _ later)

/-- Every editor reached from a catalog's empty editor satisfies the invariant, when the catalog's
entries and the custom classes of the scripts loaded name new nodes without `$`. -/
theorem replay_invariant (c : Catalog) (catalogFree : c.NamesFree) (actions : List Action)
    (actionsFree : ∀ a ∈ actions, a.NamesFree) : (replay actions (ofCatalog c)).Invariant :=
  ((invariant_ofCatalog c).replay catalogFree actions actionsFree).1

/-- The catalog of one class `R`. -/
def classRCatalog : Catalog := Catalog.ofStructures [{ package := "pkg.R", clazz := "R" }]

theorem replay_invariant_create_clone_rename :
    classRCatalog.NamesFree ∧
      (∀ a ∈ [Action.create "pkg.R" ⟨0, 0⟩ none, .clone "R1", .rename "R2" "S"], a.NamesFree) ∧
      (replay [.create "pkg.R" ⟨0, 0⟩ none, .clone "R1", .rename "R2" "S"]
        (ofCatalog classRCatalog)).Invariant :=
  ⟨by decide, by decide, replay_invariant classRCatalog (by decide) _ (by decide)⟩

/-- The catalog of one class whose name holds a `$`. -/
def dollarClassCatalog : Catalog := Catalog.ofStructures [{ package := "pkg.X", clazz := "A$B" }]

/-- Creating a node without a name from a class with a `$` names the node `A$B1`, which is no
valid node name. -/
theorem replay_create_dollarClass_breaks_invariant :
    ¬ (replay [.create "pkg.X" ⟨0, 0⟩ none] (ofCatalog dollarClassCatalog)).Invariant := by
  intro h
  have created : ((replay [.create "pkg.X" ⟨0, 0⟩ none]
      (ofCatalog dollarClassCatalog)).node? "A$B1").isSome = true := by decide
  obtain ⟨n, found⟩ := Option.isSome_iff_exists.mp created
  have valid := h.graph.name_valid found
  revert valid
  decide

end Editor

end PipelineEditor
