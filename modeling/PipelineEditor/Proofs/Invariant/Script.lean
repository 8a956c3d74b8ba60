import PipelineEditor.Proofs.Invariant.Catalog

/-! Loading a script keeps the invariant. -/

namespace PipelineEditor

namespace Editor

variable {e e' : Editor}

/-- Storing a node call's settings keeps the invariant, and the catalog. -/
theorem Invariant.applySettings (h : e.Invariant) {node package : String}
    {settings : List Script.Param} (ran : e.applySettings node package settings = .ok e') :
    e'.Invariant ∧ e'.catalog = e.catalog := by
  induction settings generalizing e with
  | nil =>
    cases ran
    exact ⟨h, rfl⟩
  | cons p rest ih =>
    simp only [Editor.applySettings, Except.bind_eq_ok] at ran
    obtain ⟨store, valueSet, restRan⟩ := ran
    have sound₀ := h.withValue valueSet
    -- a type tag counts only for a parameter declared `any`
    cases tagged : p.type with
    | none =>
      simp only [tagged, pure_bind] at restRan
      have done := ih sound₀ restRan
      exact done
    | some concrete =>
      simp only [tagged, Except.bind_eq_ok] at restRan
      obtain ⟨s, -, chosen⟩ := restRan
      split at chosen
      · simp only [Except.bind_eq_ok, pure_bind] at chosen
        obtain ⟨store', anyTypeSet, restRan⟩ := chosen
        have done := ih (sound₀.withAnyType anyTypeSet) restRan
        exact done
      · simp only [pure_bind] at chosen
        have done := ih sound₀ chosen
        exact done

/-- Creating the nodes of a script's calls, each under the name the call gives, keeps the
invariant and the catalog. -/
theorem Invariant.stageCalls (h : e.Invariant) {packages : List (String × String)}
    {calls : List Script.NodeCall} (ran : stageCalls packages e calls = .ok e') :
    e'.Invariant ∧ e'.catalog = e.catalog := by
  induction calls generalizing e with
  | nil =>
    cases ran
    exact ⟨h, rfl⟩
  | cons call rest ih =>
    simp only [Editor.stageCalls, Except.bind_eq_ok] at ran
    obtain ⟨package, -, position, -, ⟨n, e₁⟩, created, e₂, valueSet, restRan⟩ := ran
    rw [Edit.toExcept_eq_ok] at created
    have catalog₁ := create_keeps_catalog (e := e) package position (some call.node)
    rw [Edit.after_of_run_ok created] at catalog₁
    obtain ⟨sound₂, catalog₂⟩ := (h.of_create (by intro unnamed; cases unnamed) created).applySettings valueSet
    obtain ⟨sound₃, catalog₃⟩ := ih sound₂ restRan
    exact ⟨sound₃, catalog₃.trans (catalog₂.trans catalog₁)⟩

/-- Connecting a script's links keeps the invariant and the catalog. -/
theorem Invariant.stageLinks (h : e.Invariant) {links : List Script.Link}
    (ran : stageLinks e links = .ok e') : e'.Invariant ∧ e'.catalog = e.catalog := by
  induction links generalizing e with
  | nil =>
    cases ran
    exact ⟨h, rfl⟩
  | cons l rest ih =>
    simp only [Editor.stageLinks, Except.bind_eq_ok] at ran
    obtain ⟨⟨edge, e₁⟩, connected, restRan⟩ := ran
    rw [Edit.toExcept_eq_ok] at connected
    have sound₁ := h.connect l.fromNode l.fromVar l.toNode l.toVar
    have catalog₁ := connect_keeps_catalog (e := e) l.fromNode l.fromVar l.toNode l.toVar
    rw [Edit.after_of_run_ok connected] at sound₁ catalog₁
    obtain ⟨sound₂, catalog₂⟩ := ih sound₁ restRan
    exact ⟨sound₂, catalog₂.trans catalog₁⟩

/-- A staged script satisfies the invariant, over the script's catalog. -/
theorem Invariant.stageScript {script : DecompiledScript} (ran : e.stageScript script = .ok e') :
    e'.Invariant ∧ e'.catalog = (scriptCatalog e.catalog script.custom).1 := by
  simp only [Editor.stageScript, Except.bind_eq_ok] at ran
  obtain ⟨staged, callsStaged, staged₂, linksStaged, finished⟩ := ran
  obtain ⟨sound₁, catalog₁⟩ := (invariant_ofCatalog _).stageCalls callsStaged
  obtain ⟨sound₂, catalog₂⟩ := sound₁.stageLinks linksStaged
  cases finished
  exact ⟨sound₂.reselect _ fun r chosen => by simp [Selection.clear] at chosen, catalog₂.trans catalog₁⟩

/-- Loading a script keeps the invariant: the staged editor replaces this one, or nothing
changes. -/
theorem Invariant.loadScript (h : e.Invariant) (script : DecompiledScript) :
    ((loadScript script).after e).Invariant :=
  loadScript_after_induction h fun _ stagedOk => (Invariant.stageScript stagedOk).1

/-- After a script load the catalog names new nodes safely when it did before and no custom
block's class holds a `$`. -/
theorem namesFree_loadScript (namesFree : e.catalog.NamesFree) {script : DecompiledScript}
    (blocksFree : ∀ b ∈ script.custom, '$' ∉ b.clazz.toList) :
    ((loadScript script).after e).catalog.NamesFree := by
  refine loadScript_after_induction (motive := fun e => e.catalog.NamesFree) namesFree fun e' stagedOk => ?_
  rw [(Invariant.stageScript stagedOk).2]
  exact namesFree_scriptCatalog namesFree blocksFree

end Editor

end PipelineEditor
