import PipelineEditor.Script.Basic
import PipelineEditor.Editor.Connect
import PipelineEditor.Editor.Commands
import PipelineEditor.Json.Read

/-!
Loading a decompiled script into the editor, all or nothing.

The script is staged on a fresh editor. Its catalog is the current one without custom entries,
plus an entry for each custom block `i` (counting from 1) under the package
`customNodePackage ++ i`. Each node call resolves its class to a custom block (the later of two
blocks of one class) or else to the first catalog entry declaring it, needs two coordinates, and
creates its node under its own name; its settings are stored, and a type tag chooses the concrete
type of a parameter declared `any` and is otherwise ignored. Then the links are connected, the
view is reset and nothing is selected. The first refusal ends the load.
-/

namespace PipelineEditor

namespace Editor

/-- The catalog of a script: the current entries without user code, and one entry per custom
block; with the packages of the blocks by class, the later block winning. -/
def scriptCatalog (catalog : Catalog) (blocks : List Script.CustomBlock) :
    Catalog × List (String × String) :=
  let base := catalog.retain fun s => !s.isCustom
  let numbered := blocks.zipIdx
  let catalog := numbered.foldl
    (fun c (b, i) => c.register (b.toStructure (customNodePackage ++ toString (i + 1)))) base
  let packages := numbered.foldl
    (fun acc (b, i) => (b.clazz, customNodePackage ++ toString (i + 1)) :: acc) []
  (catalog, packages)

/-- Applies a node call's parameter settings. -/
def applySettings (e : Editor) (node package : String) :
    List Script.Param → Except EditorError Editor
  | [] => .ok e
  | p :: rest => do
    let params ← e.params.setValue node p.key p.value
    let e := { e with params }
    let e ← match p.type with
      | none => pure e
      | some concrete => do
        let s ← e.catalog.structure? package
        if ((s.parameter? p.key).map fun q => q.kind.isAny).getD false then
          pure { e with params := ← e.params.setAnyType node p.key concrete }
        else pure e
    applySettings e node package rest

/-- The package a node call's class resolves to: its custom block's, else the first catalog
entry declaring it. -/
def callPackage (packages : List (String × String)) (catalog : Catalog) (clazz : String) :
    Except EditorError String :=
  match packages.lookup clazz with
  | some package => .ok package
  | none => match catalog.packageOfClazz? clazz with
    | some package => .ok package
    | none => .error (.unknownClazz clazz)

/-- The position of a node call: its first two coordinates. -/
def callPosition (call : Script.NodeCall) : Except EditorError Position :=
  match call.pos with
  | x :: y :: _ => .ok (Position.mk x y)
  | _ =>
    let node := call.node
    .error (.malformed s!"node '{node}' has no position")

/-- Creates the node of each call. -/
def stageCalls (packages : List (String × String)) (e : Editor) :
    List Script.NodeCall → Except EditorError Editor
  | [] => .ok e
  | call :: rest => do
    let package ← callPackage packages e.catalog call.clazz
    let position ← callPosition call
    let (_, e) ← (create package position (some call.node)).toExcept e
    let e ← e.applySettings call.node package call.params
    stageCalls packages e rest

/-- Connects each link. -/
def stageLinks (e : Editor) : List Script.Link → Except EditorError Editor
  | [] => .ok e
  | l :: rest => do
    let (_, e) ← (connect l.fromNode l.fromVar l.toNode l.toVar).toExcept e
    stageLinks e rest

/-- The editor a decompiled script describes, over this editor's catalog. -/
def stageScript (e : Editor) (script : DecompiledScript) : Except EditorError Editor := do
  let (catalog, packages) := scriptCatalog e.catalog script.custom
  let staged ← stageCalls packages (ofCatalog catalog) script.nodes
  let staged ← stageLinks staged script.edges
  pure ({ staged with selection := staged.selection.clear }).syncSelectedFlags

/-- Reads a decompiled script payload text. -/
def readScript (raw : String) : Except EditorError DecompiledScript :=
  match Json.parse raw with
  | .error _ => .error .parse
  | .ok j =>
    match DecompiledScript.ofJson? j with
    | some s => .ok s
    | none => .error .parse

/-- Replaces the editor with the one a decompiled script describes; a refused script changes
nothing. -/
def loadScript (script : DecompiledScript) : Edit Unit := do
  set (← liftExcept ((← get).stageScript script))

theorem loadScript_run (script : DecompiledScript) (e : Editor) :
    (loadScript script).run e =
      match e.stageScript script with
      | .ok e' => .ok () e'
      | .error err => .error err e := by
  simp only [loadScript, EStateM.run_bind, EStateM.run_get, Edit.run_liftExcept]
  cases e.stageScript script <;> rfl

/-- A property holds after a script load when it holds before and of every editor the script
stages. -/
theorem loadScript_after_induction {motive : Editor → Prop} {script : DecompiledScript} {e : Editor}
    (h : motive e) (staged : ∀ e', e.stageScript script = .ok e' → motive e') :
    motive ((loadScript script).after e) := by
  unfold Edit.after
  rw [loadScript_run]
  rcases hstage : e.stageScript script with _ | e'
  · exact h
  · exact staged e' hstage

/-- Loads a decompiled script payload text. -/
def loadScriptText (raw : String) : Edit Unit := do
  loadScript (← liftExcept (readScript raw))

end Editor

end PipelineEditor
