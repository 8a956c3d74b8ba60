import PipelineEditor.Script.Load
import PipelineEditor.Proofs.Invariant.Copy

/-! Every command but a script load keeps the catalog, and a script's catalog names new nodes safely. -/

namespace PipelineEditor

namespace Catalog

variable {c : Catalog}

theorem NamesFree.register (h : c.NamesFree) {s : NodeStructure} (dollarFree : '$' ∉ s.baseName.toList) :
    (c.register s).NamesFree := by
  intro t listed
  obtain ⟨p, stored, rfl⟩ :=
    List.mem_map.mp (show t ∈ (c.register s).structures.entries.map Prod.snd from listed)
  rcases Table.mem_entries_insert stored with rfl | stored
  · exact dollarFree
  · exact h _ (List.mem_map.mpr ⟨p, stored, rfl⟩)

theorem NamesFree.retain (h : c.NamesFree) (keep : NodeStructure → Bool) :
    (c.retain keep).NamesFree := by
  intro t listed
  obtain ⟨p, stored, rfl⟩ :=
    List.mem_map.mp (show t ∈ (c.retain keep).structures.entries.map Prod.snd from listed)
  exact h _ (List.mem_map.mpr ⟨p, (List.mem_filter.mp stored).1, rfl⟩)

end Catalog

namespace Editor

/-- A custom block's entry is named after its class, or after its numbered package. -/
theorem dollar_not_mem_customBaseName {b : Script.CustomBlock} (dollarFree : '$' ∉ b.clazz.toList)
    (i : Nat) : '$' ∉ (b.toStructure (customNodePackage ++ toString i)).baseName.toList := by
  intro h
  rcases NodeStructure.mem_baseName h with h | h
  · exact dollarFree h
  · exact dollar_not_mem_append_toString (by decide) i h

/-- A script's catalog names new nodes safely when the current one does and no custom block's
class holds a `$`. -/
theorem namesFree_scriptCatalog {c : Catalog} (h : c.NamesFree) {blocks : List Script.CustomBlock}
    (blocksFree : ∀ b ∈ blocks, '$' ∉ b.clazz.toList) : (scriptCatalog c blocks).1.NamesFree := by
  have numberedFree : ∀ p ∈ blocks.zipIdx, '$' ∉ p.1.clazz.toList :=
    fun p stored => blocksFree p.1 (List.fst_mem_of_mem_zipIdx stored)
  have baseFree := h.retain fun s => !s.isCustom
  unfold scriptCatalog
  dsimp only
  generalize blocks.zipIdx = numbered at numberedFree
  generalize c.retain (fun s => !s.isCustom) = base at baseFree
  induction numbered generalizing base with
  | nil => exact baseFree
  | cons p rest ih =>
    obtain ⟨b, i⟩ := p
    rw [List.foldl_cons]
    exact ih (fun q later => numberedFree q (List.mem_cons_of_mem _ later)) _
      (baseFree.register (dollar_not_mem_customBaseName (numberedFree (b, i) List.mem_cons_self) _))

section Frames

variable {e : Editor}

/-- A command keeps the catalog when its answers do and its refusals change nothing. -/
theorem keeps_catalog {α : Type} {c : Edit α}
    (ok : ∀ a e', c.run e = .ok a e' → e'.catalog = e.catalog)
    (error : ∀ err e', c.run e = .error err e' → e' = e) : (c.after e).catalog = e.catalog :=
  Edit.after_induction (P := fun e' => e'.catalog = e.catalog) ok fun err e' h => by
    rw [error err e' h]

theorem create_keeps_catalog (package : String) (position : Position) (name? : Option String) :
    ((create package position name?).after e).catalog = e.catalog :=
  keeps_catalog (fun _ _ h => by obtain ⟨-, -, -, -, -, -, rfl⟩ := create_run_eq_ok h; rfl)
    fun _ _ => create_run_eq_error

theorem connect_keeps_catalog (fromNode fromPort toNode toPort : String) :
    ((connect fromNode fromPort toNode toPort).after e).catalog = e.catalog :=
  keeps_catalog (fun _ _ h => by obtain ⟨-, -, -, rfl⟩ := connect_run_eq_ok h; rfl)
    fun _ _ => connect_run_eq_error

theorem delete_keeps_catalog (name : String) : ((delete name).after e).catalog = e.catalog :=
  keeps_catalog (fun _ _ h => by obtain ⟨-, rfl⟩ := delete_run_eq_ok h; rfl)
    fun _ _ => delete_run_eq_error

theorem move_keeps_catalog (name : String) (position : Position) :
    ((move name position).after e).catalog = e.catalog :=
  keeps_catalog (fun _ _ h => by obtain ⟨-, -, rfl⟩ := move_run_eq_ok h; rfl)
    fun _ _ => move_run_eq_error

theorem select_keeps_catalog (name : String) (additive : Bool) :
    ((select name additive).after e).catalog = e.catalog :=
  keeps_catalog (fun _ _ h => by obtain ⟨-, -, rfl⟩ := select_run_eq_ok h; rfl)
    fun _ _ => select_run_eq_error

theorem setParam_keeps_catalog (node param : String) (value : Json) :
    ((setParam node param value).after e).catalog = e.catalog :=
  keeps_catalog (fun _ _ h => by obtain ⟨-, -, rfl⟩ := setParam_run_eq_ok h; rfl)
    fun _ _ => setParam_run_eq_error

theorem setAnyType_keeps_catalog (node param concrete : String) :
    ((setAnyType node param concrete).after e).catalog = e.catalog :=
  keeps_catalog (fun _ _ h => by obtain ⟨-, -, rfl⟩ := setAnyType_run_eq_ok h; rfl)
    fun _ _ => setAnyType_run_eq_error

theorem cloneAs_run_catalog {model n : Node} {name : String} {position : Position} {e' : Editor}
    (h : (cloneAs model name position).run e = .ok n e') : e'.catalog = e.catalog := by
  obtain ⟨-, -, -, -, -, -, rfl⟩ := cloneAs_run_eq_ok h
  rfl

theorem clone_keeps_catalog (name : String) : ((clone name).after e).catalog = e.catalog := by
  refine keeps_catalog (fun _ _ h => ?_) fun _ _ => clone_run_eq_error
  obtain ⟨_, _, -, -, ran⟩ := clone_run_eq_ok h
  exact cloneAs_run_catalog ran

theorem cloneEach_keeps_catalog (models : List Node) :
    ((cloneEach models).after e).catalog = e.catalog :=
  cloneEach_after_induction (motive := fun e' => e'.catalog = e.catalog) models
    (fun _ h ran => (cloneAs_run_catalog ran).trans h) rfl

theorem addEdges_keeps_catalog (edges : List Edge) :
    ((addEdges edges).after e).catalog = e.catalog := by
  obtain ⟨es, edgesAdded⟩ := addEdges_after_eq edges e
  rw [edgesAdded]

theorem copy_keeps_catalog (names : List String) : ((copy names).after e).catalog = e.catalog :=
  copy_after_induction (motive := fun e' => e'.catalog = e.catalog) rfl
    (fun models _ => cloneEach_keeps_catalog models)
    (fun _ _ _ _ _ kept => (addEdges_keeps_catalog _).trans kept) fun _ _ _ _ _ _ _ kept => kept

theorem rename_keeps_catalog (old new : String) :
    ((rename old new).after e).catalog = e.catalog :=
  rename_after_induction (motive := fun e' => e'.catalog = e.catalog) rfl
    (fun current s _ _ _ _ => addEdges_keeps_catalog (e := e.renamedWithout old new current s) _)
    fun _ _ _ _ _ _ _ _ kept => kept

theorem renameSelected_keeps_catalog (new : String) :
    ((renameSelected new).after e).catalog = e.catalog :=
  renameSelected_after_induction (motive := fun e' => e'.catalog = e.catalog) rfl
    fun r _ => rename_keeps_catalog r.name new

end Frames

end Editor

end PipelineEditor
