import PipelineEditor.Graph.Node
import PipelineEditor.Error

/-!
The selection: the selected nodes in the order they were selected, and whether a double click is
waiting to be handled.

Selecting without adding makes the clicked node the only selected one; selecting additively
toggles the node by name, removing it where it stands or adding it at the end.
-/

namespace PipelineEditor

/-- The selected nodes, in selection order, and the pending double click. -/
structure Selection where
  selected : List NodeRef
  doubleClick : Bool
  deriving Inhabited

namespace Selection

/-- Nothing selected, no double click pending. -/
def empty : Selection := ⟨[], false⟩

/-- Whether a node of that name is selected. -/
def contains (s : Selection) (name : String) : Bool := s.selected.any fun r => r.name == name

/-- Removes a node by name where it first stands, or adds it at the end. -/
def toggle (s : Selection) (r : NodeRef) : Selection :=
  if s.contains r.name then { s with selected := s.selected.eraseP fun x => x.name == r.name }
  else { s with selected := s.selected ++ [r] }

/-- Selects a node: additively toggles it, otherwise makes it the only selected node. -/
def select (s : Selection) (r : NodeRef) (additive : Bool) : Selection :=
  if additive then s.toggle r else { s with selected := [r] }

/-- Makes the given nodes the selection. -/
def replace (s : Selection) (refs : List NodeRef) : Selection := { s with selected := refs }

/-- Selects nothing. -/
def clear (s : Selection) : Selection := { s with selected := [] }

/-- Drops a node, by name, from the selection. -/
def forget (s : Selection) (name : String) : Selection :=
  { s with selected := s.selected.filter fun x => x.name != name }

/-- The only selected node, or why there is not exactly one. -/
def single (s : Selection) : Except EditorError NodeRef :=
  match s.selected with
  | [r] => .ok r
  | [] => .error .nothingSelected
  | many => .error (.multipleNodesSelected many.length)

/-- Records a double click. -/
def markDoubleClick (s : Selection) : Selection := { s with doubleClick := true }

/-- Whether a double click was pending; it no longer is. -/
def takeDoubleClick (s : Selection) : Bool × Selection := (s.doubleClick, { s with doubleClick := false })

/-- The selected names, in selection order. -/
def names (s : Selection) : List String := s.selected.map (·.name)

theorem contains_iff {s : Selection} {name : String} :
    s.contains name = true ↔ ∃ r ∈ s.selected, r.name = name := by
  simp [contains]

theorem contains_forget (s : Selection) (name k : String) :
    (s.forget name).contains k = (s.contains k && k != name) := by
  simp only [contains, forget]
  by_cases hk : k = name
  · subst hk
    simp
  · have hk' : (k != name) = true := bne_iff_ne.mpr hk
    simp only [hk', Bool.and_true]
    rw [Bool.eq_iff_iff]
    simp only [List.any_eq_true, List.mem_filter, beq_iff_eq]
    constructor
    · rintro ⟨r, ⟨hr, -⟩, rfl⟩
      exact ⟨r, hr, rfl⟩
    · rintro ⟨r, hr, rfl⟩
      exact ⟨r, ⟨hr, hk'⟩, rfl⟩

/-- Selecting a node adds at most that node. -/
theorem mem_select {s : Selection} {r r' : NodeRef} {additive : Bool}
    (h : r' ∈ (s.select r additive).selected) : r' ∈ s.selected ∨ r' = r := by
  unfold select at h
  split at h
  · unfold toggle at h
    split at h
    · exact .inl (List.mem_of_mem_eraseP h)
    · simpa using h
  · exact .inr (by simpa using h)

end Selection

end PipelineEditor
