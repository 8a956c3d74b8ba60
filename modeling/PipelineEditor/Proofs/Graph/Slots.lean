import PipelineEditor.Graph.Slots
import PipelineEditor.Proofs.Graph.RunningOrder

/-!
The slot lists keep every law of a stable store.
-/

namespace PipelineEditor

namespace SlotGraph

variable {N E : Type} {s s' : SlotGraph N E}

theorem nodeIx_eq_iff {i j : NodeIx} : j = i ↔ j.index = i.index := by
  cases i
  cases j
  simp

theorem edgeIx_eq_iff {i j : EdgeIx} : j = i ↔ j.index = i.index := by
  cases i
  cases j
  simp

theorem mem_nodeIndices (i : NodeIx) : i ∈ s.nodeIndices ↔ (s.nodeWeight i).isSome := by
  unfold nodeIndices nodeWeight
  rw [List.mem_map]
  constructor
  · rintro ⟨k, taken, rfl⟩
    exact Slots.mem_taken.mp taken
  · intro live
    exact ⟨i.index, Slots.mem_taken.mpr live, rfl⟩

theorem nodeIndices_nodup (s : SlotGraph N E) : s.nodeIndices.Nodup :=
  (Slots.taken_nodup s.nodes).map fun _ _ same => by cases same; rfl

/-- An edge is listed exactly when its slot holds its ends and weight. -/
theorem mem_edgeReferences (r : EdgeRef E) :
    r ∈ s.edgeReferences ↔ Slots.get s.edges r.id.index = some (r.source, r.target, r.weight) := by
  unfold edgeReferences
  rw [List.mem_filterMap]
  constructor
  · rintro ⟨k, -, found⟩
    obtain ⟨edge, slot, rfl⟩ := Option.map_eq_some_iff.mp found
    exact slot
  · intro slot
    refine ⟨r.id.index, List.mem_range.mpr (Slots.lt_length_of_isSome (by simp [slot])), ?_⟩
    rw [slot]
    rfl

theorem edgeIds_nodup (s : SlotGraph N E) : (s.edgeReferences.map (·.id)).Nodup := by
  unfold edgeReferences
  rw [List.map_filterMap]
  refine List.Nodup.filterMap ?_ List.nodup_range
  intro k k' j first second
  simp only [Option.mem_def, Option.map_map, Option.map_eq_some_iff, Function.comp_apply] at first second
  obtain ⟨-, -, rfl⟩ := first
  obtain ⟨-, -, same⟩ := second
  exact (congrArg EdgeIx.index same).symm

theorem edgeReferences_nodup (s : SlotGraph N E) : s.edgeReferences.Nodup :=
  (edgeIds_nodup s).of_map _

theorem refs_ends_live : ∀ r ∈ s.edgeReferences, (s.nodeWeight r.source).isSome ∧ (s.nodeWeight r.target).isSome :=
  fun r listed => s.ends_live _ _ _ _ ((mem_edgeReferences r).mp listed)

theorem addNode_vacant {w : N} {i : NodeIx} (added : s.addNode w = (i, s')) : s.nodeWeight i = none := by
  cases added
  exact Slots.get_vacant s.nodes

theorem nodeWeight_addNode {w : N} {i : NodeIx} (added : s.addNode w = (i, s')) (j : NodeIx) :
    s'.nodeWeight j = if j = i then some w else s.nodeWeight j := by
  cases added
  simp only [nodeWeight, Slots.get_place, nodeIx_eq_iff]

theorem removeNode_eq_none {i : NodeIx} : s.removeNode i = none ↔ s.nodeWeight i = none :=
  Option.map_eq_none_iff

theorem removeNode_eq_some {i : NodeIx} {w : N} (removed : s.removeNode i = some (w, s')) :
    s.nodeWeight i = some w ∧ s' = s.withoutNode i := by
  obtain ⟨w', weight, same⟩ := Option.map_eq_some_iff.mp removed
  cases same
  exact ⟨weight, rfl⟩

theorem nodeWeight_withoutNode (i j : NodeIx) :
    (s.withoutNode i).nodeWeight j = if j = i then none else s.nodeWeight j := by
  simp only [nodeWeight, withoutNode, Slots.get_set_none, nodeIx_eq_iff]

theorem mem_edgeReferences_withoutNode (i : NodeIx) (r : EdgeRef E) :
    r ∈ (s.withoutNode i).edgeReferences ↔ r ∈ s.edgeReferences ∧ r.source ≠ i ∧ r.target ≠ i := by
  rw [mem_edgeReferences, mem_edgeReferences]
  simp only [withoutNode, Slots.get_map_filter, Option.filter_eq_some_iff, clearOf_eq_true]

theorem nodeWeight_update (i : NodeIx) (f : N → N) (j : NodeIx) :
    (s.updateNodeWeight i f).nodeWeight j = if j = i then (s.nodeWeight i).map f else s.nodeWeight j := by
  simp only [nodeWeight, updateNodeWeight, Slots.get_modify, nodeIx_eq_iff]
  split
  · rename_i same
    rw [same]
  · rfl

theorem addEdge_of_live {a b : NodeIx} {w : E} {j : EdgeIx} (added : s.addEdge a b w = (j, s'))
    (source : (s.nodeWeight a).isSome) (target : (s.nodeWeight b).isSome) :
    j = ⟨Slots.vacant s.edges⟩ ∧ s'.nodes = s.nodes ∧ s'.edges = Slots.place s.edges (a, b, w) := by
  unfold addEdge at added
  rw [dif_pos ⟨source, target⟩] at added
  cases added
  exact ⟨rfl, rfl, rfl⟩

theorem mem_edgeReferences_addEdge {a b : NodeIx} {w : E} {j : EdgeIx} (added : s.addEdge a b w = (j, s'))
    (source : (s.nodeWeight a).isSome) (target : (s.nodeWeight b).isSome) (r : EdgeRef E) :
    r ∈ s'.edgeReferences ↔ r ∈ s.edgeReferences ∨ r = ⟨j, a, b, w⟩ := by
  obtain ⟨rfl, -, placed⟩ := addEdge_of_live added source target
  rw [mem_edgeReferences, mem_edgeReferences, placed, Slots.get_place]
  constructor
  · intro slot
    split at slot
    · rename_i atVacant
      obtain ⟨⟨k⟩, source, target, weight⟩ := r
      simp only [Option.some.injEq, Prod.mk.injEq] at slot atVacant
      obtain ⟨rfl, rfl, rfl⟩ := slot
      exact .inr (by rw [atVacant])
    · exact .inl slot
  · rintro (listed | rfl)
    · have notVacant : r.id.index ≠ Slots.vacant s.edges := by
        rintro same
        rw [same, Slots.get_vacant] at listed
        cases listed
      rw [if_neg notVacant]
      exact listed
    · rw [if_pos rfl]

theorem removeEdge_eq_none {j : EdgeIx} : s.removeEdge j = none ↔ ∀ r ∈ s.edgeReferences, r.id ≠ j := by
  unfold removeEdge
  rw [Option.map_eq_none_iff]
  constructor
  · intro vacant r listed same
    rw [mem_edgeReferences, same, vacant] at listed
    cases listed
  · intro unlisted
    rcases slot : Slots.get s.edges j.index with _ | ⟨a, b, w⟩
    · rfl
    · exact absurd rfl (unlisted ⟨j, a, b, w⟩ ((mem_edgeReferences _).mpr slot))

theorem removeEdge_eq_some {j : EdgeIx} {w : E} (removed : s.removeEdge j = some (w, s')) :
    s' = s.withoutEdge j := by
  obtain ⟨edge, -, same⟩ := Option.map_eq_some_iff.mp removed
  cases same
  rfl

theorem mem_edgeReferences_withoutEdge (j : EdgeIx) (r : EdgeRef E) :
    r ∈ (s.withoutEdge j).edgeReferences ↔ r ∈ s.edgeReferences ∧ r.id ≠ j := by
  rw [mem_edgeReferences, mem_edgeReferences]
  simp only [withoutEdge, Slots.get_set_none]
  by_cases same : r.id = j
  · rw [if_pos (edgeIx_eq_iff.mp same)]
    simp [same]
  · rw [if_neg (mt edgeIx_eq_iff.mpr same)]
    simp [same]

theorem mem_edgesDirected (i : NodeIx) (d : EdgeDirection) (r : EdgeRef E) :
    r ∈ s.edgesDirected i d ↔ r ∈ s.edgeReferences ∧ r.endpoint d = i := by
  simp [edgesDirected]

theorem mem_edgesConnecting (a b : NodeIx) (r : EdgeRef E) :
    r ∈ s.edgesConnecting a b ↔ r ∈ s.edgeReferences ∧ r.source = a ∧ r.target = b := by
  simp [edgesConnecting]

/-- Every edge joins two taken slots. -/
theorem links_ends (s : SlotGraph N E) :
    ∀ l ∈ s.edgeReferences.map (fun r => (r.source, r.target)),
      l.1 ∈ s.nodeIndices ∧ l.2 ∈ s.nodeIndices := by
  intro l link
  obtain ⟨r, listed, rfl⟩ := List.mem_map.mp link
  obtain ⟨source, target⟩ := refs_ends_live r listed
  exact ⟨(mem_nodeIndices _).mpr source, (mem_nodeIndices _).mpr target⟩

theorem toposort_acyclic (acyclic : ¬ Kahn.Cyclic (s.edgeReferences.map fun r => (r.source, r.target))) :
    ∃ order, s.toposort = .ok order ∧ store.IsTopological s order := by
  obtain ⟨order, sorted⟩ := Option.isSome_iff_exists.mp (Kahn.sort_isSome acyclic s.nodeIndices)
  obtain ⟨perm, forward⟩ := Kahn.sort_eq_some sorted
  refine ⟨order, by simp [toposort, sorted], perm, fun r listed => ?_⟩
  have link : (r.source, r.target) ∈ s.edgeReferences.map (fun r => (r.source, r.target)) :=
    List.mem_map_of_mem listed
  exact forward _ link (links_ends s _ link).1 (links_ends s _ link).2

theorem toposort_cyclic (cyclic : Kahn.Cyclic (s.edgeReferences.map fun r => (r.source, r.target))) :
    ∃ i, s.toposort = .error i :=
  ⟨s.nodeIndices.headD default, by
    unfold toposort
    rw [Kahn.sort_of_cyclic (nodeIndices_nodup s) (links_ends s) cyclic]⟩

/-- The slot lists are a lawful stable store. -/
theorem store_lawful : (store : StableDiGraph (SlotGraph N E) N E).Lawful where
  nodeWeight_empty _ := rfl
  edgeReferences_empty := rfl
  mem_nodeIndices _ := mem_nodeIndices
  nodeIndices_nodup := nodeIndices_nodup
  addNode_vacant := addNode_vacant
  nodeWeight_addNode := nodeWeight_addNode
  edgeReferences_addNode added _ := by cases added; rfl
  removeNode_eq_none := removeNode_eq_none
  removeNode_weight removed := (removeNode_eq_some removed).1
  nodeWeight_removeNode removed := (removeNode_eq_some removed).2 ▸ nodeWeight_withoutNode _
  edgeReferences_removeNode removed := (removeNode_eq_some removed).2 ▸ mem_edgeReferences_withoutNode _
  nodeWeight_update _ := nodeWeight_update
  edgeReferences_update _ _ _ _ := Iff.rfl
  edgeIds_nodup := edgeIds_nodup
  ends_live _ := refs_ends_live
  edgeReferences_addEdge := mem_edgeReferences_addEdge
  nodeWeight_addEdge added source target _ := by
    simp only [store, nodeWeight, (addEdge_of_live added source target).2.1]
  removeEdge_eq_none := removeEdge_eq_none
  edgeReferences_removeEdge removed := (removeEdge_eq_some removed) ▸ mem_edgeReferences_withoutEdge _
  nodeWeight_removeEdge removed _ := by rw [removeEdge_eq_some removed]; rfl
  mem_edgesDirected _ := mem_edgesDirected
  edgesDirected_nodup s _ _ := (edgeReferences_nodup s).filter _
  mem_edgesConnecting _ := mem_edgesConnecting
  nodeWeight_clear _ _ := rfl
  edgeReferences_clear _ := rfl
  toposort_acyclic _ := toposort_acyclic
  toposort_cyclic _ := toposort_cyclic

end SlotGraph

end PipelineEditor
