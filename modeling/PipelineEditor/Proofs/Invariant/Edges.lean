import PipelineEditor.Proofs.Invariant.Nodes
import Mathlib.Data.List.Nodup

/-! The commands that join and separate ports keep the invariant. -/

namespace PipelineEditor

namespace Editor

theorem foldl_erase_sublist (xs l : List Edge) : (l.foldl List.erase xs).Sublist xs := by
  rw [← List.diff_eq_foldl]
  exact List.diff_sublist _ _

/-- Erasing from a list, one by one, its own members that pass a test leaves those that fail it,
also where a member stands twice. -/
theorem foldl_erase_filter (l : List Edge) (p : Edge → Bool) :
    (l.filter p).foldl List.erase l = l.filter fun b => !p b := by
  rw [← List.diff_eq_foldl]
  induction l with
  | nil => simp
  | cons a rest ih =>
    by_cases passes : p a = true
    · rw [List.filter_cons_of_pos passes, List.diff_cons, List.erase_cons_head, ih]
      simp [passes]
    · rw [List.filter_cons_of_neg passes,
        List.cons_diff_of_not_mem (fun kept => passes (List.mem_filter.mp kept).2), ih]
      simp [passes]

/-- Evicting keeps the edges that do not enter the new edge's input port, and the new edge. -/
theorem Graph.evictInto_eq_filter (g : Graph) (edge : Edge) :
    g.evictInto edge =
      { g with edges := g.edges.filter fun c => !c.touches edge.target || c == edge } := by
  rw [Graph.evictInto_eq, Graph.edgesAtPort_eq_filter, List.filter_filter, foldl_erase_filter]
  congr 2
  funext c
  cases c.touches edge.target <;> cases isNew : c == edge <;> simp_all

/-- After the eviction no edge but the new one enters its input port. -/
theorem evictInto_free (g : Graph) (edge : Edge) :
    ∀ c ∈ (g.evictInto edge).edges, c.target = edge.target → c = edge := by
  intro c listed sameTarget
  rw [Graph.evictInto_eq_filter] at listed
  have kept := (List.mem_filter.mp listed).2
  rw [Edge.touches_target_iff.mpr sameTarget] at kept
  simpa using kept

/-- An edge survives the eviction when it enters another input port, or is the new edge. -/
theorem Graph.mem_evictInto {g : Graph} {edge x : Edge} :
    x ∈ (g.evictInto edge).edges ↔ x ∈ g.edges ∧ (x.target ≠ edge.target ∨ x = edge) := by
  rw [Graph.evictInto_eq_filter, List.mem_filter, Bool.or_eq_true, beq_iff_eq, Bool.not_eq_true',
    Bool.eq_false_iff, ne_eq, Edge.touches_target_iff]

theorem Invariant.disconnect {e : Editor} (h : e.Invariant) (edge : Edge) :
    ((disconnect edge).after e).Invariant := by
  rw [disconnect_after]
  exact h.with_edges (h.graph.of_sublist (List.erase_sublist ..))

theorem Invariant.disconnectPort {e : Editor} (h : e.Invariant) (p : PortRef) :
    ((disconnectPort p).after e).Invariant := by
  rw [disconnectPort_after]
  exact h.with_edges (h.graph.of_sublist (foldl_erase_sublist _ _))

section AddEdge

variable {e : Editor} {edge : Edge}

/-- The editor with an edge added unless it is present. -/
abbrev withEdge (e : Editor) (edge : Edge) : Editor :=
  { e with graph :=
    if edge ∈ e.graph.edges then e.graph else { e.graph with edges := e.graph.edges ++ [edge] } }

theorem withEdge_eq_edges (e : Editor) (edge : Edge) :
    e.withEdge edge = { e with graph := { e.graph with
      edges := if edge ∈ e.graph.edges then e.graph.edges else e.graph.edges ++ [edge] } } := by
  simp only [withEdge]
  split <;> rfl

theorem withEdge_node? (k : String) : (e.withEdge edge).node? k = e.node? k := by
  rw [withEdge_eq_edges]
  rfl

theorem mem_withEdge_edges {x : Edge} :
    x ∈ (e.withEdge edge).graph.edges ↔ x ∈ e.graph.edges ∨ x = edge := by
  rw [withEdge_eq_edges]
  split
  · rename_i present
    exact ⟨.inl, fun h => h.elim id fun isNew => isNew ▸ present⟩
  · simp

/-- An edge keeps fitting when edges are added. -/
theorem EdgeFits.withEdge {b : Edge} (h : e.EdgeFits b) : (e.withEdge edge).EdgeFits b :=
  h.congr (by rfl) (by rw [withEdge_eq_edges])

/-- Adding an edge that fits, into an input port no other edge enters, keeps the edges sound. -/
theorem EdgesSound.withEdge (h : e.EdgesSound) (fits : e.EdgeFits edge)
    (free : ∀ b ∈ e.graph.edges, b.target = edge.target → b = edge) :
    (e.withEdge edge).EdgesSound := by
  rw [withEdge_eq_edges]
  split
  · exact h.of_sublist (List.Sublist.refl _)
  · rename_i absent
    refine ⟨h.name_eq, fun b bListed => ?_, ?_, ?_⟩
    · have fitsAfter : ∀ {c}, e.EdgeFits c → (e.withEdge edge).EdgeFits c := EdgeFits.withEdge
      rw [withEdge_eq_edges, if_neg absent] at fitsAfter
      rcases List.mem_append.mp bListed with bListed | bListed
      · exact fitsAfter (h.edge_fits b bListed)
      · rw [List.mem_singleton.mp bListed]
        exact fitsAfter fits
    · exact List.nodup_append.mpr ⟨h.edges_nodup, List.nodup_singleton edge,
        fun a aListed b bListed same => absent (by rw [List.mem_singleton.mp bListed] at same; rwa [← same])⟩
    · intro a aListed b bListed sameTarget
      rcases List.mem_append.mp aListed with aListed | aListed <;> rcases List.mem_append.mp bListed with bListed | bListed
      · exact h.one_per_input a aListed b bListed sameTarget
      · rw [List.mem_singleton.mp bListed] at sameTarget ⊢
        exact free a aListed sameTarget
      · rw [List.mem_singleton.mp aListed] at sameTarget ⊢
        exact (free b bListed sameTarget.symm).symm
      · rw [List.mem_singleton.mp aListed, List.mem_singleton.mp bListed]

theorem GraphSound.withEdge (h : e.GraphSound) (fits : e.EdgeFits edge)
    (free : ∀ b ∈ e.graph.edges, b.target = edge.target → b = edge) :
    (e.withEdge edge).GraphSound := by
  have edgesSound := h.edgesSound.withEdge fits free
  rw [withEdge_eq_edges] at edgesSound ⊢
  exact .of_edgesSound edgesSound h.keys_nodup h.name_valid h.package_known

theorem Invariant.withEdge (h : e.Invariant) (fits : e.EdgeFits edge)
    (free : ∀ b ∈ e.graph.edges, b.target = edge.target → b = edge) : (e.withEdge edge).Invariant := by
  have sound := h.graph.withEdge fits free
  rw [withEdge_eq_edges] at sound ⊢
  exact h.with_edges sound

end AddEdge

/-- A connection changes only the edges. -/
theorem connect_ok_edges {e e' : Editor} {fromNode fromPort toNode toPort : String} {edge : Edge}
    (ran : (connect fromNode fromPort toNode toPort).run e = .ok edge e') :
    ∃ es, e' = { e with graph := { e.graph with edges := es } } := by
  obtain ⟨-, -, -, rfl⟩ := connect_run_eq_ok ran
  refine ⟨if edge ∈ (e.graph.evictInto edge).edges then (e.graph.evictInto edge).edges
    else (e.graph.evictInto edge).edges ++ [edge], ?_⟩
  rw [Graph.evictInto_eq]
  split <;> rfl

/-- A connection that succeeds adds a fitting edge to the editor without the other edges into
its input port. -/
theorem connect_ok_withEdge {e e' : Editor} {fromNode fromPort toNode toPort : String} {edge : Edge}
    (ran : (connect fromNode fromPort toNode toPort).run e = .ok edge e') :
    e.EdgeFits edge ∧ e' = ({ e with graph := e.graph.evictInto edge } : Editor).withEdge edge := by
  obtain ⟨rfl, apart, ⟨a, b, sourceType, targetType, fit⟩, rfl⟩ := connect_run_eq_ok ran
  exact ⟨⟨apart, a, b, sourceType, targetType, fit⟩, rfl⟩

/-- A fitting edge is connected: the other edges into its input port go, and the edge is added
unless it is present. -/
theorem connect_run_of_edgeFits {e : Editor} {edge : Edge} (fits : e.EdgeFits edge) :
    (connect edge.fromNode edge.fromPort edge.toNode edge.toPort).run e =
      .ok edge (({ e with graph := e.graph.evictInto edge } : Editor).withEdge edge) := by
  obtain ⟨apart, a, b, sourceType, targetType, fit⟩ := fits
  have addedEdge : (e.graph.evictInto edge).addEdge edge =
      .ok (if edge ∈ (e.graph.evictInto edge).edges then (false, e.graph.evictInto edge)
        else (true, { e.graph.evictInto edge with edges := (e.graph.evictInto edge).edges ++ [edge] })) :=
    Graph.addEdge_eq_ok.mpr ⟨by simpa using contains_of_portType_eq_ok sourceType,
      by simpa using contains_of_portType_eq_ok targetType, rfl⟩
  simp only [connect, EStateM.run_bind, EStateM.run_get, Edit.run_liftExcept]
  rw [show (⟨edge.fromNode, edge.fromPort, edge.toNode, edge.toPort⟩ : Edge) = edge from rfl, sourceType, targetType]
  simp only [beq_iff_eq, apart, fit, Bool.not_true, Bool.or_false, if_false,
    EStateM.run_bind, EStateM.run_set, Edit.run_liftExcept, addedEdge]
  by_cases present : edge ∈ (e.graph.evictInto edge).edges <;>
    simp only [withEdge, present, if_true, if_false] <;> rfl

/-- Connecting keeps the edges sound: the new edge fits, and the other edges into its input port
are removed before it is added. -/
theorem EdgesSound.connect_ok {e e' : Editor} (h : e.EdgesSound)
    {fromNode fromPort toNode toPort : String} {edge : Edge}
    (ran : (connect fromNode fromPort toNode toPort).run e = .ok edge e') : e'.EdgesSound := by
  obtain ⟨fits, rfl⟩ := connect_ok_withEdge ran
  have evicted : ({ e with graph := e.graph.evictInto edge } : Editor).EdgesSound := by
    rw [Graph.evictInto_eq_filter]
    exact h.of_sublist List.filter_sublist
  have fitsAfter : ({ e with graph := e.graph.evictInto edge } : Editor).EdgeFits edge :=
    EdgeFits.congr (by rfl) (Graph.evictInto_nodes _ _) fits
  exact evicted.withEdge fitsAfter (evictInto_free _ _)

/-- Connecting keeps the graph sound. -/
theorem GraphSound.connect_ok {e e' : Editor} (h : e.GraphSound)
    {fromNode fromPort toNode toPort : String} {edge : Edge}
    (ran : (connect fromNode fromPort toNode toPort).run e = .ok edge e') : e'.GraphSound := by
  have edgesSound := h.edgesSound.connect_ok ran
  obtain ⟨es, rfl⟩ := connect_ok_edges ran
  exact .of_edgesSound edgesSound h.keys_nodup h.name_valid h.package_known

theorem Invariant.connect {e : Editor} (h : e.Invariant) (fromNode fromPort toNode toPort : String) :
    ((connect fromNode fromPort toNode toPort).after e).Invariant := by
  apply Edit.after_induction
  · intro edge e' ran
    have sound := h.graph.connect_ok ran
    obtain ⟨es, rfl⟩ := connect_ok_edges ran
    exact h.with_edges sound
  · intro _ e' ran
    rw [connect_run_eq_error ran]
    exact h

theorem withEdge_of_addEdge {e : Editor} {edge : Edge} {added : Bool} {graph : Graph}
    (h : e.graph.addEdge edge = .ok (added, graph)) : ({ e with graph } : Editor) = e.withEdge edge := by
  obtain ⟨-, -, graphAdded⟩ := Graph.addEdge_eq_ok.mp h
  simp only [withEdge]
  split at graphAdded <;> simp_all

/-- Adding edges one by one changes only the edges, whether it ends or stops. -/
theorem addEdges_after_eq (edges : List Edge) (e : Editor) :
    ∃ es, (addEdges edges).after e = { e with graph := { e.graph with edges := es } } := by
  induction edges generalizing e with
  | nil => exact ⟨e.graph.edges, rfl⟩
  | cons edge rest ih =>
    rw [addEdges_cons_after]
    rcases addedEdge : e.graph.addEdge edge with _ | ⟨added, graph⟩
    · exact ⟨e.graph.edges, rfl⟩
    · dsimp only
      obtain ⟨es, restEdges⟩ := ih { e with graph }
      refine ⟨es, ?_⟩
      have sameNodes : graph.nodes = e.graph.nodes := by
        have graphNodes := congrArg (fun e' : Editor => e'.graph.nodes) (withEdge_of_addEdge addedEdge)
        simp only at graphNodes
        rw [graphNodes]
        split <;> rfl
      rw [restEdges]
      simp only [sameNodes]

/-- Adding edges that are all accepted leaves the old edges and the added ones. -/
theorem mem_edges_of_addEdges_run {edges : List Edge} {e e' : Editor} {u : Unit}
    (ran : (addEdges edges).run e = .ok u e') (c : Edge) :
    c ∈ e'.graph.edges ↔ c ∈ e.graph.edges ∨ c ∈ edges := by
  induction edges generalizing e with
  | nil =>
    simp only [addEdges, EStateM.run_pure, EStateM.Result.ok.injEq] at ran
    obtain ⟨-, rfl⟩ := ran
    simp
  | cons edge rest ih =>
    rw [addEdges_cons_run] at ran
    rcases addedEdge : e.graph.addEdge edge with _ | ⟨added, graph⟩ <;> rw [addedEdge] at ran
    · cases ran
    · dsimp only at ran
      rw [withEdge_of_addEdge addedEdge] at ran
      rw [ih ran, mem_withEdge_edges, List.mem_cons, or_assoc]

/-- Adding edges one by one keeps a property that adding one fitting edge into a free input port
keeps, when each edge fits and no two of them, or one of them and a present edge, enter one
input port. -/
theorem addEdges_keeps {P : Editor → Prop}
    (step : ∀ {e : Editor} {edge : Edge}, P e → e.EdgeFits edge →
      (∀ b ∈ e.graph.edges, b.target = edge.target → b = edge) → P (e.withEdge edge))
    {e : Editor} (h : P e) (edges : List Edge) (fits : ∀ b ∈ edges, e.EdgeFits b)
    (free : ∀ b ∈ edges, ∀ c ∈ edges ++ e.graph.edges, c.target = b.target → c = b) :
    P ((addEdges edges).after e) := by
  induction edges generalizing e with
  | nil => exact h
  | cons edge rest ih =>
    rw [addEdges_cons_after]
    rcases addedEdge : e.graph.addEdge edge with _ | ⟨added, graph⟩
    · exact h
    · dsimp only
      rw [withEdge_of_addEdge addedEdge]
      have stepped : P (e.withEdge edge) :=
        step h (fits edge List.mem_cons_self) fun c listed =>
          free edge List.mem_cons_self c (List.mem_append_right _ listed)
      refine ih stepped (fun b later => (fits b (List.mem_cons_of_mem _ later)).withEdge) ?_
      intro b later c listed sameTarget
      have listedBefore : c ∈ (edge :: rest) ++ e.graph.edges := by
        rcases List.mem_append.mp listed with listed | listed
        · exact List.mem_append_left _ (List.mem_cons_of_mem _ listed)
        · rw [withEdge_eq_edges] at listed
          simp only at listed
          split at listed
          · exact List.mem_append_right _ listed
          · rcases List.mem_append.mp listed with listed | listed
            · exact List.mem_append_right _ listed
            · rw [List.mem_singleton.mp listed]
              exact List.mem_append_left _ List.mem_cons_self
      exact free b (List.mem_cons_of_mem _ later) c listedBefore sameTarget

/-- Adding edges one by one keeps the invariant when each fits and no two of them, or one of them
and a present edge, enter one input port. -/
theorem Invariant.addEdges {e : Editor} (h : e.Invariant) (edges : List Edge)
    (fits : ∀ b ∈ edges, e.EdgeFits b)
    (free : ∀ b ∈ edges, ∀ c ∈ edges ++ e.graph.edges, c.target = b.target → c = b) :
    ((addEdges edges).after e).Invariant :=
  addEdges_keeps (fun h fits free => h.withEdge fits free) h edges fits free

/-- Adding edges one by one keeps the edges sound under the same conditions. -/
theorem EdgesSound.addEdges {e : Editor} (h : e.EdgesSound) (edges : List Edge)
    (fits : ∀ b ∈ edges, e.EdgeFits b)
    (free : ∀ b ∈ edges, ∀ c ∈ edges ++ e.graph.edges, c.target = b.target → c = b) :
    ((addEdges edges).after e).EdgesSound :=
  addEdges_keeps (fun h fits free => h.withEdge fits free) h edges fits free

end Editor

end PipelineEditor
