import PipelineEditor.Proofs.Invariant.AnyCatalog

/-! The edge commands, as laws on the set of edges of every reachable editor. -/

namespace PipelineEditor

namespace Editor

variable {e e' : Editor}

/-- Connecting succeeds exactly when the checks the command makes pass. -/
theorem connect_ok_iff {a p b q : String} :
    (∃ edge e', (connect a p b q).run e = .ok edge e') ↔
      ∃ na nb sa sb ta tb, e.node? a = some na ∧ e.node? b = some nb ∧
        e.catalog.get? na.package = some sa ∧ e.catalog.get? nb.package = some sb ∧
        sa.portType? p .output = some ta ∧ sb.portType? q .input = some tb ∧
        a ≠ b ∧ ta.compatible tb = true := by
  constructor
  · rintro ⟨edge, e', ran⟩
    obtain ⟨rfl, apart, ⟨ta, tb, sourceType, targetType, fit⟩, -⟩ := connect_run_eq_ok ran
    obtain ⟨na, sa, fromFound, fromEntry, fromDeclared⟩ := portType_eq_ok.mp sourceType
    obtain ⟨nb, sb, toFound, toEntry, toDeclared⟩ := portType_eq_ok.mp targetType
    exact ⟨na, nb, sa, sb, ta, tb, fromFound, toFound, fromEntry, toEntry, fromDeclared, toDeclared, apart, fit⟩
  · rintro ⟨na, nb, sa, sb, ta, tb, fromFound, toFound, fromEntry, toEntry, fromDeclared, toDeclared, apart, fit⟩
    have fits : e.EdgeFits ⟨a, p, b, q⟩ :=
      ⟨apart, ta, tb, portType_eq_ok.mpr ⟨na, sa, fromFound, fromEntry, fromDeclared⟩,
        portType_eq_ok.mpr ⟨nb, sb, toFound, toEntry, toDeclared⟩, fit⟩
    exact ⟨_, _, connect_run_of_edgeFits fits⟩

/-- After a connection the edges are the old ones that enter another input port, and the new
edge. -/
theorem mem_edges_of_connect_ok {a p b q : String} {edge : Edge}
    (ran : (connect a p b q).run e = .ok edge e') (x : Edge) :
    x ∈ e'.graph.edges ↔ (x ∈ e.graph.edges ∧ x.target ≠ edge.target) ∨ x = edge := by
  obtain ⟨-, rfl⟩ := connect_ok_withEdge ran
  rw [mem_withEdge_edges]
  show x ∈ (e.graph.evictInto edge).edges ∨ x = edge ↔ _
  rw [Graph.mem_evictInto]
  by_cases isNew : x = edge <;> simp [isNew]

/-- Connecting a present edge, where every edge fits and enters its input port alone, changes
nothing. -/
theorem EdgesSound.connect_of_mem (h : e.EdgesSound) {edge : Edge} (present : edge ∈ e.graph.edges) :
    (connect edge.fromNode edge.fromPort edge.toNode edge.toPort).run e = .ok edge e := by
  rw [connect_run_of_edgeFits (h.edge_fits edge present)]
  -- the edge enters its input port alone, so the eviction removes nothing
  have evicted : e.graph.evictInto edge = e.graph := by
    rw [Graph.evictInto_eq_filter, List.filter_eq_self.mpr]
    intro x listed
    by_cases sameTarget : x.target = edge.target
    · simp [h.one_per_input x listed edge present sameTarget]
    · have untouched : x.touches edge.target = false :=
        Bool.eq_false_iff.mpr fun touches => sameTarget (Edge.touches_target_iff.mp touches)
      simp [untouched]
  rw [evicted, Editor.withEdge, if_pos present]

theorem disconnect_run (edge : Edge) (e : Editor) :
    (disconnect edge).run e = .ok (decide (edge ∈ e.graph.edges))
      { e with graph := { e.graph with edges := e.graph.edges.erase edge } } := by
  unfold disconnect Graph.removeEdge
  by_cases present : edge ∈ e.graph.edges
  · simp [present]
  · simp [present, List.erase_of_not_mem present]

/-- Disconnecting a port gives back the edges attached to it, in order, and keeps the others. -/
theorem disconnectPort_run (port : PortRef) (e : Editor) :
    (disconnectPort port).run e = .ok (e.graph.edges.filter (·.touches port))
      { e with graph := { e.graph with edges := e.graph.edges.filter fun x => !x.touches port } } := by
  simp only [disconnectPort, EStateM.run_modifyGet]
  rw [Graph.foldl_removeEdge, Graph.edgesAtPort_eq_filter, foldl_erase_filter]

/-- The laws of the edge commands in every editor reached from a catalog's empty editor. Connecting
succeeds exactly when the two ports are declared on live, different nodes and their types fit;
it then replaces the edges into the input port by the new edge and changes nothing else, so
connecting a present edge is the identity; a refused connection changes nothing. Disconnecting an
edge removes exactly it and says whether it was present; disconnecting a port removes and gives
back exactly the edges attached to it. -/
theorem edge_commands_laws (c : Catalog) (actions : List Action) (a p b q : String) (edge : Edge)
    (port : PortRef) :
    let S := replay actions (ofCatalog c)
    ((∃ r S', (connect a p b q).run S = .ok r S') ↔
      ∃ na nb sa sb ta tb, S.node? a = some na ∧ S.node? b = some nb ∧
        S.catalog.get? na.package = some sa ∧ S.catalog.get? nb.package = some sb ∧
        sa.portType? p .output = some ta ∧ sb.portType? q .input = some tb ∧
        a ≠ b ∧ ta.compatible tb = true) ∧
    (∀ r S', (connect a p b q).run S = .ok r S' →
      r = ⟨a, p, b, q⟩ ∧ S' = { S with graph := { S.graph with edges := S'.graph.edges } } ∧
        S'.graph.edges.Nodup ∧
        ∀ x, x ∈ S'.graph.edges ↔
          (x ∈ S.graph.edges ∧ ¬ (x.toNode = b ∧ x.toPort = q)) ∨ x = ⟨a, p, b, q⟩) ∧
    (⟨a, p, b, q⟩ ∈ S.graph.edges → (connect a p b q).run S = .ok ⟨a, p, b, q⟩ S) ∧
    (∀ err S', (connect a p b q).run S = .error err S' → S' = S) ∧
    ((disconnect edge).run S = .ok (decide (edge ∈ S.graph.edges))
        { S with graph := { S.graph with edges := S.graph.edges.erase edge } } ∧
      ∀ x, x ∈ S.graph.edges.erase edge ↔ x ∈ S.graph.edges ∧ x ≠ edge) ∧
    (disconnectPort port).run S = .ok (S.graph.edges.filter (·.touches port))
      { S with graph := { S.graph with edges := S.graph.edges.filter fun x => !x.touches port } } := by
  intro S
  have edgesSound : S.EdgesSound := edgesSound_replay c actions
  refine ⟨connect_ok_iff, fun r S' ran => ?_, edgesSound.connect_of_mem,
    fun _ _ => connect_run_eq_error, ⟨disconnect_run edge S, fun x => ?_⟩, disconnectPort_run port S⟩
  · obtain ⟨rfl, -⟩ := connect_run_eq_ok ran
    have distinct := (edgesSound.connect_ok ran).edges_nodup
    have members := mem_edges_of_connect_ok ran
    obtain ⟨es, rfl⟩ := connect_ok_edges ran
    refine ⟨rfl, rfl, distinct, fun x => ?_⟩
    rw [members x]
    simp [Edge.target]
  · rw [edgesSound.edges_nodup.mem_erase_iff, and_comm]

end Editor

end PipelineEditor
