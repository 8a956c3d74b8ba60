import PipelineEditor.Proofs.Session

/-! Deleting a node removes exactly what belongs to it, and keeps everything else as it was. -/

namespace PipelineEditor

namespace Editor

variable {e : Editor} {x : String}

/-- Deleting a live node gives it back and leaves the editor without it. -/
theorem delete_run_of_node? {n : Node} (found : e.node? x = some n) :
    (delete x).run e = .ok n (e.withoutNode x) := by
  have removed : e.graph.removeNode x = some (n, e.graph.incidentEdges x,
      ⟨e.graph.nodes.erase x, e.graph.edges.filter fun b => !(b.fromNode == x || b.toNode == x)⟩) :=
    Graph.removeNode_eq_some.mpr ⟨found, rfl, rfl⟩
  simp only [delete, EStateM.run_bind, EStateM.run_get, removed, EStateM.run_set, EStateM.run_pure]

/-- Deleting a name no node has is refused and changes nothing. -/
theorem delete_run_of_node?_eq_none (absent : e.node? x = none) :
    (delete x).run e = .error (.unknownNode x) e := by
  have removed : e.graph.removeNode x = none := by
    rw [Graph.removeNode, Graph.node?_def, ← node?_def, absent, Option.map_none]
  simp only [delete, EStateM.run_bind, EStateM.run_get, removed, Edit.run_throw]

/-- The edges left are those with neither end at the deleted node, in their order. -/
theorem withoutNode_edges :
    (e.withoutNode x).graph.edges = e.graph.edges.filter fun b => b.fromNode ≠ x ∧ b.toNode ≠ x := by
  show List.filter _ _ = List.filter _ _
  congr 1
  funext b
  by_cases fromOld : b.fromNode = x <;> by_cases toOld : b.toNode = x <;> simp [fromOld, toOld]

/-- The selection loses the deleted node and keeps its order. -/
theorem withoutNode_selected :
    (e.withoutNode x).selection.selected = e.selection.selected.filter fun r => r.name ≠ x := by
  show List.filter _ _ = List.filter _ _
  congr 1
  funext r
  by_cases isOld : r.name = x <;> simp [isOld]

/-- In every editor reached from a catalog whose entries name new nodes without `$`, deleting a
live node gives it back and removes exactly its entry, the edges at it, its config, the chosen
types of its own parameters and its selection entry; the keys of every other live node survive,
and nothing else changes. Deleting a name no node has is refused with `unknownNode` and changes
nothing. -/
theorem delete_cascades_exactly (c : Catalog) (catalogFree : c.NamesFree) (actions : List Action)
    (actionsFree : ∀ a ∈ actions, a.NamesFree) (x : String) :
    let S := replay actions (ofCatalog c)
    (∀ n, S.node? x = some n → ∃ S', (delete x).run S = .ok n S' ∧
      (∀ k, S'.node? k = if k = x then none else S.node? k) ∧
      S'.graph.edges = S.graph.edges.filter (fun b => b.fromNode ≠ x ∧ b.toNode ≠ x) ∧
      (∀ k, S'.params.configs.get? k = if k = x then none else S.params.configs.get? k) ∧
      (∀ p, S'.params.anyTypes.get? (anyKey x p) = none) ∧
      (∀ key, (∀ p, key ≠ anyKey x p) → S'.params.anyTypes.get? key = S.params.anyTypes.get? key) ∧
      (∀ k p, k ≠ x → (S.node? k).isSome →
        S'.params.anyTypes.get? (anyKey k p) = S.params.anyTypes.get? (anyKey k p)) ∧
      S'.selection.selected = S.selection.selected.filter (fun r => r.name ≠ x) ∧
      S'.selection.doubleClick = S.selection.doubleClick ∧
      S'.catalog = S.catalog ∧ S'.transform = S.transform) ∧
    (S.node? x = none → (delete x).run S = .error (.unknownNode x) S) := by
  intro S
  have h : S.Invariant := replay_invariant c catalogFree actions actionsFree
  refine ⟨fun n found => ⟨S.withoutNode x, delete_run_of_node? found, ?_⟩, delete_run_of_node?_eq_none⟩
  -- the deleted name and every live name hold no `$`, so a key names its node
  have oldFree : '$' ∉ x.toList := h.graph.dollar_not_mem found
  refine ⟨withoutNode_node?, withoutNode_edges, ParamStore.removeConfig_configs_get? _ _,
    ParamStore.removeConfig_anyTypes_get?_anyKey _ _, ParamStore.removeConfig_anyTypes_get?_of_ne _ _,
    fun k p other live => ?_, withoutNode_selected, rfl, rfl, rfl⟩
  obtain ⟨m, found'⟩ := Option.isSome_iff_exists.mp live
  exact ParamStore.removeConfig_anyTypes_get?_anyKey_of_ne _ oldFree
    (h.graph.dollar_not_mem found') other p

/-- A catalog of a class `ab` declaring an `any` parameter `p`, beside the class `R`. -/
def prefixAnyCatalog : Catalog :=
  Catalog.ofStructures [{ package := "pkg.X", clazz := "ab", parameter := [{ name := "p", type := "any" }] },
    { package := "pkg.R", clazz := "R" }]

/-- Deleting a node `a` keeps the key `ab1$p` of the node `ab1` beside it. -/
theorem delete_keeps_key_of_extended_name :
    prefixAnyCatalog.NamesFree ∧
      (∀ a ∈ [Action.create "pkg.X" ⟨0, 0⟩ none, .create "pkg.R" ⟨0, 0⟩ (some "a")], a.NamesFree) ∧
      ((delete "a").after (replay [.create "pkg.X" ⟨0, 0⟩ none, .create "pkg.R" ⟨0, 0⟩ (some "a")]
          (ofCatalog prefixAnyCatalog))).params.anyTypes.get? (anyKey "ab1" "p") = some "str" := by
  refine ⟨by decide, by decide, ?_⟩
  have live : ((replay [.create "pkg.X" ⟨0, 0⟩ none, .create "pkg.R" ⟨0, 0⟩ (some "a")]
      (ofCatalog prefixAnyCatalog)).node? "a").isSome = true := by decide
  obtain ⟨n, found⟩ := Option.isSome_iff_exists.mp live
  obtain ⟨S', ran, -, -, -, -, -, keeps, -⟩ :=
    (delete_cascades_exactly prefixAnyCatalog (by decide) _ (by decide) "a").1 n found
  rw [Edit.after_of_run_ok ran, keeps "ab1" "p" (by decide) (by decide)]
  decide

/-- A catalog of a class `a$b` declaring an `any` parameter `p`, beside the class `R`. -/
def dollarAnyCatalog : Catalog :=
  Catalog.ofStructures [{ package := "pkg.X", clazz := "a$b", parameter := [{ name := "p", type := "any" }] },
    { package := "pkg.R", clazz := "R" }]

/-- With a `$` in a class, a node `a$b1` stands beside a node `a`, and deleting `a` drops the key
`a$b1$p` of the live node `a$b1`. -/
theorem delete_drops_key_of_dollar_node :
    ¬ ∀ k p, k ≠ "a" →
      ((replay [.create "pkg.X" ⟨0, 0⟩ none, .create "pkg.R" ⟨0, 0⟩ (some "a")]
        (ofCatalog dollarAnyCatalog)).node? k).isSome →
      ((delete "a").after (replay [.create "pkg.X" ⟨0, 0⟩ none, .create "pkg.R" ⟨0, 0⟩ (some "a")]
          (ofCatalog dollarAnyCatalog))).params.anyTypes.get? (anyKey k p) =
        (replay [.create "pkg.X" ⟨0, 0⟩ none, .create "pkg.R" ⟨0, 0⟩ (some "a")]
          (ofCatalog dollarAnyCatalog)).params.anyTypes.get? (anyKey k p) := by
  intro keeps
  have dropped := keeps "a$b1" "p" (by decide) (by decide)
  revert dropped
  decide

end Editor

end PipelineEditor
