import PipelineEditor.Proofs.Atomicity

/-! A node created without a name takes the least free numbered name of its entry's base name. -/

namespace PipelineEditor

namespace Editor

/-- A number is a free suffix for a base when it is positive and no node has the base followed
by it as its name. -/
def FreeSuffix (g : Graph) (base : String) (i : Nat) : Prop :=
  0 < i ∧ g.contains (base ++ toString i) = false

instance (g : Graph) (base : String) : DecidablePred (FreeSuffix g base) :=
  fun i => inferInstanceAs (Decidable (0 < i ∧ g.contains (base ++ toString i) = false))

/-- The bounded search ends on a candidate among those it may try, and every candidate it tried
before is taken. -/
theorem freeName_least (g : Graph) (base : String) :
    ∀ fuel n, ∃ i, freeName g base fuel n = base ++ toString i ∧ n ≤ i ∧ i ≤ n + fuel ∧
      ∀ j, n ≤ j → j < i → g.contains (base ++ toString j) = true
  | 0, n => ⟨n, rfl, le_refl n, by omega, fun j atLeast below => absurd below (by omega)⟩
  | fuel + 1, n => by
    simp only [freeName]
    split
    · rename_i taken
      obtain ⟨i, named, lower, upper, takenBefore⟩ := freeName_least g base fuel (n + 1)
      refine ⟨i, named, by omega, by omega, fun j atLeast below => ?_⟩
      rcases Nat.eq_or_lt_of_le atLeast with rfl | later
      · exact taken
      · exact takenBefore j later below
    · exact ⟨n, rfl, le_refl n, by omega, fun j atLeast below => absurd below (by omega)⟩

/-- The next name from a base is the base followed by the least free suffix, which is at most one
more than the number of nodes. -/
theorem nextNodeName_least (e : Editor) (base : String) :
    ∃ i, e.nextNodeName base = base ++ toString i ∧ i ≤ e.graph.nodeCount + 1 ∧
      FreeSuffix e.graph base i ∧ ∀ j, 0 < j → j < i → e.graph.contains (base ++ toString j) = true := by
  obtain ⟨i, named, lower, upper, takenBefore⟩ := freeName_least e.graph base e.graph.nodeCount 1
  have free : e.graph.contains (base ++ toString i) = false := by
    rw [← named]
    exact nextNodeName_free e base
  exact ⟨i, named, by omega, ⟨by omega, free⟩, fun j positive below => takenBefore j positive below⟩

theorem exists_freeSuffix (e : Editor) (base : String) : ∃ i, FreeSuffix e.graph base i := by
  obtain ⟨i, -, -, free, -⟩ := nextNodeName_least e base
  exact ⟨i, free⟩

/-- The search with one candidate more than there are nodes is the unbounded search for a free
suffix: it never runs out of candidates. -/
theorem nextNodeName_eq_find (e : Editor) (base : String) :
    e.nextNodeName base = base ++ toString (Nat.find (exists_freeSuffix e base)) := by
  obtain ⟨i, named, -, free, takenBefore⟩ := nextNodeName_least e base
  have found : Nat.find (exists_freeSuffix e base) = i := by
    rw [Nat.find_eq_iff]
    refine ⟨free, fun j below jFree => ?_⟩
    obtain ⟨jPositive, jNotTaken⟩ := jFree
    rw [takenBefore j jPositive below] at jNotTaken
    exact Bool.noConfusion jNotTaken
  rw [found, named]

/-- Creating a node of a known package at a finite position, without a name, succeeds: it adds the
node, unselected, under the next name from the entry's base name, and gives it its starting
parameters. -/
theorem create_unnamed_run {e : Editor} {package : String} {s : NodeStructure}
    (entry : e.catalog.get? package = some s) {position : Position} (finite : position.isFinite = true) :
    (create package position none).run e =
      .ok ⟨e.nextNodeName s.baseName, package, position, false⟩
        { e with
          graph :=
            { e.graph with
              nodes := e.graph.nodes.insert (e.nextNodeName s.baseName)
                ⟨e.nextNodeName s.baseName, package, position, false⟩ }
          params := e.params.initNode (e.nextNodeName s.baseName) s } := by
  have structureFound : e.catalog.structure? package = .ok s := Catalog.structure?_eq_ok.mpr entry
  have checked : ensureFinite position = .ok () := by simp [ensureFinite, finite]
  have added : e.graph.addNode ⟨e.nextNodeName s.baseName, package, position, false⟩ =
      .ok
        { e.graph with
          nodes := e.graph.nodes.insert (e.nextNodeName s.baseName)
            ⟨e.nextNodeName s.baseName, package, position, false⟩ } :=
    Graph.addNode_eq_ok.mpr ⟨nextNodeName_free e s.baseName, rfl⟩
  simp only [create, EStateM.run_bind, EStateM.run_get, Edit.run_liftExcept, structureFound, checked,
    newNodeName_none, added, EStateM.run_set, EStateM.run_pure]

/-- Creating a node of a catalog entry at a finite position without a name succeeds in every
editor, and names the node by the entry's base name followed by the least positive number whose
name no node has. That number is at most one more than the number of nodes, and it is where the
search for a free name ends. -/
theorem create_unnamed_least_free_suffix (e : Editor) {package : String} {s : NodeStructure}
    (entry : e.catalog.get? package = some s) {position : Position} (finite : position.isFinite = true) :
    ∃ i, 0 < i ∧ i ≤ e.graph.nodeCount + 1 ∧
      e.graph.contains (s.baseName ++ toString i) = false ∧
      (∀ j, 0 < j → j < i → e.graph.contains (s.baseName ++ toString j) = true) ∧
      e.nextNodeName s.baseName = s.baseName ++ toString i ∧
      (create package position none).run e =
        .ok ⟨s.baseName ++ toString i, package, position, false⟩
          { e with
            graph :=
              { e.graph with
                nodes := e.graph.nodes.insert (s.baseName ++ toString i)
                  ⟨s.baseName ++ toString i, package, position, false⟩ }
            params := e.params.initNode (s.baseName ++ toString i) s } := by
  obtain ⟨i, named, bounded, ⟨positive, free⟩, takenBefore⟩ := nextNodeName_least e s.baseName
  refine ⟨i, positive, bounded, free, takenBefore, named, ?_⟩
  rw [create_unnamed_run entry finite, named]

/-- The catalog of one class `A`. -/
def classACatalog : Catalog := Catalog.ofStructures [{ package := "pkg.A", clazz := "A" }]

/-- Nodes `A1` and `A3` stand, so a node created from class `A` fills the gap as `A2`. -/
theorem create_unnamed_fills_gap :
    let e := replay [.create "pkg.A" ⟨0, 0⟩ none, .create "pkg.A" ⟨0, 0⟩ none,
      .create "pkg.A" ⟨0, 0⟩ none, .delete "A2"] (ofCatalog classACatalog)
    e.catalog.get? "pkg.A" = some { package := "pkg.A", clazz := "A" } ∧
      (⟨0, 0⟩ : Position).isFinite = true ∧
      ∃ i, 0 < i ∧ i ≤ e.graph.nodeCount + 1 ∧
        e.graph.contains ("A" ++ toString i) = false ∧
        (∀ j, 0 < j → j < i → e.graph.contains ("A" ++ toString j) = true) ∧
        e.nextNodeName "A" = "A" ++ toString i ∧
        (create "pkg.A" ⟨0, 0⟩ none).run e =
          .ok ⟨"A" ++ toString i, "pkg.A", ⟨0, 0⟩, false⟩
            { e with
              graph :=
                { e.graph with
                  nodes := e.graph.nodes.insert ("A" ++ toString i)
                    ⟨"A" ++ toString i, "pkg.A", ⟨0, 0⟩, false⟩ }
              params := e.params.initNode ("A" ++ toString i) { package := "pkg.A", clazz := "A" } } :=
  have entry : (replay [.create "pkg.A" ⟨0, 0⟩ none, .create "pkg.A" ⟨0, 0⟩ none,
      .create "pkg.A" ⟨0, 0⟩ none, .delete "A2"] (ofCatalog classACatalog)).catalog.get? "pkg.A" =
      some { package := "pkg.A", clazz := "A" } := rfl
  ⟨entry, by decide, create_unnamed_least_free_suffix _ entry (by decide)⟩

end Editor

end PipelineEditor
