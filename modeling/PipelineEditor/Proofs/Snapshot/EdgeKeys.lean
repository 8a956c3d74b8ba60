import PipelineEditor.Proofs.Invariant.AnyCatalog
import PipelineEditor.Snapshot.Basic

/-! Edge keys in snapshots: distinct for edges whose target names hold no separator. -/

namespace PipelineEditor

/-- A name holding neither `|` nor `{`, the characters that open the separators of an edge key. -/
def SeparatorFree (name : String) : Prop := '|' ∉ name.toList ∧ '{' ∉ name.toList

/-- Two texts split at the first occurrence of a character split alike. -/
theorem append_cons_inj_of_not_mem_left {c : Char} :
    ∀ {x x' y y' : List Char}, c ∉ x → c ∉ x' → x ++ c :: y = x' ++ c :: y' → x = x' ∧ y = y'
  | [], [], _, _, _, _, joined => ⟨rfl, List.cons_injective joined⟩
  | [], d :: x', _, _, _, xClear', joined => absurd (List.cons.inj joined).1 fun headIs => xClear' (headIs ▸ List.mem_cons_self)
  | a :: x, [], _, _, xClear, _, joined => absurd (List.cons.inj joined).1 fun headIs => xClear (headIs ▸ List.mem_cons_self)
  | a :: x, b :: x', _, _, xClear, xClear', joined => by
    simp only [List.cons_append, List.cons.injEq] at joined
    obtain ⟨rfl, tails⟩ := joined
    obtain ⟨rfl, rfl⟩ := append_cons_inj_of_not_mem_left (fun inTail => xClear (List.mem_cons_of_mem _ inTail))
      (fun inTail => xClear' (List.mem_cons_of_mem _ inTail)) tails
    exact ⟨rfl, rfl⟩

/-- Two texts split at the last occurrence of a character split alike. -/
theorem append_cons_inj_of_not_mem_right {c : Char} {x x' y y' : List Char} (yClear : c ∉ y) (yClear' : c ∉ y')
    (joined : x ++ c :: y = x' ++ c :: y') : x = x' ∧ y = y' := by
  have reversed : y.reverse ++ c :: x.reverse = y'.reverse ++ c :: x'.reverse := by
    simpa using congrArg List.reverse joined
  obtain ⟨ySame, xSame⟩ := append_cons_inj_of_not_mem_left (by simpa using yClear) (by simpa using yClear') reversed
  exact ⟨List.reverse_injective xSame, List.reverse_injective ySame⟩

namespace Edge

theorem key_toList (e : Edge) :
    e.key.toList = (e.fromNode.toList ++ "-{out}-".toList ++ e.fromPort.toList) ++
      '|' :: ((e.toNode.toList ++ ['-']) ++ '{' :: ("in\x7d-".toList ++ e.toPort.toList)) := by
  simp [key, String.toList_append]

/-- The key of an edge names the port it enters, once that port's names hold no separator: its
text after the last `|` is `{toNode}-{in}-{toPort}`, split at its only `{`. -/
theorem target_eq_of_key_eq {a b : Edge} (keys : a.key = b.key)
    (aFree : SeparatorFree a.toNode ∧ SeparatorFree a.toPort) (bFree : SeparatorFree b.toNode ∧ SeparatorFree b.toPort) :
    a.target = b.target := by
  have chars := congrArg String.toList keys
  rw [key_toList, key_toList] at chars
  obtain ⟨-, tails⟩ := append_cons_inj_of_not_mem_right (by simp [aFree.1.1, aFree.2.1]) (by simp [bFree.1.1, bFree.2.1]) chars
  obtain ⟨nodes, ports⟩ := append_cons_inj_of_not_mem_left (by simp [aFree.1.2]) (by simp [bFree.1.2]) tails
  have nodeSame : a.toNode = b.toNode := String.toList_inj.mp (List.append_cancel_right nodes)
  have portSame : a.toPort = b.toPort := String.toList_inj.mp (List.append_cancel_left ports)
  simp [target, nodeSame, portSame]

end Edge

instance (name : String) : Decidable (SeparatorFree name) :=
  inferInstanceAs (Decidable ('|' ∉ name.toList ∧ '{' ∉ name.toList))

namespace Editor

variable {e : Editor}

/-- Sound edges whose target names hold no separator are told apart by their keys: two edges
entering one input port are one edge. -/
theorem EdgesSound.key_injOn (h : e.EdgesSound)
    (free : ∀ edge ∈ e.graph.edges, SeparatorFree edge.toNode ∧ SeparatorFree edge.toPort) :
    ∀ a ∈ e.graph.edges, ∀ b ∈ e.graph.edges, a.key = b.key → a = b :=
  fun a aStored b bStored sameKey => h.one_per_input a aStored b bStored (Edge.target_eq_of_key_eq sameKey (free a aStored) (free b bStored))

/-- The key order is transitive and total, so sorting by it gives a list in key order. -/
theorem pairwise_mergeSort_byKey (l : List (String × Edge)) :
    (l.mergeSort fun a b => !(b.1 < a.1)).Pairwise fun a b => !(b.1 < a.1) :=
  List.pairwise_mergeSort
    (fun a b c abLe bcLe => by
      simp only [Bool.not_eq_true', decide_eq_false_iff_not, String.not_lt] at abLe bcLe ⊢
      exact String.le_trans abLe bcLe)
    (fun a b => by
      simp only [Bool.or_eq_true, Bool.not_eq_true', decide_eq_false_iff_not, String.not_lt]
      exact String.le_total a.1 b.1)
    l

/-- The snapshot lists the keys of the edges, in another order. -/
theorem snapshot_keys_perm (e : Editor) :
    (e.snapshot.edges.map Prod.fst).Perm (e.graph.edges.map Edge.key) := by
  have sortedPerm := (List.mergeSort_perm (e.graph.edges.map fun edge => (edge.key, edge))
    fun a b => !(b.1 < a.1)).map Prod.fst
  simpa [snapshot, List.map_map, Function.comp_def] using sortedPerm

/-- Two lists of keyed edges, both sorted by key and holding the same edges under distinct keys,
are one list. -/
theorem mergeSort_byKey_eq_of_perm {edges edges' : List Edge} (reordered : edges'.Perm edges)
    (keyed : ∀ a ∈ edges, ∀ b ∈ edges, a.key = b.key → a = b) :
    (edges'.map fun edge => (edge.key, edge)).mergeSort (fun a b => !(b.1 < a.1)) =
      (edges.map fun edge => (edge.key, edge)).mergeSort (fun a b => !(b.1 < a.1)) := by
  apply List.Perm.eq_of_pairwise _ (pairwise_mergeSort_byKey _) (pairwise_mergeSort_byKey _)
  · exact ((List.mergeSort_perm _ _).trans (reordered.map _)).trans (List.mergeSort_perm _ _).symm
  · intro a b aSorted bSorted abLe baLe
    obtain ⟨x, xListed, rfl⟩ := List.mem_map.mp (List.mem_mergeSort.mp aSorted)
    obtain ⟨y, yListed, rfl⟩ := List.mem_map.mp (List.mem_mergeSort.mp bSorted)
    simp only [Bool.not_eq_true', decide_eq_false_iff_not, String.not_lt] at abLe baLe
    rw [keyed x (reordered.subset xListed) y yListed (String.le_antisymm abLe baLe)]

/-- Storing the same edges in another order leaves a snapshot as it is, when the edges have
distinct keys. -/
theorem snapshot_reorder {edges' : List Edge} (reordered : edges'.Perm e.graph.edges)
    (keyed : ∀ a ∈ e.graph.edges, ∀ b ∈ e.graph.edges, a.key = b.key → a = b) :
    { e with graph := { e.graph with edges := edges' } }.snapshot = e.snapshot := by
  simp only [snapshot, packagesInUse, Graph.nodeList]
  rw [mergeSort_byKey_eq_of_perm reordered keyed]

/-- In every editor a run reaches, from any catalog, the edges entering ports whose names hold
neither `|` nor `{` are listed in the snapshot under pairwise distinct keys, and the snapshot does
not depend on the order in which the graph stores its edges. -/
theorem snapshot_edge_keys_unique (c : Catalog) (actions : List Action) :
    let S := replay actions (ofCatalog c)
    (∀ edge ∈ S.graph.edges, SeparatorFree edge.toNode ∧ SeparatorFree edge.toPort) →
    (S.snapshot.edges.map Prod.fst).Nodup ∧
      ∀ edges', edges'.Perm S.graph.edges → { S with graph := { S.graph with edges := edges' } }.snapshot = S.snapshot := by
  intro S free
  have sound : S.EdgesSound := edgesSound_replay c actions
  have keyed := sound.key_injOn free
  refine ⟨(snapshot_keys_perm S).nodup_iff.mpr (List.Nodup.map_on keyed sound.edges_nodup),
    fun edges' reordered => snapshot_reorder reordered keyed⟩

/-- A catalog of a source with the output ports `p` and `p|v` and a sink with the input port
`q`, all of one type. -/
def pipeCatalog : Catalog := Catalog.ofStructures
  [{ package := "pkg.S", clazz := "S", output := Table.ofList [("p", ⟨"t"⟩), ("p|v", ⟨"t"⟩)] },
   { package := "pkg.T", clazz := "T", input := Table.ofList [("q", ⟨"t"⟩)] }]

/-- The source `u` and the sinks `w` and `v|w`. -/
def pipeNodes : List Action :=
  [.create "pkg.S" ⟨0, 0⟩ (some "u"), .create "pkg.T" ⟨0, 0⟩ (some "w"),
   .create "pkg.T" ⟨0, 0⟩ (some "v|w")]

/-- The edges `u -p-> w` and `u -p|v-> x` stand side by side, one leaving a port whose name holds
a separator. -/
theorem snapshot_edge_keys_unique_two_edges :
    let S := replay (pipeNodes ++ [.create "pkg.T" ⟨0, 0⟩ (some "x"), .connect "u" "p" "w" "q",
      .connect "u" "p|v" "x" "q"]) (ofCatalog pipeCatalog)
    S.graph.edges.length = 2 ∧
      (∀ edge ∈ S.graph.edges, SeparatorFree edge.toNode ∧ SeparatorFree edge.toPort) ∧
      (S.snapshot.edges.map Prod.fst).Nodup ∧
      ∀ edges', edges'.Perm S.graph.edges →
        { S with graph := { S.graph with edges := edges' } }.snapshot = S.snapshot :=
  ⟨by decide, by decide, snapshot_edge_keys_unique pipeCatalog _ (by decide)⟩

/-- A snapshot of edges already in key order lists them in their order. -/
theorem snapshot_edges_of_sorted {e : Editor}
    (sorted : (e.graph.edges.map fun edge => (edge.key, edge)).Pairwise fun a b => !(b.1 < a.1)) :
    e.snapshot.edges = e.graph.edges.map fun edge => (edge.key, edge) :=
  List.mergeSort_of_pairwise sorted

/-- The edges `u -p|v-> w` and `u -p-> v|w` share the key `u-{out}-p|v|w-{in}-q`, and connected in
the two orders they give two editors with the same edges and different snapshots. -/
theorem snapshot_keys_collide_through_separators :
    let S₁ := replay (pipeNodes ++ [.connect "u" "p|v" "w" "q", .connect "u" "p" "v|w" "q"])
      (ofCatalog pipeCatalog)
    let S₂ := replay (pipeNodes ++ [.connect "u" "p" "v|w" "q", .connect "u" "p|v" "w" "q"])
      (ofCatalog pipeCatalog)
    S₁.snapshot.edges.map Prod.fst = ["u-{out}-p|v|w-{in}-q", "u-{out}-p|v|w-{in}-q"] ∧
      S₁.graph.edges.Perm S₂.graph.edges ∧ S₁.snapshot.edges ≠ S₂.snapshot.edges := by
  intro S₁ S₂
  have stored₁ : S₁.graph.edges = [⟨"u", "p|v", "w", "q"⟩, ⟨"u", "p", "v|w", "q"⟩] := by decide
  have stored₂ : S₂.graph.edges = [⟨"u", "p", "v|w", "q"⟩, ⟨"u", "p|v", "w", "q"⟩] := by decide
  -- both edges have one key, so either list is already in key order
  rw [snapshot_edges_of_sorted (by rw [stored₁]; decide), snapshot_edges_of_sorted (by rw [stored₂]; decide),
    stored₁, stored₂]
  decide

end Editor

end PipelineEditor
