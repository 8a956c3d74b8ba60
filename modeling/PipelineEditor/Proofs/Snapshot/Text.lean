import PipelineEditor.Proofs.Snapshot.RoundTrip
import PipelineEditor.Proofs.Snapshot.Payload
import PipelineEditor.Proofs.Json.Text
import PipelineEditor.Proofs.Export

/-! The payload text of a snapshot reloads as the editor it was taken of, within the reader's reach. -/

namespace PipelineEditor

namespace Editor

/-- The payload text of a snapshot is read back as the snapshot when its transform is finite, its
free-form values are canonical and its numbers and nesting are within the reader's reach. -/
theorem readSnapshot_compact {s : Snapshot} (finite : s.transform.IsFinite)
    (canonical : s.ValuesCanonical) (reads : s.toJson.ReadsBack) :
    readSnapshot (Json.compact s.toJson) = .ok s := by
  simp only [readSnapshot, Json.parse_compact reads, Snapshot.ofJson?_toJson s finite canonical]

/-- On any editor, loading the payload text of the snapshot of an editor whose state is sound
succeeds and gives an editor with the same snapshot, whose selection holds the same names in
ascending order. -/
theorem snapshot_text_round_trip (E G : Editor) (sound : G.LoadSound)
    (finite : G.transform.IsFinite) (canonical : G.snapshot.ValuesCanonical)
    (reads : G.snapshot.toJson.ReadsBack) :
    ∃ E', (loadSnapshotText (Json.compact G.snapshot.toJson)).run E = .ok () E' ∧
      E'.snapshot = G.snapshot ∧ E'.selection.names.Pairwise (· < ·) ∧
      ∀ k, k ∈ E'.selection.names ↔ k ∈ G.selection.names := by
  obtain ⟨E', staged, same, ascending, names⟩ := stageSnapshot_snapshot E G sound
  refine ⟨E', ?_, same, ascending, names⟩
  have read := readSnapshot_compact (s := G.snapshot) finite canonical reads
  rw [loadSnapshotText_run, read]
  show (loadSnapshot G.snapshot).run E = .ok () E'
  rw [loadSnapshot_run, staged]

/-- The reader feeding the custom step, the step moved and selected, and the view panned and
zoomed. -/
def pannedReaderRun : List Action :=
  readerRun ++ [.move "step" ⟨12.5, 40⟩, .select "step" false, .setTransform ⟨12.5, -3, 2⟩]

theorem snapshot_text_round_trip_reader :
    let G := replay pannedReaderRun (ofCatalog readerCatalog)
    G.LoadSound ∧ G.transform.IsFinite ∧ G.snapshot.ValuesCanonical ∧ G.snapshot.toJson.ReadsBack ∧
      ∃ E', (loadSnapshotText (Json.compact G.snapshot.toJson)).run (ofCatalog Catalog.empty) =
          .ok () E' ∧
        E'.snapshot = G.snapshot ∧ E'.selection.names.Pairwise (· < ·) ∧
        ∀ k, k ∈ E'.selection.names ↔ k ∈ G.selection.names := by
  intro G
  have sound : G.LoadSound :=
    ((invariant_ofCatalog readerCatalog).replay (by decide) pannedReaderRun (by decide)).1.loadSound
  have finite : G.transform.IsFinite := by decide +kernel
  have plain : (G.snapshot.structures.all fun e => e.2.parameter.isEmpty) &&
      (G.snapshot.configs.all fun e => e.2.entries.isEmpty) = true := by decide +kernel
  have canonical : G.snapshot.ValuesCanonical := by
    simp only [Bool.and_eq_true, List.all_eq_true, List.isEmpty_iff, decide_eq_true_eq] at plain
    refine ⟨fun e listed p param => ?_, fun e listed v value => ?_⟩
    · simp [plain.1 e listed] at param
    · simp [Table.values, plain.2 e listed] at value
  have reads : G.snapshot.toJson.ReadsBack := by decide +kernel
  exact ⟨sound, finite, canonical, reads,
    snapshot_text_round_trip (ofCatalog Catalog.empty) G sound finite canonical reads⟩

/-- An editor whose view is panned by a number that is not one. -/
def nanViewEditor : Editor := (setTransform ⟨0 / 0, 0, 1⟩).after (ofCatalog Catalog.empty)

/-- A node placed at x = 224.21 and cloned: the clone sits 200 to the right, at the double whose
shortest text is 424.21000000000004. -/
def driftedCloneEditor : Editor :=
  replay [.create "pkg.R" ⟨224.21, 0⟩ none, .clone "R1"] (ofCatalog classRCatalog)

/-- Two reachable editors whose snapshot text does not reload as their snapshot. The text of a
view panned by NaN is refused and the load changes nothing; the text of the cloned node's
position reads back as the nearby double 424.21, so the reloaded snapshot differs. -/
theorem snapshot_text_round_trip_fails :
    (∃ err, (loadSnapshotText (Json.compact nanViewEditor.snapshot.toJson)).run nanViewEditor =
      .error err nanViewEditor) ∧
    ∃ E', (loadSnapshotText (Json.compact driftedCloneEditor.snapshot.toJson)).run
        (ofCatalog Catalog.empty) = .ok () E' ∧ E'.snapshot ≠ driftedCloneEditor.snapshot := by
  have refused : (readSnapshot (Json.compact nanViewEditor.snapshot.toJson)).toBool = false := by
    decide +kernel
  have written : driftedCloneEditor.snapshot.nodes.map (·.2.position.x) =
      [224.21, 424.21000000000004] := by decide +kernel
  have reloaded : ((loadSnapshotText (Json.compact driftedCloneEditor.snapshot.toJson)).toExcept
      (ofCatalog Catalog.empty)).toOption.map (fun r => r.2.snapshot.nodes.map (·.2.position.x)) =
      some [224.21, 424.21] := by decide +kernel
  have differ : ([224.21, 424.21] : List Float) ≠ [224.21, 424.21000000000004] := by decide +kernel
  constructor
  · rw [loadSnapshotText_run]
    cases read : readSnapshot (Json.compact nanViewEditor.snapshot.toJson) with
    | error err => exact ⟨err, rfl⟩
    | ok s =>
      rw [read] at refused
      cases refused
  · generalize loaded : (loadSnapshotText (Json.compact driftedCloneEditor.snapshot.toJson)).run
        (ofCatalog Catalog.empty) = result
    rw [Edit.toExcept, loaded] at reloaded
    cases result with
    | error err E' => simp [Except.toOption] at reloaded
    | ok u E' =>
      refine ⟨E', rfl, fun same => ?_⟩
      simp only [Except.toOption, Option.map_some, Option.some.injEq, same, written] at reloaded
      exact differ reloaded.symm

end Editor

end PipelineEditor
