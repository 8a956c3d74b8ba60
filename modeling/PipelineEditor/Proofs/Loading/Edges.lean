import PipelineEditor.Proofs.Commands.Connect
import PipelineEditor.Snapshot.Load

/-! Connecting listed edges one after another: of several into one input port, the last wins. -/

namespace PipelineEditor

/-- The edge a script link asks for. -/
def Script.Link.edge (l : Script.Link) : Edge := ⟨l.fromNode, l.fromVar, l.toNode, l.toVar⟩

namespace Editor

/-- An edge stands in a list with no later edge of the list entering its input port. -/
def LastInto (edges : List Edge) (x : Edge) : Prop :=
  ∃ before after, edges = before ++ x :: after ∧ ∀ y ∈ after, y.target ≠ x.target

@[simp] theorem not_lastInto_nil (x : Edge) : ¬ LastInto [] x := by
  rintro ⟨before, after, parts, -⟩
  cases before <;> simp at parts

theorem lastInto_cons {a x : Edge} {rest : List Edge} :
    LastInto (a :: rest) x ↔ (x = a ∧ ∀ y ∈ rest, y.target ≠ x.target) ∨ LastInto rest x := by
  constructor
  · rintro ⟨before, after, parts, unfollowed⟩
    cases before with
    | nil =>
      simp only [List.nil_append, List.cons.injEq] at parts
      obtain ⟨rfl, rfl⟩ := parts
      exact .inl ⟨rfl, unfollowed⟩
    | cons b before =>
      simp only [List.cons_append, List.cons.injEq] at parts
      exact .inr ⟨before, after, parts.2, unfollowed⟩
  · rintro (⟨rfl, unfollowed⟩ | ⟨before, after, rfl, unfollowed⟩)
    · exact ⟨[], rest, rfl, unfollowed⟩
    · exact ⟨a :: before, after, rfl, unfollowed⟩

variable {e e' : Editor}

/-- Connecting edges one after another changes only the edges. -/
theorem connectAll_eq_ok_edges {edges : List Edge} (ran : connectAll e edges = .ok e') :
    ∃ es, e' = { e with graph := { e.graph with edges := es } } := by
  induction edges generalizing e with
  | nil =>
    cases ran
    exact ⟨_, rfl⟩
  | cons edge rest ih =>
    obtain ⟨added, e₁, connected, restRan⟩ := connectAll_cons_eq_ok.mp ran
    obtain ⟨es₁, rfl⟩ := connect_ok_edges connected
    obtain ⟨es, rfl⟩ := ih restRan
    exact ⟨es, rfl⟩

/-- After connecting a list of edges, an edge is present exactly when it was present and no listed
edge enters its input port, or it is listed and no later listed edge enters its input port. -/
theorem mem_edges_of_connectAll {edges : List Edge} (ran : connectAll e edges = .ok e') (x : Edge) :
    x ∈ e'.graph.edges ↔
      (x ∈ e.graph.edges ∧ ∀ y ∈ edges, y.target ≠ x.target) ∨ LastInto edges x := by
  induction edges generalizing e with
  | nil =>
    cases ran
    simp
  | cons a rest ih =>
    obtain ⟨added, e₁, connected, restRan⟩ := connectAll_cons_eq_ok.mp ran
    have addedSelf : added = a := (connect_run_eq_ok connected).1
    subst addedSelf
    rw [ih restRan, mem_edges_of_connect_ok connected, lastInto_cons, List.forall_mem_cons]
    constructor
    · rintro (⟨⟨present, apart⟩ | rfl, unfollowed⟩ | lastIn)
      · exact .inl ⟨present, Ne.symm apart, unfollowed⟩
      · exact .inr (.inl ⟨rfl, unfollowed⟩)
      · exact .inr (.inr lastIn)
    · rintro (⟨present, apart, unfollowed⟩ | ⟨rfl, unfollowed⟩ | lastIn)
      · exact .inl ⟨.inl ⟨present, Ne.symm apart⟩, unfollowed⟩
      · exact .inl ⟨.inr rfl, unfollowed⟩
      · exact .inr lastIn

/-- Connecting a list of edges into an editor without edges leaves exactly the listed edges that
no later listed edge follows into their input port. -/
theorem mem_edges_of_connectAll_of_nil {edges : List Edge} (noEdges : e.graph.edges = [])
    (ran : connectAll e edges = .ok e') (x : Edge) : x ∈ e'.graph.edges ↔ LastInto edges x := by
  simp [mem_edges_of_connectAll ran, noEdges]

/-- Connecting a script's links connects their edges in order. -/
theorem stageLinks_eq_connectAll (e : Editor) (links : List Script.Link) :
    stageLinks e links = connectAll e (links.map Script.Link.edge) := by
  induction links generalizing e with
  | nil => rfl
  | cons l rest ih =>
    simp only [stageLinks, connectAll, List.map_cons, ih]
    rfl

end Editor

end PipelineEditor
