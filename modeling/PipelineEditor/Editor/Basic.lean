import PipelineEditor.Catalog.Basic
import PipelineEditor.Graph.Basic
import PipelineEditor.Params.Store
import PipelineEditor.Editor.Selection
import PipelineEditor.View.Transform

/-!
The editor: a catalog, the pipeline graph, the parameter store, the selection and the view.

A command runs on the editor: it changes it step by step and may stop with an `EditorError`, and
the editor stays as the command left it, also when it stops. Most commands make every check before
their first change, so that a refused command changes nothing; which commands keep that rule in
which editors is a theorem, not a convention. This module holds the editor itself, the naming of
new nodes and the creation of a node; the other commands are in the modules beside it.
-/

namespace PipelineEditor

/-- The state of the pipeline editor. -/
structure Editor where
  catalog : Catalog
  graph : Graph
  params : ParamStore
  selection : Selection
  transform : ViewTransform
  deriving Inhabited

/-- A command of the editor answering `α`: it may change the editor and may stop with an error,
leaving the editor as it stands at that point. -/
abbrev Edit (α : Type) := EStateM EditorError Editor α

theorem Except.bind_eq_ok {ε α β : Type} (x : Except ε α) (f : α → Except ε β) (b : β) :
    (x >>= f) = .ok b ↔ ∃ a, x = .ok a ∧ f a = .ok b := by
  cases x <;> simp [bind, Except.bind]

namespace Edit

variable {α : Type}

/-- Runs a command on a staged editor: its answer and the editor it leaves, or its error (the
staged editor is then dropped). -/
def toExcept (c : Edit α) (e : Editor) : Except EditorError (α × Editor) :=
  match c.run e with
  | .ok a e' => .ok (a, e')
  | .error err _ => .error err

/-- The editor a command leaves, whether it answered or stopped. -/
def after (c : Edit α) (e : Editor) : Editor :=
  match c.run e with
  | .ok _ e' => e'
  | .error _ e' => e'

@[simp] theorem run_liftExcept (r : Except EditorError α) (e : Editor) :
    (liftExcept r : Edit α).run e =
      match r with
      | .ok a => .ok a e
      | .error err => .error err e := by
  cases r <;> rfl

@[simp] theorem run_throw (err : EditorError) (e : Editor) :
    (throw err : Edit α).run e = .error err e := rfl

@[simp] theorem run_map {β : Type} (f : α → β) (c : Edit α) (e : Editor) :
    (f <$> c).run e =
      match c.run e with
      | .ok a e' => .ok (f a) e'
      | .error err e' => .error err e' := by
  show EStateM.map f c e = _
  unfold EStateM.map EStateM.run
  cases c e <;> rfl

theorem after_of_run_ok {c : Edit α} {e e' : Editor} {a : α} (h : c.run e = .ok a e') :
    c.after e = e' := by
  simp [after, h]

theorem after_of_run_error {c : Edit α} {e e' : Editor} {err : EditorError}
    (h : c.run e = .error err e') : c.after e = e' := by
  simp [after, h]

theorem toExcept_eq_ok {c : Edit α} {e e' : Editor} {a : α} :
    c.toExcept e = .ok (a, e') ↔ c.run e = .ok a e' := by
  unfold toExcept
  cases c.run e <;> simp

/-- A property of the editor a command leaves follows from the property after each outcome. -/
theorem after_induction {P : Editor → Prop} {c : Edit α} {e : Editor}
    (ok : ∀ a e', c.run e = .ok a e' → P e') (error : ∀ err e', c.run e = .error err e' → P e') :
    P (c.after e) := by
  unfold after
  split
  · exact ok _ _ ‹_›
  · exact error _ _ ‹_›

/-- A property holds after a command that keeps it when it answers and changes nothing when it is
refused. -/
theorem after_of_ok {P : Editor → Prop} {c : Edit α} {e : Editor} (h : P e)
    (ok : ∀ a e', c.run e = .ok a e' → P e') (error : ∀ err e', c.run e = .error err e' → e' = e) :
    P (c.after e) :=
  after_induction ok fun err e' hrun => by
    rw [error err e' hrun]
    exact h

end Edit

namespace Editor

/-- An editor with a catalog and nothing else. -/
def ofCatalog (catalog : Catalog) : Editor :=
  ⟨catalog, Graph.empty, ParamStore.empty, Selection.empty, ViewTransform.identity⟩

/-- The node of a name. -/
def node? (e : Editor) (name : String) : Option Node := e.graph.node? name

@[simp] theorem node?_def (e : Editor) (name : String) : e.node? name = e.graph.nodes.get? name :=
  rfl

/-- The node of a name, or the refusal to use an unknown one. -/
def existingNode (e : Editor) (name : String) : Except EditorError Node :=
  match e.graph.node? name with
  | some n => .ok n
  | none => .error (.unknownNode name)

/-- The first of `base1`, `base2`, ... among `candidates` more that no node is named. -/
def freeName (g : Graph) (base : String) : Nat → Nat → String
  | 0, n => base ++ toString n
  | fuel + 1, n => if g.contains (base ++ toString n) then freeName g base fuel (n + 1)
    else base ++ toString n

/-- The first name `base1`, `base2`, ... that no node has. -/
def nextNodeName (e : Editor) (base : String) : String :=
  freeName e.graph base e.graph.nodeCount 1

/-- Marks exactly the selected nodes as selected. -/
def syncSelectedFlags (e : Editor) : Editor :=
  { e with graph := { e.graph with
      nodes := e.graph.nodes.map fun n => { n with selected := e.selection.contains n.name } } }

/-- Refuses a position that is not finite. -/
def ensureFinite (p : Position) : Except EditorError Unit :=
  if p.isFinite then .ok () else .error (.invalidPosition p.x p.y)

/-- The name a new node gets: the given one if it is valid and free, else the next free name from
`base`. -/
def newNodeName (e : Editor) (base : String) : Option String → Except EditorError String
  | some name =>
    if !isValidNodeName name then .error (.invalidName name)
    else if e.graph.contains name then .error (.duplicateName name)
    else .ok name
  | none => .ok (e.nextNodeName base)

/-- Creates a node of a package at a position, with the given name or the next free name from
the package's base name, and gives it its starting parameters. The package is checked first,
then the position, then the given name (valid, then free). -/
def create (package : String) (position : Position) (name? : Option String) : Edit Node := do
  let e ← get
  let s ← liftExcept (e.catalog.structure? package)
  liftExcept (ensureFinite position)
  let name ← liftExcept (e.newNodeName s.baseName name?)
  let n : Node := { name, package, position }
  let graph ← liftExcept (e.graph.addNode n)
  set { e with graph, params := e.params.initNode name s }
  pure n

theorem existingNode_eq_ok {e : Editor} {name : String} {n : Node} :
    e.existingNode name = .ok n ↔ e.node? name = some n := by
  unfold existingNode node?
  cases e.graph.node? name <;> simp

theorem ensureFinite_eq_ok {p : Position} {u : Unit} : ensureFinite p = .ok u ↔ p.isFinite = true := by
  unfold ensureFinite
  split <;> simp_all

/-- A free name is the base followed by a number. -/
theorem freeName_eq (g : Graph) (base : String) :
    ∀ fuel n, ∃ i : Nat, freeName g base fuel n = base ++ toString i
  | 0, n => ⟨n, rfl⟩
  | fuel + 1, n => by
    simp only [freeName]
    split
    · exact freeName_eq g base fuel (n + 1)
    · exact ⟨n, rfl⟩

/-- A number is written in digits, so it adds no `$` to a name. -/
theorem dollar_not_mem_append_toString {base : String} (hbase : '$' ∉ base.toList) (i : Nat) :
    '$' ∉ (base ++ toString i).toList := by
  intro h
  simp only [String.toList_append, List.mem_append, Nat.toString_eq_repr, Nat.toList_repr] at h
  rcases h with h | h
  · exact hbase h
  · have := Nat.isDigit_of_mem_toDigits (by decide) (by decide) h
    exact absurd this (by decide)

/-- A base name without `$` followed by a number is a valid node name. -/
theorem isValidNodeName_append_toString {base : String} (hbase : '$' ∉ base.toList) (i : Nat) :
    isValidNodeName (base ++ toString i) = true := by
  rw [isValidNodeName_iff]
  refine ⟨fun h => ?_, dollar_not_mem_append_toString hbase i⟩
  have hlen := congrArg String.length h
  have hpos := Nat.length_repr_pos (n := i)
  simp only [String.length_append, Nat.toString_eq_repr, String.length_empty] at hlen
  omega

theorem isValidNodeName_nextNodeName (e : Editor) {base : String} (hbase : '$' ∉ base.toList) :
    isValidNodeName (e.nextNodeName base) = true := by
  obtain ⟨i, hi⟩ := freeName_eq e.graph base e.graph.nodeCount 1
  rw [nextNodeName, hi]
  exact isValidNodeName_append_toString hbase i

theorem newNodeName_some_eq_ok {e : Editor} {base name r : String} :
    e.newNodeName base (some name) = .ok r ↔
      isValidNodeName name = true ∧ e.graph.contains name = false ∧ r = name := by
  unfold newNodeName
  by_cases hv : isValidNodeName name = true <;> by_cases hc : (e.graph.nodes.get? name).isSome = true <;>
    simp [hv, hc, @eq_comm _ r]

theorem newNodeName_none (e : Editor) (base : String) :
    e.newNodeName base none = .ok (e.nextNodeName base) := rfl

/-- A refused creation changes nothing. -/
theorem create_run_eq_error {e e' : Editor} {package : String} {position : Position}
    {name? : Option String} {err : EditorError}
    (h : (create package position name?).run e = .error err e') : e' = e := by
  simp only [create, EStateM.run_bind, EStateM.run_get, Edit.run_liftExcept] at h
  -- each check answers from `e` itself, so every refusal leaves `e`
  rcases hs : e.catalog.structure? package with _ | s <;> simp only [hs] at h
  · cases h; rfl
  rcases hf : ensureFinite position with _ | _ <;> simp only [hf] at h
  · cases h; rfl
  rcases hn : e.newNodeName s.baseName name? with _ | name <;> simp only [hn] at h
  · cases h; rfl
  rcases hg : e.graph.addNode { name, package, position } with _ | g <;>
    simp only [hg, EStateM.run_set, EStateM.run_pure] at h
  · cases h; rfl
  · cases h

/-- A creation that succeeds adds the node, unselected, under a free name, and gives it the
starting config of its package. -/
theorem create_run_eq_ok {e e' : Editor} {package : String} {position : Position}
    {name? : Option String} {n : Node}
    (h : (create package position name?).run e = .ok n e') :
    ∃ s, e.catalog.get? package = some s ∧ position.isFinite = true ∧
      e.newNodeName s.baseName name? = .ok n.name ∧ e.graph.contains n.name = false ∧
      n = { name := n.name, package, position } ∧
      e' = { e with graph := { e.graph with nodes := e.graph.nodes.insert n.name n },
                    params := e.params.initNode n.name s } := by
  simp only [create, EStateM.run_bind, EStateM.run_get, Edit.run_liftExcept] at h
  rcases hs : e.catalog.structure? package with _ | s <;> simp only [hs, reduceCtorEq] at h
  rcases hf : ensureFinite position with _ | _ <;> simp only [hf, reduceCtorEq] at h
  rcases hn : e.newNodeName s.baseName name? with _ | name <;> simp only [hn, reduceCtorEq] at h
  rcases hg : e.graph.addNode { name, package, position } with _ | g <;>
    simp only [hg, EStateM.run_set, EStateM.run_pure, EStateM.Result.ok.injEq, reduceCtorEq] at h
  obtain ⟨rfl, rfl⟩ := h
  obtain ⟨hfree, rfl⟩ := Graph.addNode_eq_ok.mp hg
  exact ⟨s, Catalog.structure?_eq_ok.mp hs, ensureFinite_eq_ok.mp hf, hn, hfree, rfl, rfl⟩

/-- Replaces the transform. -/
def setTransform (t : ViewTransform) : Edit Unit :=
  modify fun e => { e with transform := t }

end Editor

end PipelineEditor
