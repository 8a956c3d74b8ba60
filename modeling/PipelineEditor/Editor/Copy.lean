import PipelineEditor.Editor.Connect
import PipelineEditor.Editor.Commands

/-!
Cloning, copying and renaming nodes.

A clone is a new node of the same package, named from the package's base name, placed 200 to the
right and 200 down, with the cloned node's parameters; it has no edges. Copying a set of nodes
clones each (named from the cloned node's own name), joins the clones as the copied nodes were
joined among themselves, and selects the clones. Renaming moves a node's position, parameters and edges
to the new name and selects it.
-/

namespace PipelineEditor

namespace Editor

/-- How far a clone is placed from the node it copies, on both axes. -/
def cloneOffset : Float := 200

/-- Creates a node named `name` like `model` at `position`, with the parameters of `model`. -/
def cloneAs (model : Node) (name : String) (position : Position) : Edit Node := do
  let n ← create model.package position (some name)
  let e ← get
  let s ← liftExcept (e.catalog.structure? model.package)
  set { e with params := (e.params.cloneConfig? model.name s n.name).getD e.params }
  pure n

/-- A refused clone changes nothing: the node is created last of its checks, and its package,
checked again afterwards, is the one just found. -/
theorem cloneAs_run_eq_error {e e' : Editor} {model : Node} {name : String} {position : Position}
    {err : EditorError} (h : (cloneAs model name position).run e = .error err e') : e' = e := by
  simp only [cloneAs, EStateM.run_bind] at h
  rcases hc : (create model.package position (some name)).run e with ⟨n, e₁⟩ | ⟨err', e₁⟩ <;>
    simp only [hc] at h
  · obtain ⟨s, hs, -, -, -, -, rfl⟩ := create_run_eq_ok hc
    simp [EStateM.run_get, Catalog.structure?_eq_ok.mpr hs] at h
  · cases h
    exact create_run_eq_error hc

/-- A clone that succeeds is a new node of the model's package under the given valid free name,
with the model's config when the model has one. -/
theorem cloneAs_run_eq_ok {e e' : Editor} {model n : Node} {name : String} {position : Position}
    (h : (cloneAs model name position).run e = .ok n e') :
    ∃ s, e.catalog.get? model.package = some s ∧ position.isFinite = true ∧
      isValidNodeName name = true ∧ e.graph.contains name = false ∧
      n = { name := name, package := model.package, position := position } ∧
      e' = { e with
        graph := { e.graph with nodes := e.graph.nodes.insert name n }
        params := ((e.params.initNode name s).cloneConfig? model.name s name).getD
          (e.params.initNode name s) } := by
  simp only [cloneAs, EStateM.run_bind] at h
  rcases hc : (create model.package position (some name)).run e with ⟨n₁, e₁⟩ | ⟨err', e₁⟩ <;>
    simp only [hc, reduceCtorEq] at h
  obtain ⟨s, hs, hfin, hname, hfresh, hn, rfl⟩ := create_run_eq_ok hc
  obtain ⟨hvalid, -, hnm⟩ := newNodeName_some_eq_ok.mp hname
  simp only [EStateM.run_get, Edit.run_liftExcept, Catalog.structure?_eq_ok.mpr hs, EStateM.run_set,
    EStateM.run_pure, EStateM.Result.ok.injEq] at h
  obtain ⟨rfl, rfl⟩ := h
  rw [hnm] at hfresh hn ⊢
  exact ⟨s, hs, hfin, hvalid, hfresh, hn, rfl⟩

/-- Clones a node under the next free name from its package's base name. -/
def clone (name : String) : Edit Node := do
  let e ← get
  let model ← liftExcept (e.existingNode name)
  let s ← liftExcept (e.catalog.structure? model.package)
  cloneAs model (e.nextNodeName s.baseName) (model.position.offset cloneOffset cloneOffset)

/-- A refused clone changes nothing. -/
theorem clone_run_eq_error {e e' : Editor} {name : String} {err : EditorError}
    (h : (clone name).run e = .error err e') : e' = e := by
  simp only [clone, EStateM.run_bind, EStateM.run_get, Edit.run_liftExcept] at h
  rcases hm : e.existingNode name with _ | model <;> simp only [hm] at h
  · cases h; rfl
  rcases hs : e.catalog.structure? model.package with _ | s <;> simp only [hs] at h
  · cases h; rfl
  exact cloneAs_run_eq_error h

theorem clone_run_eq_ok {e e' : Editor} {name : String} {n : Node}
    (h : (clone name).run e = .ok n e') :
    ∃ model s, e.node? name = some model ∧ e.catalog.get? model.package = some s ∧
      (cloneAs model (e.nextNodeName s.baseName) (model.position.offset cloneOffset cloneOffset)).run e =
        .ok n e' := by
  simp only [clone, EStateM.run_bind, EStateM.run_get, Edit.run_liftExcept] at h
  rcases hm : e.existingNode name with _ | model <;> simp only [hm, reduceCtorEq] at h
  rcases hs : e.catalog.structure? model.package with _ | s <;> simp only [hs, reduceCtorEq] at h
  exact ⟨model, s, existingNode_eq_ok.mp hm, Catalog.structure?_eq_ok.mp hs, h⟩

/-- The distinct nodes of a list of names, in first-seen order, each checked to exist and to have
a known package. -/
def copiedNodes (e : Editor) (names : List String) : Except EditorError (List Node) :=
  names.foldlM (fun acc name => do
    let n ← e.existingNode name
    let _ ← e.catalog.structure? n.package
    pure (if acc.any (·.name == n.name) then acc else acc ++ [n])) []

/-- Each copied node is a present node of a known package, and no two share a name. -/
theorem copiedNodes_eq_ok {e : Editor} {names : List String} {models : List Node}
    (h : e.copiedNodes names = .ok models) :
    (∀ m ∈ models, (∃ k, e.node? k = some m) ∧ (e.catalog.get? m.package).isSome) ∧
      (models.map Node.name).Nodup := by
  unfold copiedNodes at h
  -- the nodes gathered so far keep both properties at each name
  suffices ∀ (names : List String) (acc : List Node),
      (∀ m ∈ acc, (∃ k, e.node? k = some m) ∧ (e.catalog.get? m.package).isSome) →
      (acc.map Node.name).Nodup →
      names.foldlM (fun acc name => do
        let n ← e.existingNode name
        let _ ← e.catalog.structure? n.package
        pure (if acc.any (·.name == n.name) then acc else acc ++ [n])) acc = .ok models →
      (∀ m ∈ models, (∃ k, e.node? k = some m) ∧ (e.catalog.get? m.package).isSome) ∧
        (models.map Node.name).Nodup from this names [] (by simp) List.nodup_nil h
  intro names
  induction names with
  | nil =>
    intro acc hacc hnodup h
    simp only [List.foldlM_nil, pure, Except.pure, Except.ok.injEq] at h
    exact h ▸ ⟨hacc, hnodup⟩
  | cons name rest ih =>
    intro acc hacc hnodup h
    simp only [List.foldlM_cons, bind, Except.bind] at h
    rcases hn : e.existingNode name with _ | n <;> simp only [hn, reduceCtorEq] at h
    rcases hs : e.catalog.structure? n.package with _ | s <;> simp only [hs, reduceCtorEq] at h
    refine ih _ ?_ ?_ h
    · split
      · exact hacc
      · intro m hm
        rcases List.mem_append.mp hm with hm | hm
        · exact hacc m hm
        · rw [List.mem_singleton.mp hm]
          exact ⟨⟨name, existingNode_eq_ok.mp hn⟩, by simp [Catalog.structure?_eq_ok.mp hs]⟩
    · split
      · exact hnodup
      · rename_i hnew
        simp only [List.map_append, List.map_cons, List.map_nil]
        refine List.nodup_append.mpr ⟨hnodup, by simp, ?_⟩
        intro a ha b hb hab
        rw [List.mem_singleton.mp hb] at hab
        obtain ⟨m, hm, rfl⟩ := List.mem_map.mp ha
        exact hnew (List.any_eq_true.mpr ⟨m, hm, by simp [hab]⟩)

/-- Clones each node under the next free name from its own name, each clone named against the
editor the clones before it left. -/
def cloneEach : List Node → Edit (List (String × Node))
  | [] => pure []
  | model :: rest => do
    let e ← get
    let n ← cloneAs model (e.nextNodeName model.name)
      (model.position.offset cloneOffset cloneOffset)
    let more ← cloneEach rest
    pure ((model.name, n) :: more)

theorem cloneEach_cons_run (model : Node) (rest : List Node) (e : Editor) :
    (cloneEach (model :: rest)).run e =
      match (cloneAs model (e.nextNodeName model.name)
          (model.position.offset cloneOffset cloneOffset)).run e with
      | .ok n e₁ =>
        match (cloneEach rest).run e₁ with
        | .ok more e₂ => .ok ((model.name, n) :: more) e₂
        | .error err e₂ => .error err e₂
      | .error err e₁ => .error err e₁ := by
  simp only [cloneEach, EStateM.run_bind, EStateM.run_get]
  rcases (cloneAs model _ _).run e with ⟨n, e₁⟩ | ⟨err, e₁⟩
  · simp only
    rcases (cloneEach rest).run e₁ with ⟨more, e₂⟩ | ⟨err, e₂⟩ <;> rfl
  · rfl

theorem cloneEach_cons_after (model : Node) (rest : List Node) (e : Editor) :
    (cloneEach (model :: rest)).after e =
      match (cloneAs model (e.nextNodeName model.name)
          (model.position.offset cloneOffset cloneOffset)).run e with
      | .ok _ e₁ => (cloneEach rest).after e₁
      | .error _ e₁ => e₁ := by
  unfold Edit.after
  rw [cloneEach_cons_run]
  rcases (cloneAs model _ _).run e with ⟨n, e₁⟩ | ⟨err, e₁⟩
  · simp only
    rcases (cloneEach rest).run e₁ with ⟨more, e₂⟩ | ⟨err, e₂⟩ <;> rfl
  · rfl

/-- A property that every clone of one of `models` keeps holds after cloning them one by one,
whether the cloning ends or stops: a refused clone changes nothing. -/
theorem cloneEach_after_induction {motive : Editor → Prop} (models : List Node)
    (step : ∀ {e e' : Editor} {model n : Node} {name : String} {position : Position},
      model ∈ models → motive e → (cloneAs model name position).run e = .ok n e' → motive e')
    {e : Editor} (h : motive e) : motive ((cloneEach models).after e) := by
  induction models generalizing e with
  | nil => exact h
  | cons model rest ih =>
    rw [cloneEach_cons_after]
    rcases hrun : (cloneAs model (e.nextNodeName model.name)
        (model.position.offset cloneOffset cloneOffset)).run e with ⟨_, e₁⟩ | ⟨_, e₁⟩
    · exact ih (fun hm => step (List.mem_cons_of_mem _ hm)) (step List.mem_cons_self h hrun)
    · rw [cloneAs_run_eq_error hrun]
      exact h

/-- Adds edges one by one; the edges added stay when a later one is refused. -/
def addEdges : List Edge → Edit Unit
  | [] => pure ()
  | edge :: rest => do
    let e ← get
    let (_, graph) ← liftExcept (e.graph.addEdge edge)
    set { e with graph }
    addEdges rest

theorem addEdges_cons_run (edge : Edge) (rest : List Edge) (e : Editor) :
    (addEdges (edge :: rest)).run e =
      match e.graph.addEdge edge with
      | .ok (_, graph) => (addEdges rest).run { e with graph }
      | .error err => .error err e := by
  simp only [addEdges, EStateM.run_bind, EStateM.run_get, Edit.run_liftExcept]
  cases e.graph.addEdge edge <;> rfl

theorem addEdges_cons_after (edge : Edge) (rest : List Edge) (e : Editor) :
    (addEdges (edge :: rest)).after e =
      match e.graph.addEdge edge with
      | .ok (_, graph) => (addEdges rest).after { e with graph }
      | .error _ => e := by
  unfold Edit.after
  rw [addEdges_cons_run]
  rcases e.graph.addEdge edge with _ | ⟨_, _⟩ <;> rfl

/-- The edges among copied nodes, moved onto their clones. -/
def cloneEdges (pairs : List (String × Node)) (edges : List Edge) : List Edge :=
  let cloneOf := fun (name : String) => (pairs.lookup name).map (·.name)
  edges.filterMap fun edge =>
    match cloneOf edge.fromNode, cloneOf edge.toNode with
    | some a, some b => some { edge with fromNode := a, toNode := b }
    | _, _ => none

/-- Copies nodes: clones them, joins the clones as the copied nodes were joined among themselves,
and makes the clones the selection. -/
def copy (names : List String) : Edit (List Node) := do
  let copied ← liftExcept ((← get).copiedNodes names)
  let pairs ← cloneEach copied
  addEdges (cloneEdges pairs (← get).graph.edges)
  let clones : List Node := pairs.map Prod.snd
  modify fun e =>
    ({ e with selection := e.selection.replace (clones.map Node.ref) }).syncSelectedFlags
  let e ← get
  pure (clones.filterMap fun n => e.node? n.name)

/-- Copying checks the names, clones the nodes, joins the clones and selects them; a refusal
while cloning or joining stops it where it stands. -/
theorem copy_run (names : List String) (e : Editor) :
    (copy names).run e =
      match e.copiedNodes names with
      | .error err => .error err e
      | .ok copied =>
        match (cloneEach copied).run e with
        | .error err e₁ => .error err e₁
        | .ok pairs e₁ =>
          match (addEdges (cloneEdges pairs e₁.graph.edges)).run e₁ with
          | .error err e₂ => .error err e₂
          | .ok _ e₂ =>
            .ok ((pairs.map Prod.snd).filterMap fun n =>
                (({ e₂ with selection := e₂.selection.replace ((pairs.map Prod.snd).map Node.ref) }).syncSelectedFlags).node? n.name)
              ({ e₂ with selection := e₂.selection.replace ((pairs.map Prod.snd).map Node.ref) }).syncSelectedFlags := by
  simp only [copy, EStateM.run_bind, EStateM.run_get, Edit.run_liftExcept]
  rcases e.copiedNodes names with err | copied
  · rfl
  · simp only
    rcases (cloneEach copied).run e with ⟨pairs, e₁⟩ | ⟨err, e₁⟩
    · simp only
      rcases (addEdges _).run e₁ with ⟨_, e₂⟩ | ⟨err, e₂⟩ <;> rfl
    · rfl

/-- A property holds after a copy when it holds before and each stage keeps it: cloning the
gathered nodes, adding the clones' edges once the cloning has ended, and selecting the clones once
the edges are in. A refused stage leaves the editor as the stage before it left it. -/
theorem copy_after_induction {motive : Editor → Prop} {names : List String} {e : Editor}
    (h : motive e)
    (clone : ∀ models, e.copiedNodes names = .ok models → motive ((cloneEach models).after e))
    (join : ∀ models pairs e₁, e.copiedNodes names = .ok models →
      (cloneEach models).run e = .ok pairs e₁ → motive e₁ →
      motive ((addEdges (cloneEdges pairs e₁.graph.edges)).after e₁))
    (select : ∀ models pairs e₁ e₂, e.copiedNodes names = .ok models →
      (cloneEach models).run e = .ok pairs e₁ →
      (addEdges (cloneEdges pairs e₁.graph.edges)).run e₁ = .ok () e₂ → motive e₂ →
      motive ({ e₂ with
        selection := e₂.selection.replace ((pairs.map Prod.snd).map Node.ref) }).syncSelectedFlags) :
    motive ((copy names).after e) := by
  unfold Edit.after
  rw [copy_run]
  rcases hcopied : e.copiedNodes names with _ | models
  · exact h
  have hclone := clone models hcopied
  simp only
  rcases hrun : (cloneEach models).run e with ⟨pairs, e₁⟩ | ⟨_, e₁⟩
  · rw [Edit.after_of_run_ok hrun] at hclone
    have hjoin := join models pairs e₁ hcopied hrun hclone
    simp only
    rcases hrun₂ : (addEdges (cloneEdges pairs e₁.graph.edges)).run e₁ with ⟨⟨⟩, e₂⟩ | ⟨_, e₂⟩
    · rw [Edit.after_of_run_ok hrun₂] at hjoin
      exact select models pairs e₁ e₂ hcopied hrun hrun₂ hjoin
    · rwa [Edit.after_of_run_error hrun₂] at hjoin
  · rwa [Edit.after_of_run_error hrun] at hclone

/-- Renames a node: the new name must be valid and free, the old one must exist. The node keeps
its position, parameters and edges, and becomes the only selected node. -/
def rename (old new : String) : Edit Node := do
  if !isValidNodeName new then throw (.invalidName new)
  let e ← get
  if e.graph.contains new then throw (.duplicateName new)
  let current ← liftExcept (e.existingNode old)
  let s ← liftExcept (e.catalog.structure? current.package)
  let edges := (e.graph.incidentEdges old).map (·.renamed old new)
  let renamed : Node := { name := new, package := current.package, position := current.position }
  let graph ← liftExcept (e.graph.addNode renamed)
  let params := (e.params.cloneConfig? old s new).getD (e.params.initNode new s)
  let graph := match graph.removeNode old with
    | some (_, _, g) => g
    | none => graph
  set { e with
    graph := graph
    params := params.removeConfig old
    selection := e.selection.forget old }
  addEdges edges
  modify fun e => ({ e with selection := e.selection.select renamed.ref false }).syncSelectedFlags
  pure (((← get).node? new).getD renamed)

/-- A rename that passes its checks moves the node to the new name with its config and drops the
old name everywhere, then adds the old node's edges under the new name and selects the node alone;
when an edge is refused it stops there. -/
theorem rename_run_of_checks {e : Editor} {old new : String} {current : Node} {s : NodeStructure}
    (hvalid : isValidNodeName new = true) (hfree : e.graph.contains new = false)
    (hcur : e.node? old = some current) (hs : e.catalog.get? current.package = some s) :
    (rename old new).run e =
      match (addEdges ((e.graph.incidentEdges old).map (·.renamed old new))).run
        { e with
          graph := ⟨(e.graph.nodes.insert new ⟨new, current.package, current.position, false⟩).erase old,
            e.graph.edges.filter fun b => !(b.fromNode == old || b.toNode == old)⟩
          params := ((e.params.cloneConfig? old s new).getD (e.params.initNode new s)).removeConfig old
          selection := e.selection.forget old } with
      | .ok _ e₂ =>
        .ok ((({ e₂ with selection := e₂.selection.select ⟨new, current.package⟩ false }).syncSelectedFlags.node?
          new).getD ⟨new, current.package, current.position, false⟩)
          ({ e₂ with selection := e₂.selection.select ⟨new, current.package⟩ false }).syncSelectedFlags
      | .error err e₂ => .error err e₂ := by
  have hold : old ≠ new := by
    rintro rfl
    simp_all
  have hadd : e.graph.addNode ⟨new, current.package, current.position, false⟩ =
      .ok { e.graph with nodes := e.graph.nodes.insert new ⟨new, current.package, current.position, false⟩ } :=
    Graph.addNode_eq_ok.mpr ⟨hfree, rfl⟩
  have hremove : Graph.removeNode
      { e.graph with nodes := e.graph.nodes.insert new ⟨new, current.package, current.position, false⟩ } old =
      some (current, _, ⟨(e.graph.nodes.insert new ⟨new, current.package, current.position, false⟩).erase old,
        e.graph.edges.filter fun b => !(b.fromNode == old || b.toNode == old)⟩) :=
    Graph.removeNode_eq_some.mpr ⟨by simpa [hold] using hcur, rfl, rfl⟩
  simp only [rename, hvalid, Bool.not_true, Bool.false_eq_true, if_false, EStateM.run_bind,
    EStateM.run_get, hfree, Edit.run_liftExcept, existingNode_eq_ok.mpr hcur,
    Catalog.structure?_eq_ok.mpr hs]
  simp only [hadd, hremove, EStateM.run_set, EStateM.run_modify, EStateM.run_pure]
  generalize EStateM.run (addEdges _) _ = r
  cases r <;> rfl

/-- A rename refused by its checks changes nothing. -/
theorem rename_run_of_not_checks {e : Editor} {old new : String}
    (h : ¬ (isValidNodeName new = true ∧ e.graph.contains new = false ∧
      ∃ current s, e.node? old = some current ∧ e.catalog.get? current.package = some s)) :
    ∃ err, (rename old new).run e = .error err e := by
  simp only [rename]
  by_cases hv : isValidNodeName new = true
  · by_cases hc : e.graph.contains new = false
    · cases hcur : e.existingNode old with
      | error err => exact ⟨err, by simp_all⟩
      | ok current =>
        cases hs : e.catalog.structure? current.package with
        | error err => exact ⟨err, by simp_all⟩
        | ok s =>
          exact absurd ⟨hv, hc, current, s, existingNode_eq_ok.mp hcur,
            Catalog.structure?_eq_ok.mp hs⟩ h
    · simp only [Graph.contains_eq_isSome, Bool.not_eq_false] at hc
      exact ⟨.duplicateName new, by simp [hv, hc]⟩
  · exact ⟨.invalidName new, by simp [hv]⟩

/-- Renames the only selected node. -/
def renameSelected (new : String) : Edit Node := do
  let r ← liftExcept (← get).selection.single
  rename r.name new

theorem renameSelected_run (new : String) (e : Editor) :
    (renameSelected new).run e =
      match e.selection.single with
      | .ok r => (rename r.name new).run e
      | .error err => .error err e := by
  simp only [renameSelected, EStateM.run_bind, EStateM.run_get, Edit.run_liftExcept]
  cases e.selection.single <;> rfl

/-- A property that every rename keeps holds after renaming the selected node: without a single
selected node nothing changes. -/
theorem renameSelected_after_induction {motive : Editor → Prop} {new : String} {e : Editor}
    (h : motive e) (rename : ∀ r, e.selection.single = .ok r → motive ((rename r.name new).after e)) :
    motive ((renameSelected new).after e) := by
  unfold Edit.after
  rw [renameSelected_run]
  rcases hsingle : e.selection.single with _ | r
  · exact h
  · exact rename r hsingle

end Editor

end PipelineEditor
