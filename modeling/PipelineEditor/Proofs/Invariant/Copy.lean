import PipelineEditor.Proofs.Invariant.Edges

/-! Cloning, copying and renaming keep the invariant. -/

namespace PipelineEditor

namespace Editor

/-- Two changes of one new node's entries make one. -/
theorem NewNodeParams.trans {old mid new : ParamStore} {name : String} {s : NodeStructure}
    (step₁ : NewNodeParams old mid name s) (step₂ : NewNodeParams mid new name s) :
    NewNodeParams old new name s where
  configs := by
    obtain ⟨c₁, firstConfigs, -⟩ := step₁.configs
    obtain ⟨c₂, secondConfigs, complete⟩ := step₂.configs
    refine ⟨c₂, fun k => ?_, complete⟩
    rw [secondConfigs k, firstConfigs k]
    split <;> rfl
  anyTypes := fun key => by
    rw [step₂.anyTypes, step₁.anyTypes, or_assoc, or_self]

/-- Copying a complete config to a new name gives it the entries of a new node. -/
theorem newNodeParams_cloneConfig {st st' : ParamStore} {source name : String} {s : NodeStructure}
    (h : st.cloneConfig? source s name = some st')
    (sourceComplete : ∀ c, st.configs.get? source = some c → ∀ p ∈ s.parameter, (c.get? p.name).isSome) :
    NewNodeParams st st' name s := by
  obtain ⟨c, sourceConfig, stored, anyKeys⟩ := ParamStore.cloneConfig?_eq_some h
  exact ⟨⟨c, fun k => by rw [stored, Table.get?_insert], sourceComplete c sourceConfig⟩, anyKeys⟩

/-- A clone of a present node keeps the invariant. -/
theorem Invariant.cloneAs_ok {e e' : Editor} (h : e.Invariant) {model n : Node} {k : String}
    (modelFound : e.node? k = some model) {name : String} {position : Position}
    (ran : (cloneAs model name position).run e = .ok n e') : e'.Invariant := by
  obtain ⟨s, entry, -, valid, fresh, built, rfl⟩ := cloneAs_run_eq_ok ran
  have modelNamed : e.node? model.name = some model := by rw [h.graph.name_eq modelFound]; exact modelFound
  have apart : model.name ≠ name := ne_of_node?_of_contains modelNamed fresh
  have newParams : NewNodeParams e.params (((e.params.initNode name s).cloneConfig? model.name s name).getD
      (e.params.initNode name s)) name s := by
    cases cloned : (e.params.initNode name s).cloneConfig? model.name s name with
    | none => exact newNodeParams_initNode _ _ _
    | some st' =>
      refine (newNodeParams_initNode _ _ _).trans (newNodeParams_cloneConfig cloned fun c sourceConfig p declared => ?_)
      rw [ParamStore.initNode_configs_get?, if_neg apart] at sourceConfig
      simpa [ParamStore.value?, sourceConfig] using h.params.config_complete modelNamed entry p declared
  have named : n.name = name := by rw [built]
  rw [← named] at valid fresh newParams ⊢
  exact h.withNode (by rw [built]; exact entry) valid fresh (by rw [built]) newParams

theorem Invariant.clone {e : Editor} (h : e.Invariant) (name : String) :
    ((clone name).after e).Invariant := by
  apply Edit.after_induction
  · intro n e' ran
    obtain ⟨model, s, modelFound, -, ran'⟩ := clone_run_eq_ok ran
    exact h.cloneAs_ok modelFound ran'
  · intro _ e' ran
    rw [clone_run_eq_error ran]
    exact h

/-- A clone that succeeds only adds its node. -/
theorem node?_of_cloneAs {e e' : Editor} {model n : Node} {name : String} {position : Position}
    (ran : (cloneAs model name position).run e = .ok n e') {k : String} {m : Node}
    (found : e.node? k = some m) : e'.node? k = some m := by
  obtain ⟨s, -, -, -, fresh, built, rfl⟩ := cloneAs_run_eq_ok ran
  have named : n.name = name := by rw [built]
  rw [← named] at fresh ⊢
  exact withNode_node?_of_node? fresh found

/-- Cloning present nodes one by one keeps the invariant, whether it ends or stops. -/
theorem Invariant.cloneEach {e : Editor} (h : e.Invariant) (models : List Node)
    (live : ∀ m ∈ models, ∃ k, e.node? k = some m) : ((cloneEach models).after e).Invariant := by
  -- every model stays live while the clones are added, so each clone copies a live node
  refine (cloneEach_after_induction
    (motive := fun e' => e'.Invariant ∧ ∀ m ∈ models, ∃ k, e'.node? k = some m) models
    (fun listed before ran => ⟨?_, fun m listed' => ?_⟩) ⟨h, live⟩).1
  · obtain ⟨k, found⟩ := before.2 _ listed
    exact before.1.cloneAs_ok found ran
  · obtain ⟨k, found⟩ := before.2 m listed'
    exact ⟨k, node?_of_cloneAs ran found⟩

/-- What cloning nodes one by one leaves when it ends: the old nodes, each clone under a fresh name
with its model's package, the clones' names pairwise different, and nothing else changed. -/
structure ClonedAll (e e' : Editor) (models : List Node) (pairs : List (String × Node)) : Prop where
  keeps : ∀ {k m}, e.node? k = some m → e'.node? k = some m
  catalog : e'.catalog = e.catalog
  edges : e'.graph.edges = e.graph.edges
  selection : e'.selection = e.selection
  names : pairs.map Prod.fst = models.map Node.name
  clones : ∀ p ∈ pairs, ∃ m ∈ models, p.1 = m.name ∧ p.2.package = m.package ∧
    e'.node? p.2.name = some p.2 ∧ e.graph.contains p.2.name = false
  nodup : (pairs.map fun p => p.2.name).Nodup

theorem cloneEach_run_eq_ok {e e' : Editor} {models : List Node} {pairs : List (String × Node)}
    (ran : (cloneEach models).run e = .ok pairs e') : ClonedAll e e' models pairs := by
  induction models generalizing e pairs with
  | nil =>
    cases ran
    exact ⟨id, rfl, rfl, rfl, rfl, by simp, by simp⟩
  | cons model rest ih =>
    rw [cloneEach_cons_run] at ran
    rcases cloned : (cloneAs model (e.nextNodeName model.name)
        (model.position.offset cloneOffset cloneOffset)).run e with ⟨n, e₁⟩ | ⟨err, e₁⟩ <;>
      simp only [cloned, reduceCtorEq] at ran
    rcases restRan : (cloneEach rest).run e₁ with ⟨more, e₂⟩ | ⟨err, e₂⟩ <;>
      simp only [restRan, reduceCtorEq, EStateM.Result.ok.injEq] at ran
    obtain ⟨rfl, rfl⟩ := ran
    obtain ⟨s, -, -, -, fresh, built, step₁⟩ := cloneAs_run_eq_ok cloned
    have ih' := ih restRan
    have named : n.name = e.nextNodeName model.name := by rw [built]
    have live₁ : e₁.node? n.name = some n := by rw [step₁, named]; simp
    have fresh' : e.graph.contains n.name = false := by rw [named]; exact fresh
    have grows : ∀ {k m}, e.node? k = some m → e₁.node? k = some m := node?_of_cloneAs cloned
    have stillContains : ∀ {k}, e.graph.contains k = true → e₁.graph.contains k = true := by
      intro k contained
      obtain ⟨m, found⟩ := Option.isSome_iff_exists.mp (by simpa using contained)
      simpa using congrArg Option.isSome (grows found)
    refine ⟨fun found => ih'.keeps (grows found), by rw [ih'.catalog, step₁], by rw [ih'.edges, step₁],
      by rw [ih'.selection, step₁], by simp [ih'.names], ?_, ?_⟩
    · intro p listed
      rcases List.mem_cons.mp listed with rfl | listed
      · exact ⟨model, List.mem_cons_self, rfl, by rw [built], ih'.keeps live₁, fresh'⟩
      · obtain ⟨m, inRest, sameKey, samePackage, cloneLive, wasFree⟩ := ih'.clones p listed
        refine ⟨m, List.mem_cons_of_mem _ inRest, sameKey, samePackage, cloneLive, ?_⟩
        cases wasTaken : e.graph.contains p.2.name
        · rfl
        · rw [stillContains wasTaken] at wasFree
          cases wasFree
    · refine List.nodup_cons.mpr ⟨fun listedName => ?_, ih'.nodup⟩
      obtain ⟨p, listed, sameName⟩ := List.mem_map.mp listedName
      obtain ⟨-, -, -, -, -, wasFree⟩ := ih'.clones p listed
      rw [sameName] at wasFree
      rw [node?_eq_none_of_contains wasFree] at live₁
      cases live₁

theorem mem_of_lookup_eq_some {α : Type} {l : List (String × α)} {k : String} {v : α}
    (h : l.lookup k = some v) : (k, v) ∈ l := by
  obtain ⟨l₁, l₂, rfl, -⟩ := List.lookup_eq_some_iff.mp h
  simp

/-- An edge among copied nodes is moved onto the clones of both its nodes. -/
theorem mem_cloneEdges {pairs : List (String × Node)} {edges : List Edge} {b : Edge} :
    b ∈ cloneEdges pairs edges ↔ ∃ b₀ ∈ edges, ∃ p q, pairs.lookup b₀.fromNode = some p ∧
      pairs.lookup b₀.toNode = some q ∧ b = { b₀ with fromNode := p.name, toNode := q.name } := by
  unfold cloneEdges
  rw [List.mem_filterMap]
  constructor
  · rintro ⟨b₀, original, moved⟩
    cases fromClone : pairs.lookup b₀.fromNode with
    | none => simp [fromClone] at moved
    | some p =>
      cases toClone : pairs.lookup b₀.toNode with
      | none => simp [fromClone, toClone] at moved
      | some q =>
        simp only [fromClone, toClone, Option.map_some, Option.some.injEq] at moved
        exact ⟨b₀, original, p, q, fromClone, toClone, moved.symm⟩
  · rintro ⟨b₀, original, p, q, fromClone, toClone, rfl⟩
    exact ⟨b₀, original, by simp [fromClone, toClone]⟩

section Copy

variable {e e₁ : Editor} {models : List Node} {pairs : List (String × Node)}

/-- Copied nodes named by the same clone are the same node. -/
theorem ClonedAll.eq_of_clone_name (cloned : ClonedAll e e₁ models pairs) {x y : String} {p q : Node}
    (xClone : pairs.lookup x = some p) (yClone : pairs.lookup y = some q) (sameName : p.name = q.name) : x = y := by
  have := List.inj_on_of_nodup_map cloned.nodup (mem_of_lookup_eq_some xClone) (mem_of_lookup_eq_some yClone) sameName
  exact congrArg Prod.fst this

/-- A clone stands for a live copied node of the same package. -/
theorem ClonedAll.clone_of_lookup (h : e.EdgesSound) (cloned : ClonedAll e e₁ models pairs)
    (live : ∀ m ∈ models, ∃ k, e.node? k = some m) {x : String} {p : Node}
    (looked : pairs.lookup x = some p) :
    ∃ m, e.node? x = some m ∧ p.package = m.package ∧ e₁.node? p.name = some p ∧
      e.graph.contains p.name = false := by
  obtain ⟨m, listed, sameKey, samePackage, cloneLive, fresh⟩ := cloned.clones _ (mem_of_lookup_eq_some looked)
  obtain ⟨k, found⟩ := live m listed
  have sameName : x = k := sameKey.trans (h.name_eq found)
  subst sameName
  exact ⟨m, found, samePackage, cloneLive, fresh⟩

/-- The moved edges fit among the clones. -/
theorem ClonedAll.cloneEdges_fit (h : e.EdgesSound) (cloned : ClonedAll e e₁ models pairs)
    (live : ∀ m ∈ models, ∃ k, e.node? k = some m) :
    ∀ b ∈ cloneEdges pairs e₁.graph.edges, e₁.EdgeFits b := by
  intro b moved
  rw [cloned.edges] at moved
  obtain ⟨b₀, original, p, q, fromClone, toClone, rfl⟩ := mem_cloneEdges.mp moved
  obtain ⟨apart, a, c, sourceType, targetType, fit⟩ := h.edge_fits b₀ original
  obtain ⟨mp, fromModel, fromPackage, fromLive, -⟩ := cloned.clone_of_lookup h live fromClone
  obtain ⟨mq, toModel, toPackage, toLive, -⟩ := cloned.clone_of_lookup h live toClone
  refine ⟨fun collide => apart (cloned.eq_of_clone_name fromClone toClone collide), a, c, ?_, ?_, fit⟩
  · refine portType_transfer cloned.catalog (fun n found => ⟨p, fromLive, ?_⟩) (by rfl) (by rfl) sourceType
    rw [Edge.source_node, fromModel] at found
    cases found
    exact fromPackage
  · refine portType_transfer cloned.catalog (fun n found => ⟨q, toLive, ?_⟩) (by rfl) (by rfl) targetType
    rw [Edge.target_node, toModel] at found
    cases found
    exact toPackage

/-- No two moved edges, nor a moved edge and a present one, enter one input port: the copied edges
did not, clones are named apart, and no present edge enters a clone. -/
theorem ClonedAll.cloneEdges_free (h : e.EdgesSound) (cloned : ClonedAll e e₁ models pairs)
    (live : ∀ m ∈ models, ∃ k, e.node? k = some m) :
    ∀ b ∈ cloneEdges pairs e₁.graph.edges, ∀ c ∈ cloneEdges pairs e₁.graph.edges ++ e₁.graph.edges,
      c.target = b.target → c = b := by
  intro b moved c other sameTarget
  rw [cloned.edges] at moved other
  obtain ⟨b₀, original, p, q, fromClone, toClone, rfl⟩ := mem_cloneEdges.mp moved
  obtain ⟨sameToNode, samePort⟩ := Edge.target_eq_iff.mp sameTarget
  rcases List.mem_append.mp other with other | other
  · obtain ⟨c₀, original', p', q', fromClone', toClone', rfl⟩ := mem_cloneEdges.mp other
    have sameEdge : c₀ = b₀ := h.one_per_input c₀ original' b₀ original
      (Edge.target_eq_iff.mpr ⟨cloned.eq_of_clone_name toClone' toClone sameToNode, samePort⟩)
    subst sameEdge
    rw [fromClone'] at fromClone
    rw [toClone'] at toClone
    cases fromClone
    cases toClone
    rfl
  · obtain ⟨-, -, -, -, fresh⟩ := cloned.clone_of_lookup h live toClone
    obtain ⟨-, -, t, -, targetType, -⟩ := h.edge_fits c other
    obtain ⟨n, -, found, -⟩ := portType_eq_ok.mp targetType
    rw [Edge.target_node, sameToNode, node?_eq_none_of_contains fresh] at found
    cases found

/-- Copying keeps the invariant, also when it stops after some clones. -/
theorem Invariant.copy (h : e.Invariant) (names : List String) : ((copy names).after e).Invariant := by
  refine copy_after_induction h (fun models copied => h.cloneEach models fun m listed =>
    ((copiedNodes_eq_ok copied).1 m listed).1) (fun models pairs e₁ copied ran sound₁ => ?_)
    fun models pairs e₁ e₂ copied ran ran₂ sound₂ => ?_
  · have live : ∀ m ∈ models, ∃ k, e.node? k = some m :=
      fun m listed => ((copiedNodes_eq_ok copied).1 m listed).1
    have cloned := cloneEach_run_eq_ok ran
    exact sound₁.addEdges _ (cloned.cloneEdges_fit h.graph.edgesSound live)
      (cloned.cloneEdges_free h.graph.edgesSound live)
  · obtain ⟨es, edgesAdded⟩ := addEdges_after_eq (cloneEdges pairs e₁.graph.edges) e₁
    have sameNodes : e₂.graph.nodes = e₁.graph.nodes := by
      rw [← Edit.after_of_run_ok ran₂, edgesAdded]
    refine sound₂.reselect _ fun r chosen => ?_
    simp only [Selection.replace, List.map_map, List.mem_map, Function.comp_apply] at chosen
    obtain ⟨p, cloneListed, rfl⟩ := chosen
    obtain ⟨-, -, -, -, live₁, -⟩ := (cloneEach_run_eq_ok ran).clones p cloneListed
    rw [node?_def] at live₁
    simp [Node.ref, sameNodes, live₁]

end Copy

section Rename

variable {e : Editor} {old new : String} {current : Node} {s : NodeStructure}

/-- The renamed node carries the old node's package and position, unselected. -/
abbrev renamedNode (current : Node) (new : String) : Node :=
  ⟨new, current.package, current.position, false⟩

/-- The editor in the middle of a rename: the node moved to its new name with its config, and the
old name dropped everywhere, with the old node's edges. -/
abbrev renamedWithout (e : Editor) (old new : String) (current : Node) (s : NodeStructure) : Editor :=
  (e.withNode (renamedNode current new)
    ((e.params.cloneConfig? old s new).getD (e.params.initNode new s))).withoutNode old

theorem renamedWithout_node? (k : String) :
    (e.renamedWithout old new current s).node? k =
      if k = old then none else if k = new then some (renamedNode current new) else e.node? k := by
  rw [withoutNode_node?]
  split
  · rfl
  · rw [withNode_node?]

/-- Each end of a node's edge moves to the new name when it was the old one; the node it lands on
has the package of the node it left. -/
theorem renamedWithout_end (free : e.graph.contains new = false) (oldFound : e.node? old = some current)
    {k : String} {m : Node} (found : e.node? k = some m) :
    ∃ m', (e.renamedWithout old new current s).node? (if k = old then new else k) = some m' ∧
      m'.package = m.package := by
  have apart : old ≠ new := ne_of_node?_of_contains oldFound free
  have notNew : k ≠ new := ne_of_node?_of_contains found free
  by_cases isOld : k = old
  · subst isOld
    rw [oldFound] at found
    cases found
    refine ⟨renamedNode current new, ?_, rfl⟩
    rw [if_pos rfl, renamedWithout_node?, if_neg (Ne.symm apart), if_pos rfl]
  · refine ⟨m, ?_, rfl⟩
    rw [if_neg isOld, renamedWithout_node?, if_neg isOld, if_neg notNew, found]

/-- The middle of a rename keeps the invariant. -/
theorem Invariant.renamedWithout (h : e.Invariant) (valid : isValidNodeName new = true)
    (free : e.graph.contains new = false) (oldFound : e.node? old = some current)
    (entry : e.catalog.get? current.package = some s) : (e.renamedWithout old new current s).Invariant := by
  have newParams : NewNodeParams e.params ((e.params.cloneConfig? old s new).getD
      (e.params.initNode new s)) new s := by
    cases cloned : e.params.cloneConfig? old s new with
    | none => exact newNodeParams_initNode _ _ _
    | some st' =>
      refine newNodeParams_cloneConfig cloned fun c sourceConfig p declared => ?_
      simpa [ParamStore.value?, sourceConfig] using h.params.config_complete oldFound entry p declared
  have withNew := h.withNode (n := renamedNode current new) entry valid free rfl newParams
  exact withNew.withoutNode (h.graph.dollar_not_mem oldFound)

/-- Both ends of a present edge are live, so neither is a free name. -/
theorem EdgesSound.ends_ne_free (h : e.EdgesSound) (free : e.graph.contains new = false)
    {b : Edge} (listed : b ∈ e.graph.edges) : b.fromNode ≠ new ∧ b.toNode ≠ new := by
  obtain ⟨-, a, c, sourceType, targetType, -⟩ := h.edge_fits b listed
  obtain ⟨n, -, fromFound, -⟩ := portType_eq_ok.mp sourceType
  obtain ⟨m, -, toFound, -⟩ := portType_eq_ok.mp targetType
  constructor <;> rintro rfl
  · rw [Edge.source_node, node?_eq_none_of_contains free] at fromFound
    cases fromFound
  · rw [Edge.target_node, node?_eq_none_of_contains free] at toFound
    cases toFound

/-- Moving the ends named `old` to a free name keeps apart ends that were apart. -/
theorem renamed_end_inj {a b : String} (aNotNew : a ≠ new) (bNotNew : b ≠ new)
    (h : (if a = old then new else a) = (if b = old then new else b)) : a = b := by
  split_ifs at h <;> grind

theorem mem_incidentEdges {g : Graph} {b : Edge} :
    b ∈ g.incidentEdges old ↔ b ∈ g.edges ∧ (b.fromNode = old ∨ b.toNode = old) := by
  simp [Graph.incidentEdges]

/-- The old node's edges, moved to the new name, fit the middle of the rename. -/
theorem EdgesSound.renamed_fits (h : e.EdgesSound) (free : e.graph.contains new = false)
    (oldFound : e.node? old = some current) :
    ∀ b ∈ (e.graph.incidentEdges old).map (·.renamed old new),
      (e.renamedWithout old new current s).EdgeFits b := by
  intro b moved
  obtain ⟨b₀, original, rfl⟩ := List.mem_map.mp moved
  obtain ⟨listed, incident⟩ := mem_incidentEdges.mp original
  obtain ⟨apart, a, c, sourceType, targetType, fit⟩ := h.edge_fits b₀ listed
  obtain ⟨fromNotNew, toNotNew⟩ := h.ends_ne_free free listed
  refine ⟨fun collide => apart (renamed_end_inj fromNotNew toNotNew collide), a, c, ?_, ?_, fit⟩
  · exact portType_transfer (by rfl) (fun _ found => renamedWithout_end free oldFound found) (by rfl) (by rfl) sourceType
  · exact portType_transfer (by rfl) (fun _ found => renamedWithout_end free oldFound found) (by rfl) (by rfl) targetType

/-- No two of the moved edges, and none of them and a kept edge, enter one input port. -/
theorem EdgesSound.renamed_free (h : e.EdgesSound) (free : e.graph.contains new = false) :
    ∀ b ∈ (e.graph.incidentEdges old).map (·.renamed old new),
      ∀ c ∈ (e.graph.incidentEdges old).map (·.renamed old new) ++
        (e.renamedWithout old new current s).graph.edges, c.target = b.target → c = b := by
  intro b moved c other sameTarget
  obtain ⟨b₀, original, rfl⟩ := List.mem_map.mp moved
  obtain ⟨listed, incident⟩ := mem_incidentEdges.mp original
  obtain ⟨sameToNode, samePort⟩ := Edge.target_eq_iff.mp sameTarget
  have toNotNew := (h.ends_ne_free free listed).2
  rcases List.mem_append.mp other with other | other
  · obtain ⟨c₀, original', rfl⟩ := List.mem_map.mp other
    have listed' := (mem_incidentEdges.mp original').1
    have sameEnd : c₀.toNode = b₀.toNode :=
      renamed_end_inj (h.ends_ne_free free listed').2 toNotNew sameToNode
    rw [h.one_per_input c₀ listed' b₀ listed (Edge.target_eq_iff.mpr ⟨sameEnd, samePort⟩)]
  · -- a kept edge has no end at the old node and none at the free name, so it would be the
    -- moved edge itself, which has an end at the old node
    simp only [List.mem_filter, Bool.not_eq_true', Bool.or_eq_false_iff, beq_eq_false_iff_ne] at other
    obtain ⟨kept, fromNotOld, toNotOld⟩ := other
    have keptNotNew := (h.ends_ne_free free kept).2
    have sameEnd : c.toNode = b₀.toNode := by
      rw [Edge.renamed_toNode] at sameToNode
      split_ifs at sameToNode with isOld
      · exact absurd sameToNode keptNotNew
      · exact sameToNode
    have sameEdge := h.one_per_input c kept b₀ listed (Edge.target_eq_iff.mpr ⟨sameEnd, samePort⟩)
    subst sameEdge
    rcases incident with incident | incident
    · exact absurd incident fromNotOld
    · exact absurd incident toNotOld

/-- A property holds after a rename when it holds before and each stage keeps it: the node moved
to its new name with the old name dropped everywhere and its edges added back under the new name,
then the node selected alone once the edges are in. A refused rename changes nothing, and a
refused edge stops it where it stands. -/
theorem rename_after_induction {motive : Editor → Prop} (h : motive e)
    (moved : ∀ current s, isValidNodeName new = true → e.graph.contains new = false →
      e.node? old = some current → e.catalog.get? current.package = some s →
      motive ((addEdges ((e.graph.incidentEdges old).map (·.renamed old new))).after
        (e.renamedWithout old new current s)))
    (select : ∀ current s e₂, isValidNodeName new = true → e.graph.contains new = false →
      e.node? old = some current → e.catalog.get? current.package = some s →
      (addEdges ((e.graph.incidentEdges old).map (·.renamed old new))).run
        (e.renamedWithout old new current s) = .ok () e₂ → motive e₂ →
      motive ({ e₂ with selection := e₂.selection.select ⟨new, current.package⟩ false }).syncSelectedFlags) :
    motive ((Editor.rename old new).after e) := by
  by_cases checks : isValidNodeName new = true ∧ e.graph.contains new = false ∧
      ∃ current s, e.node? old = some current ∧ e.catalog.get? current.package = some s
  · obtain ⟨valid, free, current, s, oldFound, entry⟩ := checks
    have added := moved current s valid free oldFound entry
    unfold Edit.after
    rw [rename_run_of_checks valid free oldFound entry]
    generalize ran : EStateM.run (Editor.addEdges _) _ = r
    have ran' : (Editor.addEdges ((e.graph.incidentEdges old).map (·.renamed old new))).run
        (e.renamedWithout old new current s) = r := ran
    cases r with
    | ok u e₂ =>
      cases u
      rw [Edit.after_of_run_ok ran'] at added
      exact select current s e₂ valid free oldFound entry ran' added
    | error _ e₂ =>
      rw [Edit.after_of_run_error ran'] at added
      exact added
  · obtain ⟨err, ran⟩ := rename_run_of_not_checks checks
    rw [Edit.after_of_run_error ran]
    exact h

/-- Renaming keeps the invariant: the node moves to its new name with its config and as many of
its edges as go back in, and ends up the only node selected; a refused rename changes nothing. -/
theorem Invariant.rename (h : e.Invariant) (old new : String) :
    ((Editor.rename old new).after e).Invariant := by
  refine rename_after_induction h (fun current s valid free oldFound entry => ?_)
    fun current s e₂ valid free oldFound entry ran added => ?_
  · exact (h.renamedWithout valid free oldFound entry).addEdges _
      (h.graph.edgesSound.renamed_fits free oldFound) (h.graph.edgesSound.renamed_free free)
  · have apart : old ≠ new := ne_of_node?_of_contains oldFound free
    obtain ⟨es, edgesAdded⟩ := addEdges_after_eq ((e.graph.incidentEdges old).map (·.renamed old new))
      (e.renamedWithout old new current s)
    rw [Edit.after_of_run_ok ran] at edgesAdded
    refine added.reselect _ fun r chosen => ?_
    rcases Selection.mem_select chosen with chosen | rfl
    · exact added.selection.selected_live r chosen
    · subst edgesAdded
      show ((e.renamedWithout old new current s).node? new).isSome
      rw [renamedWithout_node?, if_neg (Ne.symm apart), if_pos rfl]
      rfl

theorem Invariant.renameSelected (h : e.Invariant) (new : String) :
    ((renameSelected new).after e).Invariant :=
  renameSelected_after_induction h fun r _ => h.rename r.name new

end Rename

end Editor

end PipelineEditor
