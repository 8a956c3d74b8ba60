import PipelineEditor.Graph.Pipeline
import PipelineEditor.Proofs.Graph.Refinement
import PipelineEditor.Proofs.Graph.Slots

/-! The pipeline graph over any lawful stable store refines the abstract graph. -/

namespace PipelineEditor

theorem Edge.hasEndAt_of_touches {e : Edge} {p : PortRef} (touching : e.touches p = true) :
    e.HasEndAt p.node := by
  unfold touches at touching
  unfold HasEndAt
  split at touching <;> simp_all

namespace PipelineGraph

variable {S : Type}

/-- A pipeline graph stands for an abstract graph: the slot under a name holds the node of that
name, each name has the abstract graph's node, the store edges are the abstract edges, and no two
store edges link the same ports of the same two slots. -/
structure Represents (G : StableDiGraph S Node PortLink) (pg : PipelineGraph S) (a : AbsGraph) :
    Prop where
  nodeIds : ∀ name i, pg.nodeIds.get? name = some i ↔
    ∃ n, G.nodeWeight pg.graph i = some n ∧ n.name = name
  node : ∀ name, pg.node G name = a.nodes.lookup name
  edges_mem : ∀ r ∈ G.edgeReferences pg.graph, pg.edgeRecord G r ∈ a.edges
  edges_cover : ∀ e ∈ a.edges, ∃ r ∈ G.edgeReferences pg.graph, pg.edgeRecord G r = e
  parallel : ∀ r ∈ G.edgeReferences pg.graph, ∀ r' ∈ G.edgeReferences pg.graph,
    r.source = r'.source → r.target = r'.target → r.weight = r'.weight → r = r'

variable {G : StableDiGraph S Node PortLink} {pg : PipelineGraph S} {a : AbsGraph}

section Records

theorem edgeRecord_of_weights {r : EdgeRef PortLink} {n m : Node}
    (source : G.nodeWeight pg.graph r.source = some n) (target : G.nodeWeight pg.graph r.target = some m) :
    pg.edgeRecord G r = ⟨n.name, r.weight.sourcePort, m.name, r.weight.targetPort⟩ := by
  simp [edgeRecord, source, target]

/-- Slots whose nodes keep their names keep the records of the edges between them. -/
theorem edgeRecord_congr {pg' : PipelineGraph S}
    (names : ∀ k, (G.nodeWeight pg'.graph k).map Node.name = (G.nodeWeight pg.graph k).map Node.name)
    (r : EdgeRef PortLink) : pg'.edgeRecord G r = pg.edgeRecord G r := by
  simp only [edgeRecord, names]

theorem live_ends (lawful : G.Lawful) {s : S} {r : EdgeRef PortLink} (listed : r ∈ G.edgeReferences s) :
    ∃ n m, G.nodeWeight s r.source = some n ∧ G.nodeWeight s r.target = some m := by
  obtain ⟨source, target⟩ := lawful.ends_live s r listed
  obtain ⟨n, sourceWeight⟩ := Option.isSome_iff_exists.mp source
  obtain ⟨m, targetWeight⟩ := Option.isSome_iff_exists.mp target
  exact ⟨n, m, sourceWeight, targetWeight⟩

theorem ref_eq_of_id (lawful : G.Lawful) {s : S} {r r' : EdgeRef PortLink}
    (listed : r ∈ G.edgeReferences s) (listed' : r' ∈ G.edgeReferences s) (same : r.id = r'.id) :
    r = r' :=
  List.inj_on_of_nodup_map (lawful.edgeIds_nodup s) listed listed' same

end Records

section Names

variable (h : pg.Represents G a)
include h

/-- A slot's node has a name exactly when the name's slot is that slot. -/
theorem Represents.name_eq_iff {i : NodeIx} {n : Node} (weight : G.nodeWeight pg.graph i = some n)
    (name : String) : n.name = name ↔ pg.nodeIds.get? name = some i := by
  constructor
  · rintro rfl
    exact (h.nodeIds n.name i).mpr ⟨n, weight, rfl⟩
  · intro found
    obtain ⟨m, weight', named⟩ := (h.nodeIds name i).mp found
    rw [weight, Option.some.injEq] at weight'
    rw [weight', named]

theorem Represents.slot_unique {i j : NodeIx} {n m : Node} (weight : G.nodeWeight pg.graph i = some n)
    (weight' : G.nodeWeight pg.graph j = some m) (same : n.name = m.name) : i = j := by
  have found := (h.name_eq_iff weight m.name).mp same
  rw [(h.name_eq_iff weight' m.name).mp rfl] at found
  exact (Option.some.inj found).symm

theorem Represents.contains_iff (name : String) : pg.contains name = true ↔ name ∈ a.nodes := by
  rw [← Finmap.lookup_isSome, ← h.node name, contains, Table.contains_eq_isSome, PipelineGraph.node]
  rcases found : pg.nodeIds.get? name with _ | i
  · rfl
  · obtain ⟨n, weight, -⟩ := (h.nodeIds name i).mp found
    simp [weight]

theorem Represents.get?_eq_none {name : String} (absent : name ∉ a.nodes) :
    pg.nodeIds.get? name = none := by
  have missing := mt (h.contains_iff name).mp absent
  simpa [contains] using missing

theorem Represents.fromNode_eq_iff (lawful : G.Lawful) {r : EdgeRef PortLink}
    (listed : r ∈ G.edgeReferences pg.graph) (name : String) :
    (pg.edgeRecord G r).fromNode = name ↔ pg.nodeIds.get? name = some r.source := by
  obtain ⟨n, m, source, target⟩ := live_ends lawful listed
  rw [edgeRecord_of_weights source target]
  exact h.name_eq_iff source name

theorem Represents.toNode_eq_iff (lawful : G.Lawful) {r : EdgeRef PortLink}
    (listed : r ∈ G.edgeReferences pg.graph) (name : String) :
    (pg.edgeRecord G r).toNode = name ↔ pg.nodeIds.get? name = some r.target := by
  obtain ⟨n, m, source, target⟩ := live_ends lawful listed
  rw [edgeRecord_of_weights source target]
  exact h.name_eq_iff target name

/-- Two store edges with one record are one store edge. -/
theorem Represents.record_inj (lawful : G.Lawful) {r r' : EdgeRef PortLink}
    (listed : r ∈ G.edgeReferences pg.graph) (listed' : r' ∈ G.edgeReferences pg.graph)
    (same : pg.edgeRecord G r = pg.edgeRecord G r') : r = r' := by
  obtain ⟨n, m, source, target⟩ := live_ends lawful listed
  obtain ⟨n', m', source', target'⟩ := live_ends lawful listed'
  rw [edgeRecord_of_weights source target, edgeRecord_of_weights source' target', Edge.mk.injEq] at same
  obtain ⟨fromSame, sourcePort, toSame, targetPort⟩ := same
  exact h.parallel r listed r' listed' (h.slot_unique source source' fromSame)
    (h.slot_unique target target' toSame) (PortLink.ext sourcePort targetPort)

/-- Store edges listed once, chosen by a property of their records, list the abstract edges with
that property once each. -/
theorem Represents.listsOnce_map (lawful : G.Lawful) {L : List (EdgeRef PortLink)}
    (sub : ∀ r ∈ L, r ∈ G.edgeReferences pg.graph) (nodup : L.Nodup) (P : Edge → Prop)
    [DecidablePred P] (select : ∀ r ∈ G.edgeReferences pg.graph, r ∈ L ↔ P (pg.edgeRecord G r)) :
    ListsOnce (L.map (pg.edgeRecord G)) (a.edges.filter P) := by
  refine ⟨nodup.map_on fun r listed r' listed' same =>
    h.record_inj lawful (sub r listed) (sub r' listed') same, fun e => ?_⟩
  rw [List.mem_map, Finset.mem_filter]
  constructor
  · rintro ⟨r, chosen, rfl⟩
    exact ⟨h.edges_mem r (sub r chosen), (select r (sub r chosen)).mp chosen⟩
  · rintro ⟨present, holds⟩
    obtain ⟨r, listed, rfl⟩ := h.edges_cover e present
    exact ⟨r, (select r listed).mpr holds, rfl⟩

end Names

section Queries

/-- The store edges at a node that the listing of its edges reads. -/
def incidentRefs (G : StableDiGraph S Node PortLink) (pg : PipelineGraph S) (name : String) :
    List (EdgeRef PortLink) :=
  match pg.nodeIds.get? name with
  | none => []
  | some index =>
    G.edgesDirected pg.graph index .outgoing ++
      (G.edgesDirected pg.graph index .incoming).filter (·.source != index)

/-- The store edges leaving a node. -/
def outgoingRefs (G : StableDiGraph S Node PortLink) (pg : PipelineGraph S) (name : String) :
    List (EdgeRef PortLink) :=
  match pg.nodeIds.get? name with
  | none => []
  | some index => G.edgesDirected pg.graph index .outgoing

theorem incidentEdges_eq (name : String) :
    pg.incidentEdges G name = (incidentRefs G pg name).map (pg.edgeRecord G) := by
  unfold incidentEdges incidentRefs
  cases pg.nodeIds.get? name with
  | none => rfl
  | some index => simp

theorem outgoingEdges_eq (name : String) :
    pg.outgoingEdges G name = (outgoingRefs G pg name).map (pg.edgeRecord G) := by
  unfold outgoingEdges outgoingRefs
  cases pg.nodeIds.get? name <;> rfl

variable (lawful : G.Lawful)
include lawful

theorem incidentRefs_listed (name : String) :
    ∀ r ∈ incidentRefs G pg name, r ∈ G.edgeReferences pg.graph := by
  unfold incidentRefs
  split
  · simp
  · intro r chosen
    rcases List.mem_append.mp chosen with out | into
    · exact ((lawful.mem_edgesDirected _ _ _ r).mp out).1
    · exact ((lawful.mem_edgesDirected _ _ _ r).mp (List.mem_filter.mp into).1).1

/-- The edges leaving a slot and the edges entering it from elsewhere are apart, so the listing
holds each edge at a node once, a loop included. -/
theorem incidentRefs_nodup (name : String) : (incidentRefs G pg name).Nodup := by
  unfold incidentRefs
  split
  · exact List.nodup_nil
  · rename_i index _
    refine List.nodup_append.mpr ⟨lawful.edgesDirected_nodup _ _ _,
      (lawful.edgesDirected_nodup _ _ _).filter _, ?_⟩
    intro r out r' into same
    subst same
    have leaving := ((lawful.mem_edgesDirected _ _ _ r).mp out).2
    have elsewhere := (List.mem_filter.mp into).2
    simp only [EdgeRef.endpoint] at leaving
    simp [leaving] at elsewhere

theorem Represents.mem_incidentRefs (h : pg.Represents G a) (name : String) {r : EdgeRef PortLink}
    (listed : r ∈ G.edgeReferences pg.graph) :
    r ∈ incidentRefs G pg name ↔ (pg.edgeRecord G r).HasEndAt name := by
  rw [Edge.HasEndAt, h.fromNode_eq_iff lawful listed, h.toNode_eq_iff lawful listed]
  unfold incidentRefs
  rcases pg.nodeIds.get? name with _ | index
  · simp
  · dsimp only
    rw [List.mem_append, List.mem_filter, lawful.mem_edgesDirected, lawful.mem_edgesDirected]
    simp only [EdgeRef.endpoint, listed, true_and, bne_iff_ne, ne_eq, Option.some.injEq]
    by_cases leaving : r.source = index
    · simp [leaving]
    · simp [leaving, Ne.symm leaving, eq_comm]

theorem Represents.mem_outgoingRefs (h : pg.Represents G a) (name : String) {r : EdgeRef PortLink}
    (listed : r ∈ G.edgeReferences pg.graph) :
    r ∈ outgoingRefs G pg name ↔ (pg.edgeRecord G r).fromNode = name := by
  rw [h.fromNode_eq_iff lawful listed]
  unfold outgoingRefs
  rcases pg.nodeIds.get? name with _ | index
  · simp
  · dsimp only
    rw [lawful.mem_edgesDirected, Option.some.injEq]
    simp only [EdgeRef.endpoint, listed, true_and]
    exact eq_comm

variable (h : pg.Represents G a)
include h

theorem Represents.edges : ListsOnce (pg.edges G) a.edges := by
  have all := h.listsOnce_map lawful (fun _ listed => listed) (List.Nodup.of_map _ (lawful.edgeIds_nodup _))
    (fun _ => True) fun _ listed => iff_of_true listed trivial
  rwa [Finset.filter_true] at all

theorem Represents.incidentEdges (name : String) :
    ListsOnce (pg.incidentEdges G name) (a.incident name) := by
  rw [incidentEdges_eq]
  exact h.listsOnce_map lawful (incidentRefs_listed lawful name) (incidentRefs_nodup lawful name) _
    fun _ listed => h.mem_incidentRefs lawful name listed

theorem Represents.outgoingEdges (name : String) :
    ListsOnce (pg.outgoingEdges G name) (a.outgoing name) := by
  rw [outgoingEdges_eq]
  refine h.listsOnce_map lawful ?_ ?_ _ fun _ listed => h.mem_outgoingRefs lawful name listed
  · unfold outgoingRefs
    split
    · simp
    · exact fun r out => ((lawful.mem_edgesDirected _ _ _ r).mp out).1
  · unfold outgoingRefs
    split
    · exact List.nodup_nil
    · exact lawful.edgesDirected_nodup _ _ _

theorem Represents.edgesAtPort (p : PortRef) : ListsOnce (pg.edgesAtPort G p) (a.atPort p) := by
  obtain ⟨nodup, members⟩ := h.incidentEdges lawful p.node
  refine ⟨nodup.filter _, fun e => ?_⟩
  rw [PipelineGraph.edgesAtPort, List.mem_filter, members, AbsGraph.incident, AbsGraph.atPort, Finset.mem_filter,
    Finset.mem_filter]
  exact ⟨fun ⟨⟨present, _⟩, touching⟩ => ⟨present, touching⟩,
    fun ⟨present, touching⟩ => ⟨⟨present, Edge.hasEndAt_of_touches touching⟩, touching⟩⟩

theorem Represents.isPortConnected (p : PortRef) :
    pg.isPortConnected G p = true ↔ (a.atPort p).Nonempty := by
  have members := (h.edgesAtPort lawful p).2
  simp only [PipelineGraph.isPortConnected, Bool.not_eq_true', List.isEmpty_eq_false_iff_exists_mem,
    members]
  rfl

end Queries

section Frames

theorem edgeRecord_of_ends {r r' : EdgeRef PortLink} (source : r.source = r'.source)
    (target : r.target = r'.target) (weight : r.weight = r'.weight) :
    pg.edgeRecord G r = pg.edgeRecord G r' := by
  simp only [edgeRecord, source, target, weight]

theorem edgeRecord_congr_ends {pg' : PipelineGraph S} {r : EdgeRef PortLink}
    (source : G.nodeWeight pg'.graph r.source = G.nodeWeight pg.graph r.source)
    (target : G.nodeWeight pg'.graph r.target = G.nodeWeight pg.graph r.target) :
    pg'.edgeRecord G r = pg.edgeRecord G r := by
  simp only [edgeRecord, source, target]

theorem Represents.congr_abs (h : pg.Represents G a) {a' : AbsGraph} (nodes : a'.nodes = a.nodes)
    (edges : a'.edges = a.edges) : pg.Represents G a' where
  nodeIds := h.nodeIds
  node name := by rw [nodes]; exact h.node name
  edges_mem r listed := by rw [edges]; exact h.edges_mem r listed
  edges_cover e present := h.edges_cover e (by rwa [edges] at present)
  parallel := h.parallel

/-- A graph with no names, no live slots and no edges stands for the empty graph. -/
theorem represents_vacant (ids : pg.nodeIds = Table.empty) (vacant : ∀ i, G.nodeWeight pg.graph i = none)
    (noEdges : G.edgeReferences pg.graph = []) : pg.Represents G AbsGraph.empty where
  nodeIds name i := by simp [ids, vacant]
  node name := by simp [PipelineGraph.node, ids, AbsGraph.empty]
  edges_mem r listed := by simp [noEdges] at listed
  edges_cover e present := by simp [AbsGraph.empty] at present
  parallel r listed := by simp [noEdges] at listed

/-- A change to the node slots that keeps the store edges and their records keeps the edges
represented. -/
theorem Represents.of_same_edges (h : pg.Represents G a) {pg' : PipelineGraph S} {a' : AbsGraph}
    (nodeIds : ∀ name i, pg'.nodeIds.get? name = some i ↔
      ∃ n, G.nodeWeight pg'.graph i = some n ∧ n.name = name)
    (node : ∀ name, pg'.node G name = a'.nodes.lookup name)
    (refs : ∀ r, r ∈ G.edgeReferences pg'.graph ↔ r ∈ G.edgeReferences pg.graph)
    (records : ∀ r ∈ G.edgeReferences pg.graph, pg'.edgeRecord G r = pg.edgeRecord G r)
    (edges : a'.edges = a.edges) : pg'.Represents G a' where
  nodeIds := nodeIds
  node := node
  edges_mem r listed := by
    rw [records r ((refs r).mp listed), edges]
    exact h.edges_mem r ((refs r).mp listed)
  edges_cover e present := by
    obtain ⟨r, listed, rfl⟩ := h.edges_cover e (by rwa [edges] at present)
    exact ⟨r, (refs r).mpr listed, records r listed⟩
  parallel r listed r' listed' := h.parallel r ((refs r).mp listed) r' ((refs r').mp listed')

/-- A change to the store edges that keeps every slot and name keeps the nodes represented. -/
theorem Represents.of_same_nodes (h : pg.Represents G a) {pg' : PipelineGraph S} {a' : AbsGraph}
    (ids : pg'.nodeIds = pg.nodeIds) (weights : ∀ k, G.nodeWeight pg'.graph k = G.nodeWeight pg.graph k)
    (nodes : a'.nodes = a.nodes)
    (edges_mem : ∀ r ∈ G.edgeReferences pg'.graph, pg.edgeRecord G r ∈ a'.edges)
    (edges_cover : ∀ e ∈ a'.edges, ∃ r ∈ G.edgeReferences pg'.graph, pg.edgeRecord G r = e)
    (parallel : ∀ r ∈ G.edgeReferences pg'.graph, ∀ r' ∈ G.edgeReferences pg'.graph,
      r.source = r'.source → r.target = r'.target → r.weight = r'.weight → r = r') :
    pg'.Represents G a' := by
  have sameWeights : G.nodeWeight pg'.graph = G.nodeWeight pg.graph := funext weights
  have records : ∀ r, pg'.edgeRecord G r = pg.edgeRecord G r := fun r =>
    edgeRecord_congr_ends (weights _) (weights _)
  refine ⟨fun name i => ?_, fun name => ?_, fun r listed => ?_, fun e present => ?_, parallel⟩
  · rw [ids, sameWeights]
    exact h.nodeIds name i
  · rw [PipelineGraph.node, ids, sameWeights, nodes]
    exact h.node name
  · rw [records]
    exact edges_mem r listed
  · obtain ⟨r, listed, named⟩ := edges_cover e present
    exact ⟨r, listed, (records r).trans named⟩

end Frames

section Operations

variable (lawful : G.Lawful)
include lawful

theorem represents_new : (new G).Represents G AbsGraph.empty :=
  represents_vacant rfl lawful.nodeWeight_empty lawful.edgeReferences_empty

theorem represents_clear (pg : PipelineGraph S) : (pg.clear G).Represents G AbsGraph.empty :=
  represents_vacant rfl (lawful.nodeWeight_clear _) (lawful.edgeReferences_clear _)

variable (h : pg.Represents G a)
include h

/-- A new node in a vacant slot, under a name that is free, stands for the node inserted into the
abstract graph. -/
theorem Represents.insertNode {n : Node} (fresh : n.name ∉ a.nodes) {i : NodeIx} {s' : S}
    (added : G.addNode pg.graph n = (i, s')) :
    Represents G ⟨s', pg.nodeIds.insert n.name i⟩ (a.insertNode n) := by
  have vacant := lawful.addNode_vacant added
  have weights := lawful.nodeWeight_addNode added
  have absent := h.get?_eq_none fresh
  have apart : ∀ {j m}, G.nodeWeight pg.graph j = some m → j ≠ i := by
    rintro j m weight rfl
    rw [vacant] at weight
    cases weight
  refine h.of_same_edges (fun name j => ?_) (fun name => ?_) (lawful.edgeReferences_addNode added)
    (fun r listed => ?_) rfl
  · simp only [Table.get?_insert, weights]
    by_cases atNew : j = i
    · subst atNew
      by_cases named : name = n.name
      · simp [named]
      · rw [if_neg named, h.nodeIds]
        simp [vacant, Ne.symm named]
    · simp only [if_neg atNew]
      rw [← h.nodeIds name j]
      by_cases named : name = n.name
      · rw [if_pos named, named, absent]
        simp [Ne.symm atNew]
      · rw [if_neg named]
  · simp only [PipelineGraph.node, Table.get?_insert, AbsGraph.insertNode]
    by_cases named : name = n.name
    · rw [if_pos named, named, Finmap.lookup_insert, Option.bind_some, weights, if_pos rfl]
    · rw [if_neg named, Finmap.lookup_insert_of_ne _ named, ← h.node name, PipelineGraph.node]
      rcases found : pg.nodeIds.get? name with _ | j
      · rfl
      · obtain ⟨m, weight, -⟩ := (h.nodeIds name j).mp found
        simp only [Option.bind_some, weights, if_neg (apart weight)]
  · obtain ⟨n₁, n₂, source, target⟩ := live_ends lawful listed
    exact edgeRecord_congr_ends (by rw [weights, if_neg (apart source)])
      (by rw [weights, if_neg (apart target)])

theorem Represents.addNode (n : Node) :
    ExceptRel (fun r s => G.nodeWeight r.2.graph r.1 = some n ∧ r.2.Represents G s)
      (pg.addNode G n) (a.addNode n) := by
  unfold PipelineGraph.addNode AbsGraph.addNode
  by_cases taken : n.name ∈ a.nodes
  · have takenId : pg.nodeIds.contains n.name = true := (h.contains_iff n.name).mpr taken
    rw [if_pos takenId, if_pos taken]
    exact .error _
  · have free : pg.nodeIds.contains n.name = false := by
      simpa [contains] using mt (h.contains_iff n.name).mp taken
    rw [if_neg (by rw [free]; exact Bool.false_ne_true), if_neg taken]
    rcases added : G.addNode pg.graph n with ⟨i, s'⟩
    exact .ok ⟨(lawful.nodeWeight_addNode added i).trans (if_pos rfl),
      h.insertNode lawful taken added⟩

/-- Removing the node of a slot and the edges at it stands for erasing the node from the abstract
graph. -/
theorem Represents.eraseNode {name : String} {i : NodeIx} {n : Node}
    (found : pg.nodeIds.get? name = some i) (weight : G.nodeWeight pg.graph i = some n) {s' : S}
    (removed : G.removeNode pg.graph i = some (n, s')) :
    Represents G ⟨s', pg.nodeIds.erase name⟩ (a.eraseNode name) := by
  have weights := lawful.nodeWeight_removeNode removed
  have refs := lawful.edgeReferences_removeNode removed
  have named : n.name = name := (h.name_eq_iff weight name).mpr found
  have apart : ∀ {j m}, G.nodeWeight pg.graph j = some m → m.name ≠ name → j ≠ i := by
    rintro j m weight' other rfl
    rw [weight, Option.some.injEq] at weight'
    exact other (weight' ▸ named)
  have records : ∀ r ∈ G.edgeReferences s', (⟨s', pg.nodeIds.erase name⟩ : PipelineGraph S).edgeRecord G r =
      pg.edgeRecord G r := fun r listed => by
    obtain ⟨-, source, target⟩ := (refs r).mp listed
    exact edgeRecord_congr_ends (by rw [weights, if_neg source]) (by rw [weights, if_neg target])
  refine ⟨fun k j => ?_, fun k => ?_, fun r listed => ?_, fun e present => ?_,
    fun r listed r' listed' => h.parallel r ((refs r).mp listed).1 r' ((refs r').mp listed').1⟩
  · rw [Table.get?_erase]
    constructor
    · intro found'
      split at found'
      · cases found'
      · rename_i other
        obtain ⟨m, weight', named'⟩ := (h.nodeIds k j).mp found'
        refine ⟨m, ?_, named'⟩
        rw [weights, if_neg (apart weight' fun same => other (named'.symm.trans same))]
        exact weight'
    · rintro ⟨m, weight', rfl⟩
      rw [weights] at weight'
      split at weight'
      · cases weight'
      · rename_i atOld
        have other : m.name ≠ name := fun same =>
          atOld (Option.some.inj (((h.name_eq_iff weight' name).mp same).symm.trans found))
        rw [if_neg other]
        exact (h.name_eq_iff weight' m.name).mp rfl
  · simp only [PipelineGraph.node, Table.get?_erase, AbsGraph.eraseNode]
    by_cases atName : k = name
    · rw [if_pos atName, atName, Finmap.lookup_erase]
      rfl
    · rw [if_neg atName, Finmap.lookup_erase_ne atName, ← h.node k, PipelineGraph.node]
      rcases found' : pg.nodeIds.get? k with _ | j
      · rfl
      · obtain ⟨m, weight', named'⟩ := (h.nodeIds k j).mp found'
        simp only [Option.bind_some, weights,
          if_neg (apart weight' fun same => atName (named'.symm.trans same))]
  · obtain ⟨old, source, target⟩ := (refs r).mp listed
    rw [records r listed, AbsGraph.eraseNode, Finset.mem_filter, Edge.HasEndAt,
      h.fromNode_eq_iff lawful old, h.toNode_eq_iff lawful old, found]
    simp only [Option.some.injEq]
    exact ⟨h.edges_mem r old, by rintro (same | same) <;> simp_all⟩
  · rw [AbsGraph.eraseNode, Finset.mem_filter] at present
    obtain ⟨present, clear⟩ := present
    obtain ⟨r, old, rfl⟩ := h.edges_cover e present
    rw [Edge.HasEndAt, h.fromNode_eq_iff lawful old, h.toNode_eq_iff lawful old, found] at clear
    simp only [Option.some.injEq, not_or] at clear
    exact ⟨r, (refs r).mpr ⟨old, Ne.symm clear.1, Ne.symm clear.2⟩, records r ((refs r).mpr ⟨old, Ne.symm clear.1, Ne.symm clear.2⟩)⟩

theorem Represents.removeNode (name : String) :
    Option.Rel (fun r s => r.1.1 = s.1 ∧ ListsOnce r.1.2 s.2.1 ∧ r.2.Represents G s.2.2)
      (pg.removeNode G name) (a.removeNode name) := by
  unfold PipelineGraph.removeNode AbsGraph.removeNode
  rw [← h.node name, PipelineGraph.node]
  rcases found : pg.nodeIds.get? name with _ | i
  · exact .none
  · obtain ⟨n, weight, -⟩ := (h.nodeIds name i).mp found
    have live : G.removeNode pg.graph i ≠ none := by
      rw [Ne, lawful.removeNode_eq_none, weight]
      exact Option.some_ne_none n
    obtain ⟨⟨w, s'⟩, removed⟩ := Option.ne_none_iff_exists'.mp live
    have same : w = n := by
      have weight' := lawful.removeNode_weight removed
      rw [weight, Option.some.injEq] at weight'
      exact weight'.symm
    subst same
    simp only [bind, Option.bind_some, weight, removed, Option.map_some, pure]
    exact .some ⟨rfl, h.incidentEdges lawful name, h.eraseNode lawful found weight removed⟩

/-- The store edge `findEdge` finds links the edge's ports between the edge's nodes. -/
theorem Represents.findEdge_eq_some {e : Edge} {k : EdgeIx} (found : pg.findEdge G e = some k) :
    ∃ r ∈ G.edgeReferences pg.graph, r.id = k ∧ pg.edgeRecord G r = e := by
  simp only [findEdge, bind, Option.bind_eq_some_iff, pure, Option.some.injEq] at found
  obtain ⟨i, fromFound, j, toFound, c, candidate, rfl⟩ := found
  obtain ⟨listed, source, target⟩ :=
    (lawful.mem_edgesConnecting _ _ _ c).mp (List.mem_of_find?_eq_some candidate)
  have ports := List.find?_some candidate
  simp only [Bool.and_eq_true, beq_iff_eq] at ports
  obtain ⟨n, m, sourceWeight, targetWeight⟩ := live_ends lawful listed
  have fromNamed : n.name = e.fromNode := (h.name_eq_iff sourceWeight _).mpr (by rw [fromFound, source])
  have toNamed : m.name = e.toNode := (h.name_eq_iff targetWeight _).mpr (by rw [toFound, target])
  refine ⟨c, listed, rfl, ?_⟩
  rw [edgeRecord_of_weights sourceWeight targetWeight, fromNamed, toNamed, ports.1, ports.2]

theorem Represents.findEdge_isSome (e : Edge) : (pg.findEdge G e).isSome ↔ e ∈ a.edges := by
  constructor
  · intro found
    obtain ⟨k, found⟩ := Option.isSome_iff_exists.mp found
    obtain ⟨r, listed, -, rfl⟩ := h.findEdge_eq_some lawful found
    exact h.edges_mem r listed
  · intro present
    obtain ⟨r, listed, rfl⟩ := h.edges_cover e present
    have fromFound := (h.fromNode_eq_iff lawful listed _).mp rfl
    have toFound := (h.toNode_eq_iff lawful listed _).mp rfl
    have chosen := (lawful.mem_edgesConnecting _ _ _ r).mpr ⟨listed, rfl, rfl⟩
    have candidates : ((G.edgesConnecting pg.graph r.source r.target).find? fun c =>
        c.weight.sourcePort == (pg.edgeRecord G r).fromPort &&
          c.weight.targetPort == (pg.edgeRecord G r).toPort).isSome :=
      List.find?_isSome.mpr ⟨r, chosen, by simp [edgeRecord]⟩
    obtain ⟨c, candidate⟩ := Option.isSome_iff_exists.mp candidates
    simp only [findEdge, fromFound, toFound, bind, Option.bind_some, candidate]
    rfl

/-- A new store edge between the slots of an edge's nodes, linking its ports, stands for the edge
inserted into the abstract graph. -/
theorem Represents.insertEdge {e : Edge} {i j : NodeIx} (fromFound : pg.nodeIds.get? e.fromNode = some i)
    (toFound : pg.nodeIds.get? e.toNode = some j) (fromLive : e.fromNode ∈ a.nodes)
    (toLive : e.toNode ∈ a.nodes) (absent : e ∉ a.edges) {k : EdgeIx} {s' : S}
    (added : G.addEdge pg.graph i j ⟨e.fromPort, e.toPort⟩ = (k, s')) :
    Represents G { pg with graph := s' } (a.insertEdge e fromLive toLive) := by
  obtain ⟨n, fromWeight, fromNamed⟩ := (h.nodeIds _ i).mp fromFound
  obtain ⟨m, toWeight, toNamed⟩ := (h.nodeIds _ j).mp toFound
  have sourceLive : (G.nodeWeight pg.graph i).isSome := by simp [fromWeight]
  have targetLive : (G.nodeWeight pg.graph j).isSome := by simp [toWeight]
  have refs := lawful.edgeReferences_addEdge added sourceLive targetLive
  have newRecord : pg.edgeRecord G ⟨k, i, j, ⟨e.fromPort, e.toPort⟩⟩ = e := by
    rw [edgeRecord_of_weights fromWeight toWeight, fromNamed, toNamed]
  have notOld : ∀ r ∈ G.edgeReferences pg.graph, r.source = i → r.target = j →
      r.weight = ⟨e.fromPort, e.toPort⟩ → False := by
    intro r old source target weight
    have sameRecord : pg.edgeRecord G r = e := by
      rw [← newRecord]
      exact edgeRecord_of_ends source target weight
    exact absent (sameRecord ▸ h.edges_mem r old)
  refine h.of_same_nodes rfl (lawful.nodeWeight_addEdge added sourceLive targetLive) rfl
    (fun r listed => ?_) (fun e' present => ?_) (fun r listed r' listed' => ?_)
  · rcases (refs r).mp listed with old | rfl
    · exact Finset.mem_insert_of_mem (h.edges_mem r old)
    · rw [newRecord]
      exact Finset.mem_insert_self e a.edges
  · rcases Finset.mem_insert.mp present with rfl | old
    · exact ⟨_, (refs _).mpr (.inr rfl), newRecord⟩
    · obtain ⟨r, listed, named⟩ := h.edges_cover e' old
      exact ⟨r, (refs r).mpr (.inl listed), named⟩
  · rcases (refs r).mp listed with old | rfl <;> rcases (refs r').mp listed' with old' | rfl
    · exact h.parallel r old r' old'
    · exact fun source target weight => (notOld r old source target weight).elim
    · exact fun source target weight => (notOld r' old' source.symm target.symm weight.symm).elim
    · exact fun _ _ _ => rfl

theorem Represents.addEdge (e : Edge) :
    ExceptRel (fun r s => r.1 = s.1 ∧ r.2.Represents G s.2) (pg.addEdge G e) (a.addEdge e) := by
  unfold PipelineGraph.addEdge AbsGraph.addEdge
  by_cases fromLive : e.fromNode ∈ a.nodes
  · obtain ⟨i, fromFound⟩ := Option.isSome_iff_exists.mp
      (show (pg.nodeIds.get? e.fromNode).isSome from (h.contains_iff _).mpr fromLive)
    rw [dif_pos fromLive]
    by_cases toLive : e.toNode ∈ a.nodes
    · obtain ⟨j, toFound⟩ := Option.isSome_iff_exists.mp
        (show (pg.nodeIds.get? e.toNode).isSome from (h.contains_iff _).mpr toLive)
      rw [dif_pos toLive]
      simp only [indexOf, fromFound, toFound, bind, Except.bind]
      by_cases present : e ∈ a.edges
      · rw [if_pos ((h.findEdge_isSome lawful e).mpr present), if_pos present]
        exact .ok ⟨rfl, h⟩
      · rw [if_neg (mt (h.findEdge_isSome lawful e).mp present), if_neg present]
        have added : G.addEdge pg.graph i j ⟨e.fromPort, e.toPort⟩ =
            ((G.addEdge pg.graph i j ⟨e.fromPort, e.toPort⟩).1,
              (G.addEdge pg.graph i j ⟨e.fromPort, e.toPort⟩).2) := rfl
        exact .ok ⟨rfl, h.insertEdge lawful fromFound toFound fromLive toLive present added⟩
    · rw [dif_neg toLive]
      simp only [indexOf, fromFound, h.get?_eq_none toLive, bind, Except.bind]
      exact .error _
  · rw [dif_neg fromLive]
    simp only [indexOf, h.get?_eq_none fromLive, bind, Except.bind]
    exact .error _

theorem Represents.removeEdge (e : Edge) :
    (pg.removeEdge G e).1 = (a.removeEdge e).1 ∧ (pg.removeEdge G e).2.Represents G (a.removeEdge e).2 := by
  unfold PipelineGraph.removeEdge AbsGraph.removeEdge
  rcases found : pg.findEdge G e with _ | k
  · have absent : e ∉ a.edges := fun present => by
      have some := (h.findEdge_isSome lawful e).mpr present
      rw [found] at some
      cases some
    exact ⟨by simp [absent], h.congr_abs rfl (Finset.erase_eq_of_notMem absent)⟩
  · obtain ⟨r, listed, named, rfl⟩ := h.findEdge_eq_some lawful found
    obtain ⟨⟨w, s'⟩, removed⟩ := Option.ne_none_iff_exists'.mp
      fun vacant => lawful.removeEdge_eq_none.mp vacant r listed named
    have refs := lawful.edgeReferences_removeEdge removed
    simp only [removed]
    refine ⟨by simp [h.edges_mem r listed], h.of_same_nodes rfl (lawful.nodeWeight_removeEdge removed) rfl
      (fun r' listed' => ?_) (fun e' present => ?_)
      (fun r₁ listed₁ r₂ listed₂ => h.parallel r₁ ((refs r₁).mp listed₁).1 r₂ ((refs r₂).mp listed₂).1)⟩
    · obtain ⟨old, other⟩ := (refs r').mp listed'
      refine Finset.mem_erase.mpr ⟨fun same => other ?_, h.edges_mem r' old⟩
      rw [h.record_inj lawful old listed same, named]
    · obtain ⟨other, present⟩ := Finset.mem_erase.mp present
      obtain ⟨r', old, rfl⟩ := h.edges_cover e' present
      exact ⟨r', (refs r').mpr ⟨old, fun same => other (by
        rw [ref_eq_of_id lawful old listed (same.trans named.symm)])⟩, rfl⟩

theorem Represents.updateNode (name : String) (f : NodeEdit) :
    (pg.updateNode G name f.apply).Represents G (a.updateNode name f) := by
  unfold PipelineGraph.updateNode
  rcases found : pg.nodeIds.get? name with _ | i
  · have lookup : a.nodes.lookup name = none := by
      rw [← h.node name, PipelineGraph.node, found]
      rfl
    unfold AbsGraph.updateNode
    rw [lookup]
    exact h
  · obtain ⟨n, weight, named⟩ := (h.nodeIds name i).mp found
    have weights := lawful.nodeWeight_update pg.graph i f.apply
    have names : ∀ k, (G.nodeWeight (G.updateNodeWeight pg.graph i f.apply) k).map Node.name =
        (G.nodeWeight pg.graph k).map Node.name := by
      intro k
      rw [weights]
      split
      · rename_i atSlot
        rw [atSlot, weight]
        simp [f.apply_name]
      · rfl
    refine h.of_same_edges (fun name' j => ?_) (fun name' => ?_) (lawful.edgeReferences_update _ _ _)
      (fun r _ => edgeRecord_congr names r) (AbsGraph.updateNode_edges a name f)
    · rw [h.nodeIds name' j, ← Option.map_eq_some_iff, ← Option.map_eq_some_iff, names]
    · rw [AbsGraph.lookup_updateNode, ← h.node name', PipelineGraph.node, PipelineGraph.node]
      by_cases atName : name' = name
      · rw [if_pos atName, atName, found, Option.bind_some, Option.bind_some, weights, if_pos rfl]
      · rw [if_neg atName]
        rcases found' : pg.nodeIds.get? name' with _ | j
        · rfl
        · obtain ⟨m, weight', named'⟩ := (h.nodeIds name' j).mp found'
          have apart : j ≠ i := by
            rintro rfl
            rw [weight, Option.some.injEq] at weight'
            exact atName (named'.symm.trans (weight' ▸ named))
          simp only [Option.bind_some, weights, if_neg apart]

end Operations

section Runs

/-- The pipeline graph after an operation; a refused operation leaves it as it was. -/
def applyOp (G : StableDiGraph S Node PortLink) (pg : PipelineGraph S) : GraphOp → PipelineGraph S
  | .addNode n => ((pg.addNode G n).toOption.map (·.2)).getD pg
  | .removeNode name => ((pg.removeNode G name).map (·.2)).getD pg
  | .addEdge e => ((pg.addEdge G e).toOption.map (·.2)).getD pg
  | .removeEdge e => (pg.removeEdge G e).2
  | .clear => pg.clear G
  | .updateNode name f => pg.updateNode G name f.apply

/-- The pipeline graph after a sequence of operations. -/
def run (G : StableDiGraph S Node PortLink) (pg : PipelineGraph S) (ops : List GraphOp) :
    PipelineGraph S :=
  ops.foldl (applyOp G) pg

variable (lawful : G.Lawful)
include lawful

/-- One operation keeps the pipeline graph standing for the abstract one. -/
theorem Represents.applyOp (h : pg.Represents G a) : ∀ op, (pg.applyOp G op).Represents G (a.applyOp op)
  | .addNode n => by
    have related := ((h.addNode lawful n).toOption.map fun {p q} (related : _ ∧ Represents G p.2 q) =>
      (related.2 : Represents G p.2 q)).getD h
    simpa only [Option.map_id', PipelineGraph.applyOp, AbsGraph.applyOp] using related
  | .removeNode name => ((h.removeNode lawful name).map (s := Represents G) fun related => related.2.2).getD h
  | .addEdge e => ((h.addEdge lawful e).toOption.map (s := Represents G) fun related => related.2).getD h
  | .removeEdge e => (h.removeEdge lawful e).2
  | .clear => represents_clear lawful pg
  | .updateNode name f => h.updateNode lawful name f

/-- A whole sequence of operations keeps the pipeline graph standing for the abstract one. -/
theorem Represents.run (h : pg.Represents G a) (ops : List GraphOp) :
    (pg.run G ops).Represents G (a.run ops) := by
  induction ops generalizing pg a with
  | nil => exact h
  | cons op rest ih => exact ih (h.applyOp lawful op)

end Runs

section Orders

open Relation

variable (lawful : G.Lawful) (h : pg.Represents G a)
include lawful h

omit lawful in
theorem Represents.name_unique {x y : String} {i : NodeIx} (found : pg.nodeIds.get? x = some i)
    (found' : pg.nodeIds.get? y = some i) : x = y := by
  obtain ⟨n, weight, rfl⟩ := (h.nodeIds x i).mp found
  exact (h.name_eq_iff weight y).mpr found'

theorem Represents.mem_nodes (n : Node) : n ∈ pg.nodes G ↔ a.nodes.lookup n.name = some n := by
  rw [PipelineGraph.nodes, StableDiGraph.nodeWeights, List.mem_filterMap, ← h.node n.name,
    PipelineGraph.node]
  constructor
  · rintro ⟨i, -, weight⟩
    rw [(h.name_eq_iff weight n.name).mp rfl, Option.bind_some, weight]
  · intro found
    rcases ids : pg.nodeIds.get? n.name with _ | i
    · rw [ids] at found
      cases found
    · rw [ids, Option.bind_some] at found
      exact ⟨i, (lawful.mem_nodeIndices _ i).mpr (by simp [found]), found⟩

theorem Represents.nodes_nodup : (pg.nodes G).Nodup := by
  refine List.Nodup.filterMap ?_ (lawful.nodeIndices_nodup _)
  intro i j n first second
  exact h.slot_unique first second rfl

/-- The store keeps the nodes of a graph that stands for the same abstract graph, each once. -/
theorem Represents.nodes_perm {g : Graph} (graphAgrees : g.Represents a) : (pg.nodes G).Perm g.nodeList := by
  have names : ∀ {k n}, g.node? k = some n → n.name = k := fun found => graphAgrees.name_eq found
  have listedOnce : g.nodeList.Nodup :=
    List.Nodup.of_map Node.name (by rw [Graph.nodeList_names names]; exact Table.keys_nodup _)
  refine (List.perm_ext_iff_of_nodup (h.nodes_nodup lawful) listedOnce).mpr fun n => ?_
  rw [h.mem_nodes lawful, Graph.mem_nodeList_iff names, graphAgrees.node?]

/-- An edge of the graph leads from one name to another exactly when a store edge leads from the
first name's slot to the second's. -/
theorem Represents.feeds_iff {g : Graph} (graphAgrees : g.Represents a) {x y : String} :
    g.Feeds x y ↔ ∃ i j, pg.nodeIds.get? x = some i ∧ pg.nodeIds.get? y = some j ∧
      Kahn.Feeds (G.links pg.graph) i j := by
  constructor
  · rintro ⟨edge, listed, rfl, rfl⟩
    obtain ⟨r, ref, rfl⟩ := h.edges_cover edge ((graphAgrees.edges.2 edge).mp listed)
    exact ⟨r.source, r.target, (h.fromNode_eq_iff lawful ref _).mp rfl,
      (h.toNode_eq_iff lawful ref _).mp rfl, List.mem_map_of_mem ref⟩
  · rintro ⟨i, j, fromFound, toFound, link⟩
    obtain ⟨r, ref, same⟩ := List.mem_map.mp link
    simp only [Prod.mk.injEq] at same
    obtain ⟨rfl, rfl⟩ := same
    exact ⟨pg.edgeRecord G r, (graphAgrees.edges.2 _).mpr (h.edges_mem r ref),
      (h.fromNode_eq_iff lawful ref x).mpr fromFound, (h.toNode_eq_iff lawful ref y).mpr toFound⟩

theorem Represents.slots_of_path {g : Graph} (graphAgrees : g.Represents a) {x y : String}
    (path : TransGen g.Feeds x y) : ∃ i j, pg.nodeIds.get? x = some i ∧ pg.nodeIds.get? y = some j ∧
      TransGen (Kahn.Feeds (G.links pg.graph)) i j := by
  induction path with
  | single step =>
    obtain ⟨i, j, fromFound, toFound, link⟩ := (h.feeds_iff lawful graphAgrees).mp step
    exact ⟨i, j, fromFound, toFound, .single link⟩
  | tail _ step ih =>
    obtain ⟨i, j, fromFound, midFound, path⟩ := ih
    obtain ⟨j', k, midFound', toFound, link⟩ := (h.feeds_iff lawful graphAgrees).mp step
    rw [midFound] at midFound'
    cases midFound'
    exact ⟨i, k, fromFound, toFound, path.tail link⟩

theorem Represents.names_of_path {g : Graph} (graphAgrees : g.Represents a) {i j : NodeIx}
    (path : TransGen (Kahn.Feeds (G.links pg.graph)) i j) : ∃ x y, pg.nodeIds.get? x = some i ∧
      pg.nodeIds.get? y = some j ∧ TransGen g.Feeds x y := by
  have named : ∀ {i j}, Kahn.Feeds (G.links pg.graph) i j →
      ∃ x y, pg.nodeIds.get? x = some i ∧ pg.nodeIds.get? y = some j ∧ g.Feeds x y := by
    intro i j link
    obtain ⟨r, ref, same⟩ := List.mem_map.mp link
    simp only [Prod.mk.injEq] at same
    obtain ⟨rfl, rfl⟩ := same
    obtain ⟨n, m, source, target⟩ := live_ends lawful ref
    have fromFound := (h.name_eq_iff source n.name).mp rfl
    have toFound := (h.name_eq_iff target m.name).mp rfl
    exact ⟨n.name, m.name, fromFound, toFound, (h.feeds_iff lawful graphAgrees).mpr ⟨_, _, fromFound, toFound, link⟩⟩
  induction path with
  | single link =>
    obtain ⟨x, y, fromFound, toFound, step⟩ := named link
    exact ⟨x, y, fromFound, toFound, .single step⟩
  | tail _ link ih =>
    obtain ⟨x, y, fromFound, midFound, path⟩ := ih
    obtain ⟨y', z, midFound', toFound, step⟩ := named link
    rw [h.name_unique midFound' midFound] at step
    exact ⟨x, z, fromFound, toFound, path.tail step⟩

theorem Represents.hasCycle_iff {g : Graph} (graphAgrees : g.Represents a) : g.HasCycle ↔ G.HasCycle pg.graph := by
  constructor
  · rintro ⟨x, cycle⟩
    obtain ⟨i, j, found, found', path⟩ := h.slots_of_path lawful graphAgrees cycle
    rw [found] at found'
    cases found'
    exact ⟨i, path⟩
  · rintro ⟨i, cycle⟩
    obtain ⟨x, y, found, found', path⟩ := h.names_of_path lawful graphAgrees cycle
    rw [h.name_unique found' found] at path
    exact ⟨x, path⟩

/-- The store's topological sort and slot order meet the export's contract for every graph that
stands for the same abstract graph. -/
theorem Represents.orders_lawful {g : Graph} (graphAgrees : g.Represents a) : (pg.orders G).Lawful g := by
  refine ⟨h.nodes_perm lawful graphAgrees, fun acyclic => ?_, fun cyclic => ?_⟩
  · obtain ⟨order, sorted, topological⟩ :=
      lawful.toposort_acyclic pg.graph (mt (h.hasCycle_iff lawful graphAgrees).mpr acyclic)
    refine ⟨(order.filterMap (G.nodeWeight pg.graph)).map Node.name,
      by simp [orders, executionOrder, sorted], ?_, fun edge listed => ?_⟩
    · have names := ((topological.perm.filterMap _).trans (h.nodes_perm lawful graphAgrees)).map Node.name
      rwa [Graph.nodeList_names fun found => graphAgrees.name_eq found] at names
    · obtain ⟨r, ref, rfl⟩ := h.edges_cover edge ((graphAgrees.edges.2 edge).mp listed)
      obtain ⟨n, m, source, target⟩ := live_ends lawful ref
      have pair := ((topological.forward r ref).filterMap (G.nodeWeight pg.graph)).map Node.name
      simp only [List.filterMap_cons, source, target, List.filterMap_nil, List.map_cons,
        List.map_nil] at pair
      rw [edgeRecord_of_weights source target]
      exact pair
  · obtain ⟨i, failed⟩ := lawful.toposort_cyclic pg.graph ((h.hasCycle_iff lawful graphAgrees).mp cyclic)
    simp [orders, executionOrder, failed]

end Orders

/-- What a pipeline graph answers against an abstract graph: it stands for it, the slot under each
name holds the node of that name, adding and removing nodes and edges answer as there, and the
edge queries list exactly the abstract edges they select, each once. -/
structure Refines (G : StableDiGraph S Node PortLink) (pg : PipelineGraph S) (a : AbsGraph) : Prop where
  represents : pg.Represents G a
  nodeIds : ∀ name i, pg.nodeIds.get? name = some i ↔
    ∃ n, G.nodeWeight pg.graph i = some n ∧ n.name = name
  addNode : ∀ n, ExceptRel (fun r s => G.nodeWeight r.2.graph r.1 = some n ∧ r.2.Represents G s)
    (pg.addNode G n) (a.addNode n)
  addEdge : ∀ e, ExceptRel (fun r s => r.1 = s.1 ∧ r.2.Represents G s.2) (pg.addEdge G e) (a.addEdge e)
  removeNode : ∀ name, Option.Rel (fun r s => r.1.1 = s.1 ∧ ListsOnce r.1.2 s.2.1 ∧ r.2.Represents G s.2.2)
    (pg.removeNode G name) (a.removeNode name)
  removeEdge : ∀ e, (pg.removeEdge G e).1 = (a.removeEdge e).1 ∧
    (pg.removeEdge G e).2.Represents G (a.removeEdge e).2
  contains : ∀ name, pg.contains name = true ↔ name ∈ a.nodes
  node : ∀ name, pg.node G name = a.nodes.lookup name
  edges : ListsOnce (pg.edges G) a.edges
  incidentEdges : ∀ name, ListsOnce (pg.incidentEdges G name) (a.incident name)
  outgoingEdges : ∀ name, ListsOnce (pg.outgoingEdges G name) (a.outgoing name)
  edgesAtPort : ∀ p, ListsOnce (pg.edgesAtPort G p) (a.atPort p)
  isPortConnected : ∀ p, pg.isPortConnected G p = true ↔ (a.atPort p).Nonempty

theorem Represents.refines (lawful : G.Lawful) (h : pg.Represents G a) : pg.Refines G a :=
  ⟨h, h.nodeIds, h.addNode lawful, h.addEdge lawful, h.removeNode lawful, h.removeEdge lawful,
    h.contains_iff, h.node, h.edges lawful, h.incidentEdges lawful, h.outgoingEdges lawful,
    h.edgesAtPort lawful, h.isPortConnected lawful⟩

/-- Over any lawful stable store, along every sequence of operations from the empty graph, the
pipeline graph refines the abstract graph. -/
theorem pipelineGraph_refines_abstract_graph (lawful : G.Lawful) (ops : List GraphOp) :
    ((new G).run G ops).Refines G (AbsGraph.empty.run ops) :=
  ((represents_new lawful).run lawful ops).refines lawful

/-- Along every sequence of operations, the stored graph the editor keeps and the pipeline graph
over any lawful store hold the same node under each name and the same edges, and the store's orders
meet the export's contract for the stored graph. -/
theorem stored_graph_agrees_with_store (lawful : G.Lawful) (ops : List GraphOp) :
    (∀ name, ((new G).run G ops).node G name = (Graph.empty.run ops).node? name) ∧
      (((new G).run G ops).edges G).Perm (Graph.empty.run ops).edges ∧
      (((new G).run G ops).orders G).Lawful (Graph.empty.run ops) := by
  have h := (represents_new lawful).run lawful ops
  have graphAgrees := Graph.represents_empty.run ops
  exact ⟨fun name => (h.node name).trans (graphAgrees.node? name).symm, (h.edges lawful).perm graphAgrees.edges,
    h.orders_lawful lawful graphAgrees⟩

/-- A node of the package `pkg.P` at the origin. -/
def plainNode (name : String) : Node := ⟨name, "pkg.P", Position.origin, false⟩

/-- Two nodes, a link between them and a loop on the second, then the first removed and a third
node added in its freed slot. -/
def slotReuseRun : List GraphOp :=
  [.addNode (plainNode "a"), .addNode (plainNode "b"), .addEdge ⟨"a", "out", "b", "in"⟩,
    .addEdge ⟨"b", "out", "b", "in"⟩, .removeNode "a", .addNode (plainNode "c"),
    .addEdge ⟨"c", "out", "b", "in"⟩]

theorem pipelineGraph_refines_abstract_graph_slots :
    (SlotGraph.store : StableDiGraph (SlotGraph Node PortLink) Node PortLink).Lawful ∧
      ((new SlotGraph.store).run SlotGraph.store slotReuseRun).Refines SlotGraph.store
        (AbsGraph.empty.run slotReuseRun) :=
  ⟨SlotGraph.store_lawful, pipelineGraph_refines_abstract_graph SlotGraph.store_lawful slotReuseRun⟩

end PipelineGraph

end PipelineEditor
