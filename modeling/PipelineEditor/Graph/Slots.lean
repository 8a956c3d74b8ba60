import PipelineEditor.Graph.Store

/-!
A stable graph store kept in lists of slots: a vacant slot holds nothing, and a new node or edge
takes the first vacant slot, or a new one at the end.
-/

namespace PipelineEditor

namespace Slots

variable {α : Type}

/-- What slot `k` holds, if it exists and is taken. -/
def get (l : List (Option α)) (k : Nat) : Option α := l[k]?.join

/-- The first vacant slot, or the next new one. -/
def vacant (l : List (Option α)) : Nat := (l.findIdx? Option.isNone).getD l.length

/-- The slots with `x` in the first vacant one, or in a new one at the end. -/
def place (l : List (Option α)) (x : α) : List (Option α) :=
  match l.findIdx? Option.isNone with
  | some k => l.set k (some x)
  | none => l ++ [some x]

/-- The taken slots, in order. -/
def taken (l : List (Option α)) : List Nat := (List.range l.length).filter fun k => (get l k).isSome

theorem get_place (l : List (Option α)) (x : α) (k : Nat) :
    get (place l x) k = if k = vacant l then some x else get l k := by
  unfold place vacant get
  rcases found : l.findIdx? Option.isNone with _ | v
  · rw [Option.getD_none]
    by_cases atEnd : k = l.length
    · subst atEnd
      simp
    · rw [if_neg atEnd, List.getElem?_append]
      split
      · rfl
      · rename_i beyond
        rw [List.getElem?_eq_none (show [some x].length ≤ k - l.length by simp; omega),
          List.getElem?_eq_none (show l.length ≤ k by omega)]
  · have inside : v < l.length := (List.findIdx?_eq_some_iff_getElem.mp found).1
    rw [Option.getD_some, List.getElem?_set]
    by_cases atV : k = v
    · subst atV
      simp [inside]
    · rw [if_neg (Ne.symm atV), if_neg atV]

theorem get_vacant (l : List (Option α)) : get l (vacant l) = none := by
  unfold vacant get
  rcases found : l.findIdx? Option.isNone with _ | v
  · simp
  · obtain ⟨inside, isNone, -⟩ := List.findIdx?_eq_some_iff_getElem.mp found
    rw [Option.getD_some, List.getElem?_eq_getElem inside, Option.join_some]
    exact Option.isNone_iff_eq_none.mp isNone

theorem get_set_none (l : List (Option α)) (k j : Nat) :
    get (l.set k none) j = if j = k then none else get l j := by
  unfold get
  rw [List.getElem?_set]
  by_cases atK : j = k
  · subst atK
    rw [if_pos rfl, if_pos rfl]
    split <;> rfl
  · rw [if_neg (Ne.symm atK), if_neg atK]

theorem get_modify (l : List (Option α)) (k : Nat) (f : α → α) (j : Nat) :
    get (l.modify k (Option.map f)) j = if j = k then (get l j).map f else get l j := by
  unfold get
  rw [List.getElem?_modify]
  cases l[j]? with
  | none => simp
  | some slot =>
    by_cases atK : j = k
    · simp [atK]
    · simp [atK, Ne.symm atK]

theorem get_map_filter (l : List (Option α)) (keep : α → Bool) (j : Nat) :
    get (l.map (Option.filter keep)) j = (get l j).filter keep := by
  unfold get
  rw [List.getElem?_map]
  cases l[j]? with
  | none => rfl
  | some slot => rfl

theorem isSome_get_place {l : List (Option α)} {k : Nat} (x : α) (live : (get l k).isSome) :
    (get (place l x) k).isSome := by
  rw [get_place]
  split <;> simp [live]

theorem lt_length_of_isSome {l : List (Option α)} {k : Nat} (live : (get l k).isSome) : k < l.length := by
  unfold get at live
  rcases lookup : l[k]? with _ | slot
  · rw [lookup] at live
    cases live
  · obtain ⟨inside, -⟩ := List.getElem?_eq_some_iff.mp lookup
    exact inside

theorem mem_taken {l : List (Option α)} {k : Nat} : k ∈ taken l ↔ (get l k).isSome := by
  unfold taken
  rw [List.mem_filter, List.mem_range]
  exact ⟨fun ⟨_, live⟩ => live, fun live => ⟨lt_length_of_isSome live, live⟩⟩

theorem taken_nodup (l : List (Option α)) : (taken l).Nodup := (List.nodup_range).filter _

end Slots

/-- A stable store in slot lists, whose edges join taken node slots. -/
structure SlotGraph (N E : Type) where
  nodes : List (Option N)
  edges : List (Option (NodeIx × NodeIx × E))
  ends_live : ∀ j a b w, Slots.get edges j = some (a, b, w) →
    (Slots.get nodes a.index).isSome ∧ (Slots.get nodes b.index).isSome

namespace SlotGraph

variable {N E : Type}

def empty : SlotGraph N E where
  nodes := []
  edges := []
  ends_live _ _ _ _ none_taken := by cases none_taken

def nodeWeight (s : SlotGraph N E) (i : NodeIx) : Option N := Slots.get s.nodes i.index

/-- A new node in the first vacant slot. -/
def addNode (s : SlotGraph N E) (w : N) : NodeIx × SlotGraph N E :=
  (⟨Slots.vacant s.nodes⟩,
    { nodes := Slots.place s.nodes w
      edges := s.edges
      ends_live := fun j a b w' edge =>
        (s.ends_live j a b w' edge).imp (Slots.isSome_get_place w) (Slots.isSome_get_place w) })

/-- Whether an edge keeps clear of a node. -/
def clearOf (i : NodeIx) (edge : NodeIx × NodeIx × E) : Bool := edge.1 != i && edge.2.1 != i

theorem clearOf_eq_true {i : NodeIx} {edge : NodeIx × NodeIx × E} :
    clearOf i edge = true ↔ edge.1 ≠ i ∧ edge.2.1 ≠ i := by
  simp [clearOf]

/-- The store without the node of a slot and the edges at it. -/
def withoutNode (s : SlotGraph N E) (i : NodeIx) : SlotGraph N E where
  nodes := s.nodes.set i.index none
  edges := s.edges.map (Option.filter (clearOf i))
  ends_live j a b w edge := by
    rw [Slots.get_map_filter, Option.filter_eq_some_iff] at edge
    obtain ⟨edge, clear⟩ := edge
    obtain ⟨sourceClear, targetClear⟩ := clearOf_eq_true.mp clear
    obtain ⟨sourceLive, targetLive⟩ := s.ends_live j a b w edge
    have sourceIndex : a.index ≠ i.index := fun same => sourceClear (by cases a; cases i; simp_all)
    have targetIndex : b.index ≠ i.index := fun same => targetClear (by cases b; cases i; simp_all)
    rw [Slots.get_set_none, Slots.get_set_none, if_neg sourceIndex, if_neg targetIndex]
    exact ⟨sourceLive, targetLive⟩

def removeNode (s : SlotGraph N E) (i : NodeIx) : Option (N × SlotGraph N E) :=
  (s.nodeWeight i).map fun w => (w, s.withoutNode i)

def updateNodeWeight (s : SlotGraph N E) (i : NodeIx) (f : N → N) : SlotGraph N E where
  nodes := s.nodes.modify i.index (Option.map f)
  edges := s.edges
  ends_live j a b w edge := by
    rw [Slots.get_modify, Slots.get_modify]
    obtain ⟨sourceLive, targetLive⟩ := s.ends_live j a b w edge
    constructor <;> split <;> simp [sourceLive, targetLive]

def nodeIndices (s : SlotGraph N E) : List NodeIx := (Slots.taken s.nodes).map NodeIx.mk

/-- A new edge in the first vacant slot, between taken slots. -/
def addEdge (s : SlotGraph N E) (a b : NodeIx) (w : E) : EdgeIx × SlotGraph N E :=
  if live : (s.nodeWeight a).isSome ∧ (s.nodeWeight b).isSome then
    (⟨Slots.vacant s.edges⟩,
      { nodes := s.nodes
        edges := Slots.place s.edges (a, b, w)
        ends_live := fun j a' b' w' edge => by
          rw [Slots.get_place] at edge
          split at edge
          · cases edge
            exact live
          · exact s.ends_live j a' b' w' edge })
  else (⟨Slots.vacant s.edges⟩, s)

def withoutEdge (s : SlotGraph N E) (j : EdgeIx) : SlotGraph N E where
  nodes := s.nodes
  edges := s.edges.set j.index none
  ends_live k a b w edge := by
    rw [Slots.get_set_none] at edge
    split at edge
    · cases edge
    · exact s.ends_live k a b w edge

def removeEdge (s : SlotGraph N E) (j : EdgeIx) : Option (E × SlotGraph N E) :=
  (Slots.get s.edges j.index).map fun edge => (edge.2.2, s.withoutEdge j)

/-- The edges in slot order. -/
def edgeReferences (s : SlotGraph N E) : List (EdgeRef E) :=
  (List.range s.edges.length).filterMap fun k =>
    (Slots.get s.edges k).map fun edge => ⟨⟨k⟩, edge.1, edge.2.1, edge.2.2⟩

def edgesDirected (s : SlotGraph N E) (i : NodeIx) (d : EdgeDirection) : List (EdgeRef E) :=
  s.edgeReferences.filter (·.endpoint d == i)

def edgesConnecting (s : SlotGraph N E) (a b : NodeIx) : List (EdgeRef E) :=
  s.edgeReferences.filter fun r => r.source == a && r.target == b

/-- Kahn's sort of the taken slots; a cycle is reported at the first taken slot. -/
def toposort (s : SlotGraph N E) : Except NodeIx (List NodeIx) :=
  match Kahn.sort (s.edgeReferences.map fun r => (r.source, r.target)) s.nodeIndices with
  | some order => .ok order
  | none => .error (s.nodeIndices.headD default)

/-- The slot lists as a stable store. -/
def store : StableDiGraph (SlotGraph N E) N E where
  empty := empty
  addNode := addNode
  removeNode := removeNode
  nodeWeight := nodeWeight
  updateNodeWeight := updateNodeWeight
  nodeIndices := nodeIndices
  addEdge := addEdge
  removeEdge := removeEdge
  edgeReferences := edgeReferences
  edgesDirected := edgesDirected
  edgesConnecting := edgesConnecting
  toposort := toposort
  clear _ := empty

end SlotGraph

end PipelineEditor
