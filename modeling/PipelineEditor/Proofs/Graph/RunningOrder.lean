import Mathlib.Data.Fintype.Card
import Mathlib.Data.Fintype.EquivFin
import Mathlib.Data.Fintype.Sets
import Mathlib.Order.WellFounded
import Mathlib.Logic.Relation
import PipelineEditor.Graph.Order

/-!
Kahn's sort gives a running order exactly when no links close a cycle, so the orders read off a
graph by name meet the store's contract.
-/

namespace PipelineEditor

namespace Kahn

open Relation

variable {α : Type} [DecidableEq α] {links : List (α × α)}

theorem entered_eq_true {pending : List α} {x : α} :
    entered links pending x = true ↔ ∃ l ∈ links, l.2 = x ∧ l.1 ∈ pending := by
  simp [entered]

/-- Taking a node that no pending node enters puts it before every pending node it leads to. -/
theorem RunsForward.cons {pending rest : List α} {next : α}
    (free : entered links pending next = false) (perm : rest.Perm (pending.erase next))
    (forward : RunsForward links (pending.erase next) rest) :
    RunsForward links pending (next :: rest) := by
  intro l link sourcePending targetPending
  have targetNe : l.2 ≠ next := by
    rintro targetEq
    have entersNext := entered_eq_true.mpr ⟨l, link, targetEq, sourcePending⟩
    rw [free] at entersNext
    cases entersNext
  have targetLeft : l.2 ∈ pending.erase next := (List.mem_erase_of_ne targetNe).mpr targetPending
  by_cases sourceEq : l.1 = next
  · rw [sourceEq]
    exact (List.singleton_sublist.mpr (perm.mem_iff.mpr targetLeft)).cons_cons next
  · exact (forward l link ((List.mem_erase_of_ne sourceEq).mpr sourcePending) targetLeft).cons next

/-- A run that answers lists the nodes taken before it, then the pending nodes, each once, every
link between two of them running forward. -/
theorem sortFrom_eq_some {order : List α} :
    ∀ {fuel pending done}, sortFrom links fuel pending done = some order →
      ∃ rest, order = done.reverse ++ rest ∧ rest.Perm pending ∧ RunsForward links pending rest := by
  have finish : ∀ {pending done : List α},
      (if pending.isEmpty then some done.reverse else none) = some order →
      ∃ rest, order = done.reverse ++ rest ∧ rest.Perm pending ∧ RunsForward links pending rest := by
    intro pending done answered
    split at answered
    · rename_i empty
      rw [List.isEmpty_iff.mp empty]
      cases answered
      exact ⟨[], by simp, .nil, fun _ _ sourcePending => absurd sourcePending List.not_mem_nil⟩
    · cases answered
  intro fuel
  induction fuel with
  | zero => exact fun answered => finish answered
  | succ fuel ih =>
    intro pending done answered
    rw [sortFrom] at answered
    split at answered
    · exact finish answered
    · rename_i next found
      have pendingNext := List.mem_of_find?_eq_some found
      have free : entered links pending next = false := by simpa using List.find?_some found
      obtain ⟨rest, rfl, perm, forward⟩ := ih answered
      refine ⟨next :: rest, by simp, ?_, forward.cons free perm⟩
      exact (perm.cons next).trans (List.perm_cons_erase pendingNext).symm

/-- A sort that answers lists the nodes, each once, every link between two of them running
forward. -/
theorem sort_eq_some {nodes order : List α} (sorted : sort links nodes = some order) :
    order.Perm nodes ∧ RunsForward links nodes order := by
  obtain ⟨rest, orderEq, perm, forward⟩ := sortFrom_eq_some sorted
  rw [List.reverse_nil, List.nil_append] at orderEq
  subst orderEq
  exact ⟨perm, forward⟩

/-- Without a cycle, some pending node is entered by no link from a pending node. -/
theorem exists_not_entered (acyclic : ¬ Cyclic links) {pending : List α} (nonempty : pending ≠ []) :
    ∃ x ∈ pending, entered links pending x = false := by
  by_contra allEntered
  push Not at allEntered
  -- "leads to" is a strict order on the pending nodes, so some pending node is least under it
  let leads : {x // x ∈ pending} → {x // x ∈ pending} → Prop := fun a b => TransGen (Feeds links) a.1 b.1
  have : IsTrans _ leads := ⟨fun _ _ _ ab bc => ab.trans bc⟩
  have : Std.Irrefl leads := ⟨fun a cycle => acyclic ⟨a.1, cycle⟩⟩
  obtain ⟨x, pendingX⟩ := List.exists_mem_of_ne_nil pending nonempty
  obtain ⟨least, -, isLeast⟩ :=
    (Finite.wellFounded_of_trans_of_irrefl leads).has_min Set.univ ⟨⟨x, pendingX⟩, trivial⟩
  obtain ⟨l, link, target, source⟩ := entered_eq_true.mp (by simpa using allEntered least.1 least.2)
  exact isLeast ⟨l.1, source⟩ trivial (TransGen.single (by rw [Feeds, ← target]; exact link))

/-- Without a cycle, a run with a round for every pending node answers. -/
theorem sortFrom_isSome (acyclic : ¬ Cyclic links) :
    ∀ {fuel pending done}, pending.length ≤ fuel → (sortFrom links fuel pending done).isSome := by
  intro fuel
  induction fuel with
  | zero =>
    intro pending done short
    rw [List.length_eq_zero_iff.mp (Nat.le_zero.mp short)]
    rfl
  | succ fuel ih =>
    intro pending done short
    rw [sortFrom]
    split
    · rename_i none_found
      rcases pending with _ | ⟨x, rest⟩
      · rfl
      · obtain ⟨y, pendingY, free⟩ := exists_not_entered acyclic (List.cons_ne_nil x rest)
        have notFree := List.find?_eq_none.mp none_found y pendingY
        simp [free] at notFree
    · rename_i next found
      apply ih
      rw [List.length_erase_of_mem (List.mem_of_find?_eq_some found)]
      omega

theorem sort_isSome (acyclic : ¬ Cyclic links) (nodes : List α) : (sort links nodes).isSome :=
  sortFrom_isSome acyclic le_rfl

/-- In a list without repeats, a pair kept in order stands at increasing positions. -/
theorem idxOf_lt_of_pair_sublist {a b : α} :
    ∀ {l : List α}, l.Nodup → [a, b].Sublist l → l.idxOf a < l.idxOf b
  | [], _, pair => absurd (pair.subset List.mem_cons_self) List.not_mem_nil
  | x :: rest, nodup, pair => by
    obtain ⟨fresh, restNodup⟩ := List.nodup_cons.mp nodup
    cases pair with
    | cons _ pair =>
      have aNe : a ≠ x := fun aEq => fresh (aEq ▸ pair.subset List.mem_cons_self)
      have bNe : b ≠ x := fun bEq => fresh (bEq ▸ pair.subset (by simp))
      rw [List.idxOf_cons_ne rest aNe.symm, List.idxOf_cons_ne rest bNe.symm]
      exact Nat.succ_lt_succ (idxOf_lt_of_pair_sublist restNodup pair)
    | cons_cons _ pair =>
      have bNe : b ≠ a := fun bEq => fresh (bEq ▸ List.singleton_sublist.mp pair)
      rw [List.idxOf_cons_self, List.idxOf_cons_ne rest bNe.symm]
      exact Nat.succ_pos _

/-- An order of distinct nodes in which every link runs forward leaves no cycle among them. -/
theorem not_cyclic_of_runsForward {nodes order : List α} (nodup : order.Nodup)
    (ends : ∀ l ∈ links, l.1 ∈ nodes ∧ l.2 ∈ nodes) (forward : RunsForward links nodes order) :
    ¬ Cyclic links := by
  have step : ∀ {a b}, Feeds links a b → order.idxOf a < order.idxOf b := by
    intro a b link
    exact idxOf_lt_of_pair_sublist nodup
      (forward (a, b) link (ends (a, b) link).1 (ends (a, b) link).2)
  rintro ⟨x, cycle⟩
  have path : ∀ {a b}, TransGen (Feeds links) a b → order.idxOf a < order.idxOf b := by
    intro a b leads
    induction leads with
    | single link => exact step link
    | tail _ link ih => exact ih.trans (step link)
  exact absurd (path cycle) (Nat.lt_irrefl _)

/-- When every link joins two of the distinct nodes, a cycle leaves no order. -/
theorem sort_of_cyclic {nodes : List α} (nodup : nodes.Nodup)
    (ends : ∀ l ∈ links, l.1 ∈ nodes ∧ l.2 ∈ nodes) (cyclic : Cyclic links) : sort links nodes = none := by
  rcases sorted : sort links nodes with _ | order
  · rfl
  · obtain ⟨perm, forward⟩ := sort_eq_some sorted
    exact absurd cyclic (not_cyclic_of_runsForward (perm.nodup_iff.mpr nodup) ends forward)

end Kahn

namespace Graph

theorem feeds_eq_links (g : Graph) : g.Feeds = Kahn.Feeds g.links := by
  funext a b
  simp [Feeds, Kahn.Feeds, links]

theorem hasCycle_iff_cyclic (g : Graph) : g.HasCycle ↔ Kahn.Cyclic g.links := by
  rw [HasCycle, Kahn.Cyclic, feeds_eq_links]

/-- When every edge joins two nodes of the graph, the orders read off it by name meet the store's
contract. -/
theorem nameOrders_lawful {g : Graph}
    (ends : ∀ edge ∈ g.edges, edge.fromNode ∈ g.nodes.keys ∧ edge.toNode ∈ g.nodes.keys) :
    g.nameOrders.Lawful g := by
  have linkEnds : ∀ l ∈ g.links, l.1 ∈ g.nodes.keys ∧ l.2 ∈ g.nodes.keys := by
    intro l link
    obtain ⟨edge, edgeMem, rfl⟩ := List.mem_map.mp link
    exact ends edge edgeMem
  refine ⟨List.Perm.refl _, fun acyclic => ?_, fun cyclic => ?_⟩
  · obtain ⟨order, sorted⟩ := Option.isSome_iff_exists.mp
      (Kahn.sort_isSome (mt (hasCycle_iff_cyclic g).mpr acyclic) g.nodes.keys)
    obtain ⟨perm, forward⟩ := Kahn.sort_eq_some sorted
    refine ⟨order, by simp [nameOrders, sorted], perm, fun edge edgeMem => ?_⟩
    exact forward (edge.fromNode, edge.toNode) (List.mem_map_of_mem edgeMem) (ends edge edgeMem).1
      (ends edge edgeMem).2
  · simp [nameOrders,
      Kahn.sort_of_cyclic (Table.keys_nodup _) linkEnds ((hasCycle_iff_cyclic g).mp cyclic)]

end Graph

namespace StoreOrders.Lawful

variable {o : StoreOrders} {g : Graph}

/-- A lawful store that gives a running order was given a graph without cycles, and the order is
a running order of it. -/
theorem of_ok (lawful : o.Lawful g) {order : List String} (sorted : o.runningOrder = .ok order) :
    ¬ g.HasCycle ∧ g.IsRunningOrder order := by
  by_cases cycle : g.HasCycle
  · rw [lawful.cyclic cycle] at sorted
    cases sorted
  · obtain ⟨order', sorted', running⟩ := lawful.acyclic cycle
    rw [sorted] at sorted'
    cases sorted'
    exact ⟨cycle, running⟩

theorem of_error (lawful : o.Lawful g) {err : EditorError} (failed : o.runningOrder = .error err) :
    g.HasCycle := by
  by_contra acyclic
  obtain ⟨order, sorted, -⟩ := lawful.acyclic acyclic
  rw [failed] at sorted
  cases sorted

theorem storage_names (lawful : o.Lawful g) (names : ∀ {k n}, g.node? k = some n → n.name = k) :
    (o.storage.map Node.name).Perm g.nodes.keys :=
  Graph.nodeList_names names ▸ lawful.storage.map Node.name

end StoreOrders.Lawful

end PipelineEditor
