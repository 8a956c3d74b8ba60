import PipelineEditor.Proofs.Commands.Connect
import PipelineEditor.Proofs.Snapshot.Load

/-! The ports offered as targets for a port are exactly those connecting accepts. -/

namespace PipelineEditor

/-- A port's type is what the port table of its side holds under its name. -/
theorem NodeStructure.portType?_eq (s : NodeStructure) (port : String) (d : Direction) :
    s.portType? port d = (s.ports d).get? port := by
  cases d <;> rfl

namespace Editor

variable {e : Editor}

/-- Connecting succeeds exactly when the edge it would add may stand in the editor. -/
theorem connect_ok_iff_edgeFits {a p b q : String} :
    (∃ edge e', (connect a p b q).run e = .ok edge e') ↔ e.EdgeFits ⟨a, p, b, q⟩ := by
  constructor
  · rintro ⟨edge, e', ran⟩
    obtain ⟨rfl, apart, typed, -⟩ := connect_run_eq_ok ran
    exact ⟨apart, typed⟩
  · intro fits
    exact ⟨_, _, connect_run_of_edgeFits fits⟩

/-- Listing the targets of a port fails exactly as looking up the port's type does. -/
theorem compatiblePorts_eq_error_iff {r : PortRef} {err : EditorError} :
    e.compatiblePorts r = .error err ↔ e.portType r = .error err := by
  unfold compatiblePorts
  cases e.portType r <;> simp [bind, Except.bind, pure, Except.pure]

/-- The targets of a port whose type is known: for each other node of a known package, the ports
on the other side whose types fit. -/
theorem compatiblePorts_eq_ok {r : PortRef} {t : PortType} (typed : e.portType r = .ok t) :
    e.compatiblePorts r = .ok ((e.graph.nodeList.filter (·.name != r.node)).flatMap fun n =>
      match e.catalog.get? n.package with
      | none => []
      | some s => (s.ports r.direction.opposite).entries.filterMap fun (port, candidate) =>
        if t.compatible candidate then some ⟨n.name, port, r.direction.opposite⟩ else none) := by
  rw [compatiblePorts, typed]
  rfl

section StoredUnderNames

variable (named : ∀ {k n}, e.node? k = some n → n.name = k)
include named

/-- Nodes stored under their names have pairwise different names. -/
theorem nodeList_pairwise_name_ne : e.graph.nodeList.Pairwise fun a b => a.name ≠ b.name := by
  have entriesApart : e.graph.nodes.entries.Pairwise fun a b => a.2.name ≠ b.2.name :=
    e.graph.nodes.ascending.imp_of_mem fun {a b} aStored bStored ordered => by
      rw [named (Table.get?_of_mem_entries (Table.keys_nodup _) aStored),
        named (Table.get?_of_mem_entries (Table.keys_nodup _) bStored)]
      exact String.ne_of_lt ordered
  exact List.pairwise_map.mpr entriesApart

/-- A port is a target of `r` exactly when it is on the other side, on another node, and its type
is known and fits the type of `r`. -/
theorem mem_compatiblePorts {r : PortRef} {t : PortType} (typed : e.portType r = .ok t) (x : PortRef) :
    (∃ ports, e.compatiblePorts r = .ok ports ∧ x ∈ ports) ↔
      x.direction = r.direction.opposite ∧ x.node ≠ r.node ∧
        ∃ tx, e.portType x = .ok tx ∧ t.compatible tx = true := by
  rw [compatiblePorts_eq_ok typed]
  simp only [Except.ok.injEq, exists_eq_left', List.mem_flatMap, List.mem_filter, bne_iff_ne, ne_eq]
  constructor
  · rintro ⟨n, ⟨listed, apart⟩, offered⟩
    obtain ⟨k, found⟩ : ∃ k, e.node? k = some n := by
      obtain ⟨⟨k, n'⟩, stored, rfl⟩ := List.mem_map.mp listed
      exact ⟨k, Table.get?_of_mem_entries (Table.keys_nodup _) stored⟩
    have keyName : n.name = k := named found
    subst keyName
    rcases entry : e.catalog.get? n.package with _ | s
    · simp [entry] at offered
    simp only [entry, List.mem_filterMap] at offered
    obtain ⟨⟨port, candidate⟩, stored, kept⟩ := offered
    by_cases fit : t.compatible candidate = true
    · simp only [fit, if_true, Option.some.injEq] at kept
      subst kept
      refine ⟨rfl, apart, candidate, portType_eq_ok.mpr ⟨n, s, found, entry, ?_⟩, fit⟩
      rw [NodeStructure.portType?_eq]
      exact Table.get?_of_mem_entries (Table.keys_nodup _) stored
    · simp [fit] at kept
  · rintro ⟨opposite, apart, tx, xTyped, fit⟩
    obtain ⟨n, s, found, entry, declared⟩ := portType_eq_ok.mp xTyped
    have xNamed : n.name = x.node := named found
    refine ⟨n, ⟨Graph.mem_nodeList_of_node? found, by rw [xNamed]; exact apart⟩, ?_⟩
    simp only [entry, List.mem_filterMap]
    refine ⟨(x.port, tx), ?_, by simp [fit, xNamed, ← opposite]⟩
    rw [NodeStructure.portType?_eq, opposite] at declared
    exact Table.mem_entries_of_get? declared

/-- The targets of a port name each port once. -/
theorem compatiblePorts_nodup {r : PortRef} {ports : List PortRef}
    (listedPorts : e.compatiblePorts r = .ok ports) : ports.Nodup := by
  rcases typed : e.portType r with err | t
  · rw [compatiblePorts_eq_error_iff.mpr typed] at listedPorts
    cases listedPorts
  rw [compatiblePorts_eq_ok typed, Except.ok.injEq] at listedPorts
  subst listedPorts
  rw [List.nodup_flatMap]
  constructor
  · -- within one node, the ports come from a table with distinct names
    intro n _
    split
    · exact List.nodup_nil
    · rename_i s _
      refine (s.ports r.direction.opposite).ascending.filterMap _
        fun ⟨port, _⟩ ⟨port', _⟩ ordered b offered b' offered' same => ?_
      simp only [Option.ite_none_right_eq_some, Option.some.injEq] at offered offered'
      obtain ⟨-, rfl⟩ := offered
      obtain ⟨-, rfl⟩ := offered'
      exact String.ne_of_lt ordered (PortRef.mk.inj same).2.1
  · -- different nodes have different names, and each port names its node
    refine ((nodeList_pairwise_name_ne named).sublist List.filter_sublist).imp fun apart => ?_
    intro x xOffered yOffered
    dsimp only at xOffered yOffered
    split at xOffered
    · cases xOffered
    split at yOffered
    · cases yOffered
    obtain ⟨_, -, xOffered⟩ := List.mem_filterMap.mp xOffered
    obtain ⟨_, -, yOffered⟩ := List.mem_filterMap.mp yOffered
    simp only [Option.ite_none_right_eq_some, Option.some.injEq] at xOffered yOffered
    exact apart (PortRef.mk.inj (xOffered.2.trans yOffered.2.symm)).1

end StoredUnderNames

/-- In every editor reached from a catalog's empty editor, listing the targets of a port fails
exactly when looking up its type fails, with the same error. Otherwise the list names each port
once, and a port is listed exactly when it is on the other side and the connection joining the
two, from the output to the input, succeeds. -/
theorem compatiblePorts_agree_with_connect (c : Catalog) (actions : List Action) (r : PortRef) :
    let S := replay actions (ofCatalog c)
    (∀ err, S.compatiblePorts r = .error err ↔ S.portType r = .error err) ∧
    ∀ ports, S.compatiblePorts r = .ok ports → ports.Nodup ∧
      ∀ x, x ∈ ports ↔ x.direction = r.direction.opposite ∧
        (r.direction = .output → ∃ edge S', (connect r.node r.port x.node x.port).run S = .ok edge S') ∧
        (r.direction = .input → ∃ edge S', (connect x.node x.port r.node r.port).run S = .ok edge S') := by
  intro S
  have named : ∀ {k n}, S.node? k = some n → n.name = k := (edgesSound_replay c actions).name_eq
  refine ⟨fun _ => compatiblePorts_eq_error_iff, fun ports listedPorts => ⟨compatiblePorts_nodup named listedPorts,
    fun x => ?_⟩⟩
  obtain ⟨t, typed⟩ : ∃ t, S.portType r = .ok t := by
    rcases typed : S.portType r with err | t
    · rw [compatiblePorts_eq_error_iff.mpr typed] at listedPorts
      cases listedPorts
    · exact ⟨t, rfl⟩
  have members : x ∈ ports ↔ x.direction = r.direction.opposite ∧ x.node ≠ r.node ∧
      ∃ tx, S.portType x = .ok tx ∧ t.compatible tx = true := by
    rw [← mem_compatiblePorts named typed x, listedPorts]
    simp
  rw [members, connect_ok_iff_edgeFits, connect_ok_iff_edgeFits]
  obtain ⟨node, port, direction⟩ := r
  obtain ⟨xnode, xport, xdirection⟩ := x
  cases direction <;> simp only [Direction.opposite, reduceCtorEq, false_imp_iff, true_imp_iff,
    and_true, true_and] <;> constructor
  · rintro ⟨rfl, apart, tx, xTyped, fit⟩
    exact ⟨rfl, apart, tx, t, xTyped, typed, by rw [PortType.compatible_comm]; exact fit⟩
  · rintro ⟨rfl, apart, tx, t', xTyped, typed', fit⟩
    change S.portType ⟨node, port, .input⟩ = .ok t' at typed'
    rw [typed] at typed'
    cases typed'
    exact ⟨rfl, apart, tx, xTyped, by rw [PortType.compatible_comm]; exact fit⟩
  · rintro ⟨rfl, apart, tx, xTyped, fit⟩
    exact ⟨rfl, Ne.symm apart, t, tx, typed, xTyped, fit⟩
  · rintro ⟨rfl, apart, t', tx, typed', xTyped, fit⟩
    change S.portType ⟨node, port, .output⟩ = .ok t' at typed'
    rw [typed] at typed'
    cases typed'
    exact ⟨rfl, Ne.symm apart, tx, xTyped, fit⟩

end Editor

end PipelineEditor
