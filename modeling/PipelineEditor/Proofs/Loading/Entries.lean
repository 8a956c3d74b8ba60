import PipelineEditor.Params.Store

/-! Keyed entries stored in order, as the loaders store them: a key keeps its last entry's value. -/

namespace PipelineEditor

/-- The value of the last entry of a key in a list of keyed entries. -/
def lastValue? {α : Type} (entries : List (String × α)) (key : String) : Option α :=
  entries.reverse.lookup key

@[simp] theorem lastValue?_nil {α : Type} (key : String) : lastValue? ([] : List (String × α)) key = none :=
  rfl

theorem lastValue?_cons {α : Type} (p : String × α) (rest : List (String × α)) (key : String) :
    lastValue? (p :: rest) key = (lastValue? rest key).or (if key = p.1 then some p.2 else none) := by
  obtain ⟨k, v⟩ := p
  by_cases keyIs : key = k
  · subst keyIs
    simp [lastValue?, List.lookup_append]
  · have unequal : (key == k) = false := beq_false_of_ne keyIs
    simp [lastValue?, List.lookup_append, List.lookup_cons, unequal, keyIs]

/-- The last value of a key is the value of one of its entries. -/
theorem mem_of_lastValue?_eq_some {α : Type} {l : List (String × α)} {key : String} {v : α}
    (last : lastValue? l key = some v) : (key, v) ∈ l := by
  obtain ⟨before, after, split, -⟩ := List.lookup_eq_some_iff.mp last
  exact List.mem_reverse.mp (by simp [split])

/-- Inserting the entries of a list in order gives each key the value of its last entry. -/
theorem Table.get?_foldl_insert_last {α : Type} (l : List (String × α)) (t : Table α) (k : String) :
    (l.foldl (fun t p => t.insert p.1 p.2) t).get? k = (lastValue? l k).or (t.get? k) := by
  induction l generalizing t with
  | nil => simp
  | cons p rest ih =>
    rw [List.foldl_cons, ih, Table.get?_insert, lastValue?_cons, Option.or_assoc]
    by_cases keyIs : k = p.1 <;> simp [keyIs]

/-- The config a node of an entry starts with: each declared parameter at its kind's initial
value, the later of two parameters of one name winning. -/
def NodeStructure.startConfig (s : NodeStructure) : NodeConfig :=
  s.parameter.foldl (fun c p => c.insert p.name (p.kind.initialValue p.defaultValue)) Table.empty

namespace ParamStore

theorem initNode_configs_get?_eq (st : ParamStore) (name : String) (s : NodeStructure) (k : String) :
    (st.initNode name s).configs.get? k = if k = name then some s.startConfig else st.configs.get? k :=
  initNode_configs_get? st name s k

/-- Starting a node's parameters sets `str` under the key of each of its declared `any`
parameters and keeps every other chosen type. -/
theorem initNode_anyTypes_get? (st : ParamStore) (name : String) (s : NodeStructure) (key : String) :
    (st.initNode name s).anyTypes.get? key =
      if ∃ q ∈ s.parameter, q.kind.isAny = true ∧ key = anyKey name q.name then some defaultAnyType
      else st.anyTypes.get? key := by
  unfold initNode
  exact Table.get?_foldl_insert_if _ _ _ _ _ _ defaultAnyType fun _ _ _ _ => rfl

end ParamStore

end PipelineEditor
