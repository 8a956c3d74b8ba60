import PipelineEditor.Catalog.Structure
import PipelineEditor.Error

/-!
Parameter values of the nodes, and the concrete types chosen for their `any` parameters.

Each configured node has a config: parameter values by name. Each parameter of kind `any` has,
besides its value, a chosen concrete type stored under the key `node$param`; it starts as `str`.
Node names never hold `$`, so the key of a node's entry starts with exactly that node's name and
a `$`.
-/

namespace PipelineEditor

/-- The parameter values of one node, by parameter name. -/
abbrev NodeConfig := Table Json

/-- The separator of an any-type key. -/
def anyKeySeparator : Char := '$'

/-- The key of the concrete type chosen for parameter `param` of node `node`. -/
def anyKey (node param : String) : String := node ++ "$" ++ param

/-- The parameter of node `node` an any-type key belongs to, if it belongs to that node. -/
def anyKeyParam? (key node : String) : Option String :=
  if (node.toList ++ ['$']).isPrefixOf key.toList then
    some (String.ofList (key.toList.drop (node.length + 1)))
  else none

/-- Dropping a list and one more element leaves what follows them. -/
theorem drop_length_append_cons {α : Type} (l r : List α) (x : α) :
    (l ++ x :: r).drop (l.length + 1) = r := by
  induction l with
  | nil => rfl
  | cons _ _ ih => exact ih

/-- A separator that occurs in neither front part splits two lists at the same place. -/
theorem append_cons_inj_of_not_mem {α : Type} {x : α} :
    ∀ {a b c d : List α}, x ∉ a → x ∉ b → a ++ x :: c = b ++ x :: d → a = b ∧ c = d
  | [], [], _, _, _, _, h => by simpa using h
  | [], y :: b, _, _, _, hb, h => by
    simp only [List.nil_append, List.cons_append, List.cons.injEq] at h
    exact absurd (h.1 ▸ List.mem_cons_self) hb
  | y :: a, [], _, _, ha, _, h => by
    simp only [List.nil_append, List.cons_append, List.cons.injEq] at h
    exact absurd (h.1 ▸ List.mem_cons_self) ha
  | y :: a, z :: b, _, _, ha, hb, h => by
    simp only [List.cons_append, List.cons.injEq] at h
    have rest := append_cons_inj_of_not_mem (fun m => ha (List.mem_cons_of_mem y m))
      (fun m => hb (List.mem_cons_of_mem z m)) h.2
    exact ⟨by rw [h.1, rest.1], rest.2⟩

theorem toList_anyKey (node param : String) :
    (anyKey node param).toList = node.toList ++ '$' :: param.toList := by
  simp [anyKey]

/-- A key belongs to parameter `param` of `node` exactly when it is that parameter's key. -/
theorem anyKeyParam?_eq_some_iff {key node param : String} :
    anyKeyParam? key node = some param ↔ key = anyKey node param := by
  have hlen : node.length = node.toList.length := String.length_toList.symm
  unfold anyKeyParam?
  constructor
  · intro h
    split at h
    · rename_i hp
      have split := (List.prefix_iff_eq_append.mp (List.isPrefixOf_iff_prefix.mp hp)).symm
      cases h
      apply String.toList_inj.mp
      rw [toList_anyKey, hlen]
      simpa using split
    · cases h
  · rintro rfl
    simp [toList_anyKey, hlen, drop_length_append_cons]

/-- Keys of nodes whose names hold no `$` name their node and parameter. -/
theorem anyKey_inj {node node' param param' : String} (hnode : '$' ∉ node.toList)
    (hnode' : '$' ∉ node'.toList) (h : anyKey node param = anyKey node' param') :
    node = node' ∧ param = param' := by
  have h' := congrArg String.toList h
  rw [toList_anyKey, toList_anyKey] at h'
  have parts := append_cons_inj_of_not_mem hnode hnode' h'
  exact ⟨String.toList_inj.mp parts.1, String.toList_inj.mp parts.2⟩

/-- Two keys of one node are equal only for one parameter. -/
theorem anyKey_right_inj {node p q : String} (h : anyKey node p = anyKey node q) : p = q := by
  simpa [anyKey] using h

/-- A node name is valid when it is not empty and holds no `$`. -/
def isValidNodeName (name : String) : Bool := !name.isEmpty && !name.toList.contains '$'

theorem isValidNodeName_iff {name : String} :
    isValidNodeName name = true ↔ name ≠ "" ∧ '$' ∉ name.toList := by
  simp [isValidNodeName]

/-- The concrete type an `any` parameter starts with. -/
def defaultAnyType : String := "str"

/-- Parameter values by node, and chosen concrete types by any-type key. -/
structure ParamStore where
  configs : Table NodeConfig
  anyTypes : Table String
  deriving Inhabited

namespace ParamStore

/-- The store without entries. -/
def empty : ParamStore := ⟨Table.empty, Table.empty⟩

/-- Gives a node its starting config: each declared parameter at its kind's initial value (of two
parameters of one name the later wins), and `str` as the concrete type of each `any` parameter.
A config the node had is replaced. -/
def initNode (st : ParamStore) (name : String) (s : NodeStructure) : ParamStore :=
  let config := s.parameter.foldl
    (fun c p => c.insert p.name (p.kind.initialValue p.defaultValue)) Table.empty
  let anyTypes := s.parameter.foldl
    (fun t p => if p.kind.isAny then t.insert (anyKey name p.name) defaultAnyType else t)
    st.anyTypes
  ⟨st.configs.insert name config, anyTypes⟩

/-- Copies the config of `source` to `target`, and for each declared `any` parameter its chosen
type (`str` when `source` has none); `none` when `source` has no config. -/
def cloneConfig? (st : ParamStore) (source : String) (s : NodeStructure) (target : String) :
    Option ParamStore :=
  (st.configs.get? source).map fun config =>
    let anyTypes := s.parameter.foldl
      (fun t p =>
        if p.kind.isAny then
          t.insert (anyKey target p.name) ((st.anyTypes.get? (anyKey source p.name)).getD defaultAnyType)
        else t)
      st.anyTypes
    ⟨st.configs.insert target config, anyTypes⟩

/-- Drops the config of a node and every chosen type of its parameters. -/
def removeConfig (st : ParamStore) (name : String) : ParamStore :=
  ⟨st.configs.erase name, st.anyTypes.filter fun key _ => (anyKeyParam? key name).isNone⟩

theorem removeConfig_configs_get? (st : ParamStore) (name node : String) :
    (st.removeConfig name).configs.get? node = if node = name then none else st.configs.get? node :=
  Table.get?_erase _ _ _

theorem removeConfig_anyTypes_get?_anyKey (st : ParamStore) (name param : String) :
    (st.removeConfig name).anyTypes.get? (anyKey name param) = none := by
  simp only [removeConfig]
  rw [Table.get?_filter_key, anyKeyParam?_eq_some_iff.mpr rfl]
  rfl

/-- Removing a node's config keeps every key that is not one of its parameters' keys. -/
theorem removeConfig_anyTypes_get?_of_ne (st : ParamStore) (name key : String)
    (h : ∀ param, key ≠ anyKey name param) :
    (st.removeConfig name).anyTypes.get? key = st.anyTypes.get? key := by
  simp only [removeConfig]
  rw [Table.get?_filter_key]
  cases hk : anyKeyParam? key name with
  | none => rfl
  | some param => exact absurd (anyKeyParam?_eq_some_iff.mp hk) (h param)

/-- Removing a node's config keeps the keys of another node when neither name holds `$`. -/
theorem removeConfig_anyTypes_get?_anyKey_of_ne (st : ParamStore) {name node : String}
    (hname : '$' ∉ name.toList) (hnode : '$' ∉ node.toList) (hne : node ≠ name) (param : String) :
    (st.removeConfig name).anyTypes.get? (anyKey node param) = st.anyTypes.get? (anyKey node param) :=
  st.removeConfig_anyTypes_get?_of_ne name _ fun _ heq => hne (anyKey_inj hnode hname heq).1

/-- Sets a parameter value, declared or not, of a configured node. -/
def setValue (st : ParamStore) (node param : String) (value : Json) :
    Except EditorError ParamStore :=
  match st.configs.get? node with
  | some config => .ok { st with configs := st.configs.insert node (config.insert param value) }
  | none => .error (.unknownNode node)

/-- Chooses the concrete type of an `any` parameter that has an entry. -/
def setAnyType (st : ParamStore) (node param concrete : String) :
    Except EditorError ParamStore :=
  if st.anyTypes.contains (anyKey node param) then
    .ok { st with anyTypes := st.anyTypes.insert (anyKey node param) concrete }
  else .error (.notAnyParameter node param)

/-- The config of a node. -/
def config? (st : ParamStore) (node : String) : Option NodeConfig := st.configs.get? node

/-- The value of a parameter of a node. -/
def value? (st : ParamStore) (node param : String) : Option Json :=
  (st.configs.get? node).bind (·.get? param)

/-- The chosen concrete type of a parameter of a node. -/
def anyType? (st : ParamStore) (node param : String) : Option String :=
  st.anyTypes.get? (anyKey node param)

/-- Stores a config as given. -/
def insertConfig (st : ParamStore) (node : String) (config : NodeConfig) : ParamStore :=
  { st with configs := st.configs.insert node config }

/-- Stores a chosen type as given. -/
def insertAnyType (st : ParamStore) (key concrete : String) : ParamStore :=
  { st with anyTypes := st.anyTypes.insert key concrete }

/-- A config in payload form. -/
def configJson (config : NodeConfig) : Json := .object config.entries

theorem initNode_configs_get? (st : ParamStore) (name : String) (s : NodeStructure) (k : String) :
    (st.initNode name s).configs.get? k =
      if k = name then
        some (s.parameter.foldl (fun c p => c.insert p.name (p.kind.initialValue p.defaultValue))
          Table.empty)
      else st.configs.get? k := by
  simp [initNode]

/-- A new node starts with the default chosen type for each declared `any` parameter. -/
theorem initNode_anyTypes_get?_anyKey (st : ParamStore) (name : String) (s : NodeStructure)
    (param : String) :
    (st.initNode name s).anyTypes.get? (anyKey name param) =
      if ∃ p ∈ s.parameter, p.kind.isAny = true ∧ p.name = param then some defaultAnyType
      else st.anyTypes.get? (anyKey name param) := by
  unfold initNode
  dsimp only
  rw [Table.get?_foldl_insert_if _ _ _ _ _ _ defaultAnyType fun _ _ _ _ => rfl]
  have hkey : ∀ p : NodeParameter, anyKey name param = anyKey name p.name ↔ p.name = param :=
    fun p => ⟨fun h => (anyKey_right_inj h).symm, fun h => by rw [h]⟩
  simp only [hkey]

/-- Starting a node's config keeps every chosen type that is not the node's. -/
theorem initNode_anyTypes_get?_of_ne (st : ParamStore) (name : String) (s : NodeStructure)
    (key : String) (hkey : ∀ param, key ≠ anyKey name param) :
    (st.initNode name s).anyTypes.get? key = st.anyTypes.get? key := by
  unfold initNode
  dsimp only
  rw [Table.get?_foldl_insert_if _ _ _ _ _ _ defaultAnyType fun _ _ _ _ => rfl, if_neg]
  rintro ⟨p, -, -, hk⟩
  exact hkey p.name hk

/-- A node's starting config holds every declared parameter. -/
theorem isSome_initNode_value? (st : ParamStore) (name : String) (s : NodeStructure)
    {p : NodeParameter} (hp : p ∈ s.parameter) : ((st.initNode name s).value? name p.name).isSome := by
  simp only [value?, initNode_configs_get?, if_pos, Option.bind_some]
  exact (Table.isSome_get?_foldl_insert _ _ _ _ _).mpr (.inr ⟨p, hp, rfl⟩)

theorem isSome_initNode_anyTypes (st : ParamStore) (name : String) (s : NodeStructure) (key : String) :
    ((st.initNode name s).anyTypes.get? key).isSome ↔
      (st.anyTypes.get? key).isSome ∨ ∃ p ∈ s.parameter, p.kind.isAny = true ∧ key = anyKey name p.name :=
  Table.isSome_get?_foldl_insert_if _ _ _ _ _ _

theorem cloneConfig?_eq_some {st st' : ParamStore} {source target : String} {s : NodeStructure}
    (h : st.cloneConfig? source s target = some st') :
    ∃ config, st.configs.get? source = some config ∧ st'.configs = st.configs.insert target config ∧
      ∀ key, (st'.anyTypes.get? key).isSome ↔
        (st.anyTypes.get? key).isSome ∨ ∃ p ∈ s.parameter, p.kind.isAny = true ∧ key = anyKey target p.name := by
  unfold cloneConfig? at h
  cases hc : st.configs.get? source with
  | none => simp [hc] at h
  | some config =>
    simp only [hc, Option.map_some, Option.some.injEq] at h
    subst h
    exact ⟨config, rfl, rfl, fun key => Table.isSome_get?_foldl_insert_if _ _ _ _ _ _⟩

/-- A clone's chosen type of a parameter: the source's (`str` when it has none) for a declared
`any` parameter, what was there for any other. -/
theorem cloneConfig?_anyTypes_get?_anyKey {st st' : ParamStore} {source target : String}
    {s : NodeStructure} (h : st.cloneConfig? source s target = some st') (param : String) :
    st'.anyTypes.get? (anyKey target param) =
      if ∃ p ∈ s.parameter, p.kind.isAny = true ∧ p.name = param then
        some ((st.anyTypes.get? (anyKey source param)).getD defaultAnyType)
      else st.anyTypes.get? (anyKey target param) := by
  unfold cloneConfig? at h
  obtain ⟨config, -, rfl⟩ := Option.map_eq_some_iff.mp h
  dsimp only
  rw [Table.get?_foldl_insert_if _ _ _ _ _ _ ((st.anyTypes.get? (anyKey source param)).getD defaultAnyType)
    fun p _ _ hkey => by rw [anyKey_right_inj hkey]]
  have hkey : ∀ p : NodeParameter, anyKey target param = anyKey target p.name ↔ p.name = param :=
    fun p => ⟨fun h => (anyKey_right_inj h).symm, fun h => by rw [h]⟩
  simp only [hkey]

/-- Cloning a config keeps every chosen type that is not the target's. -/
theorem cloneConfig?_anyTypes_get?_of_ne {st st' : ParamStore} {source target : String}
    {s : NodeStructure} (h : st.cloneConfig? source s target = some st') (key : String)
    (hkey : ∀ param, key ≠ anyKey target param) : st'.anyTypes.get? key = st.anyTypes.get? key := by
  unfold cloneConfig? at h
  obtain ⟨config, -, rfl⟩ := Option.map_eq_some_iff.mp h
  dsimp only
  rw [Table.get?_foldl_insert_if _ _ _ _ _ _ defaultAnyType fun p _ _ hk => absurd hk (hkey p.name),
    if_neg]
  rintro ⟨p, -, -, hk⟩
  exact hkey p.name hk

theorem isSome_removeConfig_anyTypes (st : ParamStore) (name key : String) :
    ((st.removeConfig name).anyTypes.get? key).isSome ↔
      (st.anyTypes.get? key).isSome ∧ ∀ param, key ≠ anyKey name param := by
  simp only [removeConfig]
  rw [Table.get?_filter_key]
  cases hk : anyKeyParam? key name with
  | none =>
    have hne : ∀ param, key ≠ anyKey name param := fun param heq => by
      rw [anyKeyParam?_eq_some_iff.mpr heq] at hk
      cases hk
    simp [hne]
  | some param => simpa using fun _ => ⟨param, anyKeyParam?_eq_some_iff.mp hk⟩

theorem setValue_eq_ok {st st' : ParamStore} {node param : String} {value : Json} :
    st.setValue node param value = .ok st' ↔
      ∃ config, st.configs.get? node = some config ∧
        st' = { st with configs := st.configs.insert node (config.insert param value) } := by
  unfold setValue
  cases st.configs.get? node with
  | none => simp
  | some config =>
    simp only [Except.ok.injEq, Option.some.injEq, exists_eq_left']
    exact eq_comm

theorem setAnyType_eq_ok {st st' : ParamStore} {node param concrete : String} :
    st.setAnyType node param concrete = .ok st' ↔
      (st.anyTypes.get? (anyKey node param)).isSome ∧
        st' = { st with anyTypes := st.anyTypes.insert (anyKey node param) concrete } := by
  unfold setAnyType
  by_cases h : (st.anyTypes.get? (anyKey node param)).isSome <;> simp [h, eq_comm]

end ParamStore

end PipelineEditor
