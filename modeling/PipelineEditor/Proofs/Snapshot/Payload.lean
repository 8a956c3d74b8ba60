import PipelineEditor.Snapshot.Basic
import PipelineEditor.Proofs.Loading.Entries
import PipelineEditor.Proofs.Decimal.ReadBack

/-! Each record of a snapshot is read back from the payload form it is written in. -/

namespace PipelineEditor.Json

theorem insertField_eq_insertEntry (key : String) (value : Json) (l : List (String × Json)) :
    insertField key value l = Table.insertEntry key value l := by
  induction l with
  | nil => rfl
  | cons p l ih =>
    obtain ⟨k, v⟩ := p
    simp only [insertField, Table.insertEntry, ih]

/-- Folding members into a member list by `insertField` keeps the entries of the table they are
inserted into. -/
theorem foldl_insertField {step : List (String × Json) → String × Json → List (String × Json)}
    (inserts : ∀ acc k v, step acc (k, v) = insertField k v acc) (members : List (String × Json))
    (t : Table Json) :
    members.foldl step t.entries = (members.foldl (fun t e => t.insert e.1 e.2) t).entries := by
  induction members generalizing t with
  | nil => rfl
  | cons p members ih =>
    obtain ⟨k, v⟩ := p
    rw [List.foldl_cons, List.foldl_cons, inserts, insertField_eq_insertEntry, ← ih]
    rfl

/-- An object built from members holds the entries of their table. -/
theorem mkObject_eq (members : List (String × Json)) :
    mkObject members = .object (Table.ofList members).entries :=
  congrArg Json.object (foldl_insertField (fun _ _ _ => rfl) members Table.empty)

theorem lookup_eq_none {α : Type} {l : List (String × α)} {key : String}
    (absent : key ∉ l.map Prod.fst) : l.lookup key = none := by
  induction l with
  | nil => rfl
  | cons p l ih =>
    obtain ⟨k, v⟩ := p
    rw [List.map_cons, List.mem_cons, not_or] at absent
    have differ : (key == k) = false := beq_false_of_ne absent.1
    simp [List.lookup_cons, differ, ih absent.2]

theorem lookup_reverse {α : Type} {l : List (String × α)} (distinct : (l.map Prod.fst).Nodup)
    (key : String) : l.reverse.lookup key = l.lookup key := by
  induction l with
  | nil => rfl
  | cons p l ih =>
    obtain ⟨k, v⟩ := p
    rw [List.map_cons, List.nodup_cons] at distinct
    rw [List.reverse_cons, List.lookup_append, ih distinct.2]
    by_cases same : key = k
    · subst same
      simp [lookup_eq_none distinct.1]
    · have differ : (key == k) = false := beq_false_of_ne same
      simp [List.lookup_cons, differ]

theorem lookup_ofList {α : Type} {members : List (String × α)} (distinct : (members.map Prod.fst).Nodup)
    (key : String) : (Table.ofList members).entries.lookup key = members.lookup key := by
  have last := Table.get?_foldl_insert_last members Table.empty key
  rw [Table.get?_empty, Option.or_none, lastValue?, lookup_reverse distinct] at last
  exact last

theorem filter_key_length {α : Type} {l : List (String × α)} (distinct : (l.map Prod.fst).Nodup)
    (name : String) : (l.filter fun m => m.1 = name).length ≤ 1 := by
  have keys : ((l.filter fun m => m.1 = name).map Prod.fst).Nodup :=
    distinct.sublist ((List.filter_sublist).map _)
  have named : (l.filter fun m => m.1 = name).map Prod.fst =
      List.replicate (l.filter fun m => m.1 = name).length name := by
    refine List.eq_replicate_iff.mpr ⟨List.length_map _, fun k mem => ?_⟩
    obtain ⟨m, kept, rfl⟩ := List.mem_map.mp mem
    simpa using (List.mem_filter.mp kept).2
  rw [named, List.nodup_replicate] at keys
  exact keys

/-- A member list with distinct keys is read as a record by looking its known fields up. -/
theorem objectFields_of_distinct (known : List String) {l : List (String × Json)}
    (distinct : (l.map Prod.fst).Nodup) :
    objectFields known l = some fun name => if known.contains name then l.lookup name else none := by
  unfold objectFields
  rw [if_neg]
  simp only [List.any_eq_true, not_exists, not_and, decide_eq_true_eq, not_lt]
  exact fun name _ => filter_key_length distinct name

/-- An object built from members with distinct keys is read as a record whose known fields are
those members. -/
theorem recordFields_mkObject (known : List String) (flattened : Bool) {j : Json}
    {members : List (String × Json)} (written : j = mkObject members)
    (distinct : (members.map Prod.fst).Nodup) :
    ∃ fields : Fields, recordFields known flattened j = some fields ∧
      ∀ name ∈ known, fields name = members.lookup name := by
  rw [written, mkObject_eq, recordFields, objectFields_of_distinct known (Table.keys_nodup _)]
  refine ⟨_, rfl, fun name named => ?_⟩
  rw [if_pos (List.elem_eq_true_of_mem named), lookup_ofList distinct]

theorem lookup_filter_key {α : Type} (l : List (String × α)) (keep : String → Bool) (key : String) :
    (l.filter fun m => keep m.1).lookup key = if keep key then l.lookup key else none := by
  induction l with
  | nil => simp
  | cons p l ih =>
    obtain ⟨k, v⟩ := p
    by_cases same : key = k
    · subst same
      by_cases kept : keep key <;> simp [kept, ih]
    · have differ : (key == k) = false := beq_false_of_ne same
      by_cases kept : keep k <;> simp [kept, List.lookup_cons, differ, ih]

theorem mapM_entries {α : Type} {item : Json → Option α} {write : α → Json} {l : List (String × α)}
    (inverse : ∀ e ∈ l, item (write e.2) = some e.2) :
    (l.map fun e => (e.1, write e.2)).mapM (fun m => (item m.2).map fun v => (m.1, v)) = some l := by
  induction l with
  | nil => rfl
  | cons e l ih =>
    rw [List.map_cons, List.mapM_cons, inverse e List.mem_cons_self,
      ih fun e' mem => inverse e' (List.mem_cons_of_mem _ mem)]
    rfl

/-- A table written as an object of its entries is read back as the table. -/
theorem asTable_entries {α : Type} {item : Json → Option α} {write : α → Json} (t : Table α)
    (inverse : ∀ e ∈ t.entries, item (write e.2) = some e.2) :
    asTable item (.object (t.entries.map fun e => (e.1, write e.2))) = some t := by
  rw [asTable, mapM_entries inverse, Option.map_some, Table.ofList_entries]

theorem asList_map {α : Type} {item : Json → Option α} {write : α → Json} {l : List α}
    (inverse : ∀ a ∈ l, item (write a) = some a) : asList item (.array (l.map write)) = some l := by
  rw [asList]
  induction l with
  | nil => rfl
  | cons a l ih =>
    rw [List.map_cons, List.mapM_cons, inverse a List.mem_cons_self,
      ih fun a' mem => inverse a' (List.mem_cons_of_mem _ mem)]
    rfl

/-- The members of an object built from members with distinct keys that a record does not name
are those members, looked up by key. -/
theorem remainingMembers_mkObject (known : List String) {members : List (String × Json)}
    (distinct : (members.map Prod.fst).Nodup) :
    ((remainingMembers known (mkObject members)).map Prod.fst).Nodup ∧
      ∀ key, (remainingMembers known (mkObject members)).lookup key =
        if known.contains key then none else members.lookup key := by
  rw [mkObject_eq, remainingMembers]
  refine ⟨(Table.keys_nodup _).sublist (List.filter_sublist.map _), fun key => ?_⟩
  rw [lookup_filter_key _ (fun k => !known.contains k), lookup_ofList distinct]
  cases known.contains key <;> rfl

end PipelineEditor.Json

namespace PipelineEditor

open Json

theorem Node.ofJson?_toJson (n : Node) : Node.ofJson? n.toJson = some n := by
  obtain ⟨fields, read, found⟩ := recordFields_mkObject fieldNames true (j := n.toJson) rfl (by simp)
  simp only [fieldNames] at found
  rw [Node.ofJson?, read]
  simp [found, List.lookup_cons, Fields.required, Fields.withDefault, asString, asFloat, asBool, Json.float]

theorem NodeParameter.ofJson?_toJson (p : NodeParameter)
    (canonical : Json.canonical p.defaultValue = p.defaultValue) :
    NodeParameter.ofJson? p.toJson = some p := by
  obtain ⟨fields, read, found⟩ := recordFields_mkObject
    ["name", "type", "is_mandatory", "description", "default_value"] false (j := p.toJson) rfl (by simp)
  rw [NodeParameter.ofJson?, read]
  simp [found, List.lookup_cons, Fields.required, Fields.withDefault, Fields.nullDefault, asString,
    asBool, asValue, canonical]

theorem Edge.ofJson?_toJson (e : Edge) : Edge.ofJson? e.toJson = some e := by
  obtain ⟨fields, read, found⟩ := recordFields_mkObject fieldNames false (j := e.toJson) rfl (by simp)
  simp only [fieldNames] at found
  rw [Edge.ofJson?, read]
  simp [found, List.lookup_cons, Fields.required, asString]

theorem NodeTags.ofJson?_toJson (t : NodeTags) : NodeTags.ofJson? t.toJson = some t := by
  obtain ⟨fields, read, found⟩ := recordFields_mkObject ["library", "type"] false (j := t.toJson) rfl (by simp)
  rw [NodeTags.ofJson?, read]
  simp [found, List.lookup_cons, Fields.nullDefault, asString]

theorem Snapshot.pairsOfJson?_pairsJson {α : Type} {read : Json → Option α} {write : α → Json}
    (entries : List (String × α)) (inverse : ∀ e ∈ entries, read (write e.2) = some e.2) :
    Snapshot.pairsOfJson? read (Snapshot.pairsJson write entries) = some entries := by
  induction entries with
  | nil => rfl
  | cons e entries ih =>
    obtain ⟨k, v⟩ := e
    have rest := ih fun e' mem => inverse e' (List.mem_cons_of_mem _ mem)
    simp only [Snapshot.pairsOfJson?, Snapshot.pairsJson, asList, List.map_cons, List.mapM_cons] at rest ⊢
    simp [rest, asPair, asString, inverse (k, v) List.mem_cons_self]

theorem Snapshot.configOfJson?_configJson (config : NodeConfig)
    (canonical : ∀ e ∈ config.entries, Json.canonical e.2 = e.2) :
    Snapshot.configOfJson? (ParamStore.configJson config) = some config := by
  have entries : config.entries.map (fun e => (e.1, e.2)) = config.entries := by simp
  rw [Snapshot.configOfJson?, ParamStore.configJson, ← entries]
  exact @asTable_entries Json asValue id config fun e mem => congrArg some (canonical e mem)

theorem NodeStructure.customOfMembers?_remaining {j : Json} {members : List (String × Json)}
    (written : j = mkObject members) (distinct : (members.map Prod.fst).Nodup) :
    customOfMembers? (remainingMembers fieldNames j) =
      (do pure ⟨← (members.lookup "function_name").bind asString, ← (members.lookup "code").bind asString⟩) := by
  obtain ⟨keys, lookup⟩ := remainingMembers_mkObject fieldNames distinct
  rw [written, customOfMembers?, objectFields_of_distinct _ keys]
  simp only [Fields.required, List.contains, lookup]
  simp [fieldNames]

theorem NodeStructure.ofJson?_toJson (s : NodeStructure)
    (canonical : ∀ p ∈ s.parameter, Json.canonical p.defaultValue = p.defaultValue) :
    NodeStructure.ofJson? s.toJson = some s := by
  have parameters : asList NodeParameter.ofJson? (.array (s.parameter.map NodeParameter.toJson)) =
      some s.parameter :=
    asList_map fun p mem => NodeParameter.ofJson?_toJson p (canonical p mem)
  have ports : ∀ t, asTable portTypeOfJson? (portsJson t) = some t :=
    fun t => @asTable_entries PortType portTypeOfJson? (fun t => .string t.tag) t fun _ _ => rfl
  have names : ∀ ms : List String, asList asString (.array (ms.map .string)) = some ms :=
    fun ms => asList_map fun _ _ => rfl
  have tags := NodeTags.ofJson?_toJson s.tags
  obtain ⟨fields, read, found⟩ := recordFields_mkObject fieldNames true (j := s.toJson) rfl
    (by cases s.custom <;> simp)
  rw [NodeStructure.ofJson?, read,
    customOfMembers?_remaining (j := s.toJson) rfl (by cases s.custom <;> simp)]
  simp only [fieldNames] at found
  rw [NodeTags.toJson, mkObject_eq] at tags
  simp only [portsJson] at ports
  rcases s with ⟨package, clazz, input, output, parameter, methods, labels, description, custom⟩
  cases custom <;> cases methods <;>
    simp [found, List.lookup_cons, Fields.required, Fields.nullDefault, Fields.optional, asString,
      parameters, ports, names, tags, portsJson, NodeTags.toJson, mkObject_eq, Json.opt]

theorem ViewTransform.ofJson?_toJson {t : ViewTransform} (finite : t.IsFinite) :
    ViewTransform.ofJson? t.toJson = some t := by
  rw [ViewTransform.toJson, ViewTransform.ofJson?, ViewTransform.parse_text finite]
  rfl

/-- Every free-form value a snapshot holds is in canonical form, as a value read from a payload
always is: the default value of each parameter of its catalog entries, and each config value. -/
def Snapshot.ValuesCanonical (s : Snapshot) : Prop :=
  (∀ e ∈ s.structures, ∀ p ∈ e.2.parameter, Json.canonical p.defaultValue = p.defaultValue) ∧
    ∀ e ∈ s.configs, ∀ v ∈ e.2.values, Json.canonical v = v

/-- A snapshot with a finite transform and values in canonical form is read back from its payload
form. -/
theorem Snapshot.ofJson?_toJson (s : Snapshot) (finite : s.transform.IsFinite)
    (canonical : s.ValuesCanonical) : Snapshot.ofJson? s.toJson = some s := by
  have nodes := pairsOfJson?_pairsJson s.nodes fun e _ => Node.ofJson?_toJson e.2
  have edges := pairsOfJson?_pairsJson s.edges fun e _ => Edge.ofJson?_toJson e.2
  have structures := pairsOfJson?_pairsJson s.structures fun e mem =>
    NodeStructure.ofJson?_toJson e.2 (canonical.1 e mem)
  have configs := pairsOfJson?_pairsJson s.configs fun e mem =>
    configOfJson?_configJson e.2 fun entry listed =>
      canonical.2 e mem entry.2 (List.mem_map_of_mem listed)
  have anyConfigs := @pairsOfJson?_pairsJson String asString Json.str s.anyConfigs fun _ _ => rfl
  obtain ⟨fields, read, found⟩ := recordFields_mkObject
    ["nodes", "edges", "transform", "structures", "configs", "anyConfigs"] false (j := s.toJson) rfl (by simp)
  rw [ofJson?, read]
  simp [found, List.lookup_cons, Fields.withDefault, nodes, edges, structures, configs, anyConfigs,
    ViewTransform.ofJson?_toJson finite]

end PipelineEditor
