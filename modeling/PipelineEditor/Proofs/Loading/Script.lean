import Mathlib.Data.List.Induction
import PipelineEditor.Proofs.Loading.Edges
import PipelineEditor.Proofs.Loading.Entries
import PipelineEditor.Proofs.Invariant.Script
import PipelineEditor.Proofs.Atomicity

/-! What loading a decompiled script makes of the editor. -/

namespace PipelineEditor

/-- Keeping the entries whose value passes a test keeps exactly the look-ups that pass it. -/
theorem Table.get?_filter_value {α : Type} (t : Table α) (keep : α → Bool) (key : String) :
    (t.filter fun _ v => keep v).get? key = (t.get? key).filter keep := by
  obtain ⟨entries, ascending⟩ := t
  simp only [Table.filter, Table.get?]
  induction entries with
  | nil => rfl
  | cons e rest ih =>
    obtain ⟨k, v⟩ := e
    obtain ⟨headBelow, restAscending⟩ := List.pairwise_cons.mp ascending
    by_cases atHead : key = k
    · subst atHead
      have noneLater : rest.lookup key = none := by
        rw [List.lookup_eq_none_iff]
        intro p listed
        exact bne_iff_ne.mpr (String.ne_of_lt (headBelow p listed))
      cases kept : keep v <;> simp [kept, ih restAscending, noneLater, Option.filter_some]
    · have notHead : (key == k) = false := beq_eq_false_iff_ne.mpr atHead
      cases kept : keep v <;> simp [List.lookup_cons, kept, notHead, ih restAscending]

/-- A catalog keeping the entries that pass a test has exactly the look-ups that pass it. -/
theorem Catalog.get?_retain (c : Catalog) (keep : NodeStructure → Bool) (package : String) :
    (c.retain keep).get? package = (c.get? package).filter keep :=
  Table.get?_filter_value c.structures keep package

@[simp] theorem Script.CustomBlock.toStructure_package (b : Script.CustomBlock) (package : String) :
    (b.toStructure package).package = package :=
  rfl

namespace Editor

section ScriptCatalog

variable (C : Catalog) (l : List Script.CustomBlock) (b : Script.CustomBlock)

/-- A block added last registers its entry under the package of its number. -/
theorem scriptCatalog_append_get? (P : String) :
    (scriptCatalog C (l ++ [b])).1.get? P =
      if P = customNodePackage ++ toString (l.length + 1) then some (b.toStructure P)
      else (scriptCatalog C l).1.get? P := by
  simp only [scriptCatalog, List.zipIdx_append, List.foldl_append, List.zipIdx_singleton,
    List.foldl_cons, List.foldl_nil, Nat.zero_add]
  simp only [Catalog.get?, Catalog.register, Table.get?_insert, Script.CustomBlock.toStructure_package]
  by_cases isLast : P = customNodePackage ++ toString (l.length + 1)
  · subst isLast
    simp
  · rw [if_neg isLast, if_neg isLast]

/-- A block added last comes first in the list of packages by class. -/
theorem scriptCatalog_append_packages :
    (scriptCatalog C (l ++ [b])).2 =
      (b.clazz, customNodePackage ++ toString (l.length + 1)) :: (scriptCatalog C l).2 := by
  simp only [scriptCatalog, List.zipIdx_append, List.foldl_append, List.zipIdx_singleton,
    List.foldl_cons, List.foldl_nil, Nat.zero_add]

end ScriptCatalog

/-- Blocks of different numbers have different packages. -/
theorem blockPackage_ne {i j : Nat} (apart : i ≠ j) :
    customNodePackage ++ toString (i + 1) ≠ customNodePackage ++ toString (j + 1) :=
  fun same => apart (Nat.succ_injective (append_toString_inj same))

/-- The entry of each block stands under the package of its number. -/
theorem scriptCatalog_get?_block (C : Catalog) {blocks : List Script.CustomBlock} {i : Nat}
    {b : Script.CustomBlock} (found : blocks[i]? = some b) :
    (scriptCatalog C blocks).1.get? (customNodePackage ++ toString (i + 1)) =
      some (b.toStructure (customNodePackage ++ toString (i + 1))) := by
  induction blocks using List.reverseRecOn generalizing i with
  | nil => simp at found
  | append_singleton l a ih =>
    rw [scriptCatalog_append_get?]
    rcases Nat.lt_or_ge i l.length with order | order
    · rw [List.getElem?_append_left order] at found
      rw [if_neg (blockPackage_ne (Nat.ne_of_lt order)), ih found]
    · rw [List.getElem?_append_right order, List.getElem?_singleton] at found
      obtain ⟨zeroOffset, rfl⟩ : i - l.length = 0 ∧ a = b := by simpa using found
      have isLast : i = l.length := by omega
      subst isLast
      rw [if_pos rfl]

/-- A package of no block keeps the entry it had, unless that entry carries user code. -/
theorem scriptCatalog_get?_of_ne (C : Catalog) {blocks : List Script.CustomBlock} {P : String}
    (noBlock : ∀ i < blocks.length, P ≠ customNodePackage ++ toString (i + 1)) :
    (scriptCatalog C blocks).1.get? P = (C.get? P).filter fun s => !s.isCustom := by
  induction blocks using List.reverseRecOn with
  | nil => exact Catalog.get?_retain C _ P
  | append_singleton l a ih =>
    rw [scriptCatalog_append_get?, if_neg (noBlock l.length (by simp))]
    exact ih fun i inRange => noBlock i (by simp; omega)

/-- Block `i` declares a class, and no later block does. -/
def LastBlockOf (blocks : List Script.CustomBlock) (clazz : String) (i : Nat) : Prop :=
  ∃ b, blocks[i]? = some b ∧ b.clazz = clazz ∧
    ∀ j b', i < j → blocks[j]? = some b' → b'.clazz ≠ clazz

/-- A package's entry declares a class, and no package before it, in package order, does. -/
def FirstOfClazz (catalog : Catalog) (clazz package : String) : Prop :=
  ∃ s, catalog.get? package = some s ∧ s.clazz = clazz ∧
    ∀ P s', catalog.get? P = some s' → s'.clazz = clazz → ¬ P < package

/-- The package a node call's class resolves to: that of the last block declaring the class, and
when no block declares it, the first catalog package declaring it. -/
def ResolvesTo (blocks : List Script.CustomBlock) (catalog : Catalog) (clazz package : String) :
    Prop :=
  (∃ i, LastBlockOf blocks clazz i ∧ package = customNodePackage ++ toString (i + 1)) ∨
    ((∀ b ∈ blocks, b.clazz ≠ clazz) ∧ FirstOfClazz catalog clazz package)

/-- The package listed for a class is that of the last block declaring it. -/
theorem lookup_scriptPackages_eq_some (C : Catalog) {blocks : List Script.CustomBlock}
    {clazz package : String} (listed : (scriptCatalog C blocks).2.lookup clazz = some package) :
    ∃ i, LastBlockOf blocks clazz i ∧ package = customNodePackage ++ toString (i + 1) := by
  induction blocks using List.reverseRecOn with
  | nil => simp [scriptCatalog] at listed
  | append_singleton l a ih =>
    rw [scriptCatalog_append_packages] at listed
    by_cases isLast : clazz = a.clazz
    · simp only [List.lookup_cons, isLast, beq_self_eq_true, Option.some.injEq] at listed
      refine ⟨l.length, ⟨a, List.getElem?_concat_length, isLast.symm, fun j b' after laterBlock => ?_⟩, listed.symm⟩
      rw [List.getElem?_eq_none (by simp; omega)] at laterBlock
      cases laterBlock
    · have notLast : (clazz == a.clazz) = false := beq_eq_false_iff_ne.mpr isLast
      simp only [List.lookup_cons, notLast] at listed
      obtain ⟨i, ⟨b, found, declares, noLater⟩, rfl⟩ := ih listed
      have inRange : i < l.length := (List.getElem?_eq_some_iff.mp found).1
      refine ⟨i, ⟨b, by rw [List.getElem?_append_left inRange]; exact found, declares, fun j b' after laterBlock => ?_⟩, rfl⟩
      rcases Nat.lt_or_ge j l.length with order | order
      · rw [List.getElem?_append_left order] at laterBlock
        exact noLater j b' after laterBlock
      · rw [List.getElem?_append_right order, List.getElem?_singleton] at laterBlock
        obtain ⟨-, rfl⟩ : j - l.length = 0 ∧ a = b' := by simpa using laterBlock
        exact Ne.symm isLast

/-- A class no package is listed for is declared by no block. -/
theorem lookup_scriptPackages_eq_none (C : Catalog) {blocks : List Script.CustomBlock}
    {clazz : String} (unlisted : (scriptCatalog C blocks).2.lookup clazz = none) :
    ∀ b ∈ blocks, b.clazz ≠ clazz := by
  induction blocks using List.reverseRecOn with
  | nil => simp
  | append_singleton l a ih =>
    rw [scriptCatalog_append_packages] at unlisted
    by_cases isLast : clazz = a.clazz
    · simp [isLast] at unlisted
    · have notLast : (clazz == a.clazz) = false := beq_eq_false_iff_ne.mpr isLast
      simp only [List.lookup_cons, notLast] at unlisted
      intro b listedBlock
      rcases List.mem_append.mp listedBlock with listedBlock | listedBlock
      · exact ih unlisted b listedBlock
      · rw [List.mem_singleton.mp listedBlock]
        exact Ne.symm isLast

/-- In a list of entries stored under their packages in ascending order, the first entry
declaring a class comes before every other entry declaring it. -/
theorem find?_clazz_least {l : List (String × NodeStructure)} (ascending : l.Pairwise fun a b => a.1 < b.1)
    (keyed : ∀ p ∈ l, p.2.package = p.1) {clazz : String} {s : NodeStructure}
    (found : (l.map Prod.snd).find? (fun s => s.clazz == clazz) = some s) :
    (s.package, s) ∈ l ∧ s.clazz = clazz ∧ ∀ p ∈ l, p.2.clazz = clazz → ¬ p.1 < s.package := by
  induction l with
  | nil => simp at found
  | cons p rest ih =>
    obtain ⟨headBelow, restAscending⟩ := List.pairwise_cons.mp ascending
    have headKeyed : p.2.package = p.1 := keyed p List.mem_cons_self
    rw [List.map_cons, List.find?_cons] at found
    by_cases declares : p.2.clazz = clazz
    · simp only [declares, beq_self_eq_true, Option.some.injEq] at found
      subst found
      refine ⟨by rw [headKeyed]; exact List.mem_cons_self, declares, fun q listed _ => ?_⟩
      rw [headKeyed]
      rcases List.mem_cons.mp listed with rfl | listed
      · exact String.lt_irrefl _
      · exact String.lt_asymm (headBelow q listed)
    · have notDeclares : (p.2.clazz == clazz) = false := beq_eq_false_iff_ne.mpr declares
      simp only [notDeclares] at found
      obtain ⟨member, declares', least⟩ := ih restAscending (fun q listed => keyed q (List.mem_cons_of_mem _ listed)) found
      refine ⟨List.mem_cons_of_mem _ member, declares', fun q listed qDeclares => ?_⟩
      rcases List.mem_cons.mp listed with rfl | listed
      · exact absurd qDeclares declares
      · exact least q listed qDeclares

/-- The package a class is looked up to is the first declaring it, in package order. -/
theorem Catalog.firstOfClazz_of_packageOfClazz? {c : Catalog} {clazz package : String}
    (found : c.packageOfClazz? clazz = some package) : FirstOfClazz c clazz package := by
  obtain ⟨s, findIs, rfl⟩ := Option.map_eq_some_iff.mp found
  obtain ⟨member, declares, least⟩ := find?_clazz_least c.structures.ascending c.keyed findIs
  refine ⟨s, Table.get?_of_mem_entries (Table.keys_nodup _) member, declares, fun P s' other otherDeclares => ?_⟩
  exact least (P, s') (Table.mem_entries_of_get? other) otherDeclares

/-- A class resolves, in a script's catalog, as the script's blocks and the catalog say. -/
theorem callPackage_resolves (C : Catalog) {blocks : List Script.CustomBlock} {catalog : Catalog}
    {clazz package : String} (resolved : callPackage (scriptCatalog C blocks).2 catalog clazz = .ok package) :
    ResolvesTo blocks catalog clazz package := by
  unfold callPackage at resolved
  rcases lookedUp : (scriptCatalog C blocks).2.lookup clazz with _ | listed
  · rw [lookedUp] at resolved
    rcases firstFound : catalog.packageOfClazz? clazz with _ | first
    · rw [firstFound] at resolved
      cases resolved
    · rw [firstFound, Except.ok.injEq] at resolved
      subst resolved
      exact .inr ⟨lookup_scriptPackages_eq_none C lookedUp, Catalog.firstOfClazz_of_packageOfClazz? firstFound⟩
  · rw [lookedUp, Except.ok.injEq] at resolved
    subst resolved
    exact .inl (lookup_scriptPackages_eq_some C lookedUp)

end Editor

/-- Whether the first declaration of a parameter is of kind `any`. -/
def NodeStructure.firstDeclaredAny (s : NodeStructure) (q : String) : Bool :=
  match s.parameter? q with
  | some d => d.kind.isAny
  | none => false

theorem NodeStructure.firstDeclaredAny_eq (s : NodeStructure) (q : String) :
    ((s.parameter? q).map fun d => d.kind.isAny).getD false = s.firstDeclaredAny q := by
  unfold firstDeclaredAny
  cases s.parameter? q <;> rfl

/-- The last type tag a node call's settings set on a parameter. -/
def Script.lastTag (settings : List Script.Param) (q : String) : Option String :=
  (settings.filterMap fun p => if p.key = q then p.type else none).getLast?

@[simp] theorem Script.lastTag_nil (q : String) : Script.lastTag [] q = none := rfl

theorem Script.lastTag_cons (p : Script.Param) (rest : List Script.Param) (q : String) :
    Script.lastTag (p :: rest) q = (Script.lastTag rest q).or (if p.key = q then p.type else none) := by
  unfold lastTag
  rw [List.filterMap_cons]
  cases tagIs : (if p.key = q then p.type else none) with
  | none => simp
  | some t => simp [List.getLast?_cons]

/-- Whether an entry declares a parameter of kind `any` under a name. -/
def NodeStructure.declaresAny (s : NodeStructure) (q : String) : Bool :=
  s.parameter.any fun d => d.name == q && d.kind.isAny

theorem NodeStructure.declaresAny_of_firstDeclaredAny {s : NodeStructure} {q : String}
    (firstAny : s.firstDeclaredAny q = true) : s.declaresAny q = true := by
  unfold firstDeclaredAny at firstAny
  split at firstAny
  · rename_i d lookedUp
    have findIs : s.parameter.find? (fun p => p.name == q) = some d := lookedUp
    have member : d ∈ s.parameter := List.mem_of_find?_eq_some findIs
    have named := List.find?_some findIs
    rw [beq_iff_eq] at named
    exact List.any_eq_true.mpr ⟨d, member, by simp [named, firstAny]⟩
  · cases firstAny

theorem NodeStructure.declaresAny_iff {s : NodeStructure} {q : String} :
    s.declaresAny q = true ↔ ∃ d ∈ s.parameter, d.kind.isAny = true ∧ d.name = q := by
  simp only [declaresAny, List.any_eq_true, Bool.and_eq_true, beq_iff_eq]
  exact exists_congr fun d => and_congr_right fun _ => And.comm

/-- The concrete type a loaded script leaves for parameter `q` of a node of entry `s` whose call
gives `settings`: none unless the entry declares `q` of kind `any`; then the last type tag set on
`q` when its first declaration is of kind `any`, and `str` otherwise. -/
def scriptAnyType (s : NodeStructure) (settings : List Script.Param) (q : String) : Option String :=
  if s.declaresAny q then
    some (if s.firstDeclaredAny q then (Script.lastTag settings q).getD defaultAnyType
      else defaultAnyType)
  else none

namespace Editor

variable {e e' : Editor}

/-- One setting of a node call: its value is stored in the node's config, and its type tag
chooses the concrete type of the parameter when the parameter's first declaration is of kind
`any`. Nothing else changes. -/
theorem applySettings_cons_eq_ok {node package : String} {s : NodeStructure} {p : Script.Param}
    {rest : List Script.Param} (known : e.catalog.get? package = some s)
    (ran : e.applySettings node package (p :: rest) = .ok e') :
    ∃ e₁ : Editor, e₁.applySettings node package rest = .ok e' ∧ e₁ = { e with params := e₁.params } ∧
      (∀ k, e₁.params.configs.get? k =
        if k = node then (e.params.configs.get? k).map (·.insert p.key p.value)
        else e.params.configs.get? k) ∧
      ∀ key, e₁.params.anyTypes.get? key =
        if key = anyKey node p.key ∧ s.firstDeclaredAny p.key = true then
          p.type.or (e.params.anyTypes.get? key)
        else e.params.anyTypes.get? key := by
  simp only [applySettings, Except.bind_eq_ok] at ran
  obtain ⟨store, stored, restRan⟩ := ran
  obtain ⟨config, configIs, rfl⟩ := ParamStore.setValue_eq_ok.mp stored
  have configs : ∀ k, (e.params.configs.insert node (config.insert p.key p.value)).get? k =
      if k = node then (e.params.configs.get? k).map (·.insert p.key p.value)
      else e.params.configs.get? k := fun k => by
    rw [Table.get?_insert]
    split
    · rename_i atNode
      rw [atNode, configIs]
      rfl
    · rfl
  cases tagIs : p.type with
  | none =>
    simp only [tagIs, pure_bind] at restRan
    refine ⟨_, restRan, rfl, configs, fun key => ?_⟩
    split <;> rfl
  | some t =>
    simp only [tagIs, Except.bind_eq_ok] at restRan
    obtain ⟨s', known', tagged⟩ := restRan
    obtain rfl : s' = s := by
      rw [Catalog.structure?_eq_ok] at known'
      exact Option.some.inj (known'.symm.trans known)
    rw [NodeStructure.firstDeclaredAny_eq] at tagged
    split at tagged
    · rename_i firstAny
      simp only [Except.bind_eq_ok, pure_bind] at tagged
      obtain ⟨store', storedType, restRan⟩ := tagged
      obtain ⟨-, rfl⟩ := ParamStore.setAnyType_eq_ok.mp storedType
      refine ⟨_, restRan, rfl, configs, fun key => ?_⟩
      simp only [Table.get?_insert, firstAny, and_true, Option.some_or]
    · rename_i notFirstAny
      simp only [pure_bind] at tagged
      refine ⟨_, tagged, rfl, configs, fun key => ?_⟩
      simp [notFirstAny]

/-- A node call's settings, stored in order: each value goes into the node's config, the later of
two values of one parameter winning, and a parameter whose first declaration is of kind `any`
takes the last type tag set on it. Nothing else changes. -/
theorem applySettings_lookups {node package : String} {s : NodeStructure}
    {settings : List Script.Param} (known : e.catalog.get? package = some s)
    (ran : e.applySettings node package settings = .ok e') :
    e' = { e with params := e'.params } ∧
      (∀ k, e'.params.configs.get? k =
        if k = node then
          (e.params.configs.get? k).map fun c => settings.foldl (fun c p => c.insert p.key p.value) c
        else e.params.configs.get? k) ∧
      (∀ q, s.firstDeclaredAny q = true → e'.params.anyTypes.get? (anyKey node q) =
        (Script.lastTag settings q).or (e.params.anyTypes.get? (anyKey node q))) ∧
      (∀ key, (∀ q, s.firstDeclaredAny q = true → key ≠ anyKey node q) →
        e'.params.anyTypes.get? key = e.params.anyTypes.get? key) := by
  induction settings generalizing e with
  | nil =>
    cases ran
    refine ⟨rfl, fun k => ?_, fun q _ => by simp, fun key _ => rfl⟩
    split <;> simp
  | cons p rest ih =>
    obtain ⟨e₁, restRan, shape₁, configs₁, types₁⟩ := applySettings_cons_eq_ok known ran
    have known₁ : e₁.catalog.get? package = some s := by rw [shape₁]; exact known
    obtain ⟨shape, configs, tags, others⟩ := ih known₁ restRan
    refine ⟨by rw [shape, shape₁], fun k => ?_, fun q firstAny => ?_, fun key notFirst => ?_⟩
    · rw [configs, configs₁]
      by_cases atNode : k = node
      · rw [if_pos atNode, if_pos atNode, if_pos atNode, Option.map_map]
        rfl
      · rw [if_neg atNode, if_neg atNode, if_neg atNode]
    · rw [tags q firstAny, types₁, Script.lastTag_cons]
      by_cases sameParam : p.key = q
      · subst sameParam
        rw [if_pos ⟨rfl, firstAny⟩, if_pos rfl, Option.or_assoc]
      · rw [if_neg fun same => sameParam (anyKey_right_inj same.1).symm, if_neg sameParam, Option.or_none]
    · rw [others key notFirst, types₁, if_neg]
      rintro ⟨rfl, firstAny⟩
      exact notFirst p.key firstAny rfl

/-- A node call's position is its first two coordinates. -/
theorem callPosition_eq_ok {call : Script.NodeCall} {position : Position}
    (positioned : callPosition call = .ok position) :
    ∃ x y rest, call.pos = x :: y :: rest ∧ position = ⟨x, y⟩ := by
  unfold callPosition at positioned
  split at positioned
  · rename_i x y rest posIs
    cases positioned
    exact ⟨x, y, rest, posIs, rfl⟩
  · cases positioned

/-- One node call, in an editor the commands keep in their invariant: it adds its node, unselected,
under its own name, which was free and is valid. The node's config is its entry's starting config
with the call's settings stored over it, and its keys hold the types the call leaves; every other
node, config and chosen type stays. -/
theorem stageCall_lookups (h : e.Invariant) {call : Script.NodeCall} {package : String}
    {position : Position} {n : Node} {e₁ e₂ : Editor}
    (created : (create package position (some call.node)).run e = .ok n e₁)
    (settingsRan : e₁.applySettings call.node package call.params = .ok e₂) :
    ∃ s, e.catalog.get? package = some s ∧ e.graph.contains call.node = false ∧
      isValidNodeName call.node = true ∧
      e₂ = { e with
        graph := { e.graph with
          nodes := e.graph.nodes.insert call.node ⟨call.node, package, position, false⟩ }
        params := e₂.params } ∧
      (∀ k, e₂.params.configs.get? k =
        if k = call.node then some (call.params.foldl (fun c p => c.insert p.key p.value) s.startConfig)
        else e.params.configs.get? k) ∧
      (∀ q, e₂.params.anyTypes.get? (anyKey call.node q) = scriptAnyType s call.params q) ∧
      (∀ key, (∀ q, key ≠ anyKey call.node q) →
        e₂.params.anyTypes.get? key = e.params.anyTypes.get? key) := by
  obtain ⟨s, known, -, named, free, built, rfl⟩ := create_run_eq_ok created
  obtain ⟨valid, -, nameIs⟩ := newNodeName_some_eq_ok.mp named
  rw [nameIs] at free built
  subst built
  obtain ⟨shape₂, configs, tags, others⟩ := applySettings_lookups (by exact known) settingsRan
  -- the new node's keys held nothing: every chosen type is keyed under a live node
  have noTypes : ∀ q, e.params.anyTypes.get? (anyKey call.node q) = none := by
    intro q
    rw [← Option.not_isSome_iff_eq_none, h.params.anyTypes_exact]
    rintro ⟨k, n', s', p, found, -, -, -, keyIs⟩
    have sameName := (anyKey_inj (h.graph.dollar_not_mem found) (isValidNodeName_iff.mp valid).2 keyIs.symm).1
    rw [sameName, node?_eq_none_of_contains free] at found
    cases found
  have started : ∀ q, (e.params.initNode call.node s).anyTypes.get? (anyKey call.node q) =
      if s.declaresAny q then some defaultAnyType else none := fun q => by
    rw [ParamStore.initNode_anyTypes_get?, noTypes q]
    by_cases declares : s.declaresAny q = true
    · obtain ⟨d, declared, isAny, rfl⟩ := NodeStructure.declaresAny_iff.mp declares
      rw [if_pos ⟨d, declared, isAny, rfl⟩, if_pos declares]
    · rw [if_neg declares, if_neg]
      rintro ⟨d, declared, isAny, keyIs⟩
      exact declares (NodeStructure.declaresAny_iff.mpr ⟨d, declared, isAny, (anyKey_right_inj keyIs).symm⟩)
  refine ⟨s, known, free, valid, shape₂, fun k => ?_, fun q => ?_, fun key keyIs => ?_⟩
  · rw [configs]
    simp only [ParamStore.initNode_configs_get?_eq]
    by_cases sameName : k = call.node <;> simp [sameName]
  · unfold scriptAnyType
    by_cases firstAny : s.firstDeclaredAny q = true
    · have declares := NodeStructure.declaresAny_of_firstDeclaredAny firstAny
      rw [tags q firstAny, started, if_pos declares, if_pos declares, if_pos firstAny]
      cases Script.lastTag call.params q <;> rfl
    · rw [others _ fun q' firstAny' sameKey => firstAny (by rw [anyKey_right_inj sameKey]; exact firstAny'), started,
        if_neg firstAny]
  · rw [others key fun q _ => keyIs q, ParamStore.initNode_anyTypes_get?, if_neg]
    rintro ⟨d, -, -, declared⟩
    exact keyIs d.name declared

/-- What a loaded script holds for one of its node calls: the node stands under the call's name,
unselected, at the call's first two coordinates, of the package its class resolves to; its config
is the entry's starting config with the call's settings stored over it, and each of its keys
holds the type the call leaves. -/
def CallLoaded (blocks : List Script.CustomBlock) (F : Editor) (call : Script.NodeCall) : Prop :=
  ∃ package s x y rest, call.pos = x :: y :: rest ∧ ResolvesTo blocks F.catalog call.clazz package ∧
    F.catalog.get? package = some s ∧ F.node? call.node = some ⟨call.node, package, ⟨x, y⟩, false⟩ ∧
    F.params.configs.get? call.node =
      some (call.params.foldl (fun c p => c.insert p.key p.value) s.startConfig) ∧
    ∀ q, F.params.anyTypes.get? (anyKey call.node q) = scriptAnyType s call.params q

/-- What holds for a call holds in any editor that agrees on the catalog, the call's node, its
config and its keys. -/
theorem CallLoaded.of_agree {blocks : List Script.CustomBlock} {F F' : Editor}
    {call : Script.NodeCall} (loaded : CallLoaded blocks F call) (sameCatalog : F'.catalog = F.catalog)
    (sameNode : F'.node? call.node = F.node? call.node)
    (sameConfig : F'.params.configs.get? call.node = F.params.configs.get? call.node)
    (sameTypes : ∀ q, F'.params.anyTypes.get? (anyKey call.node q) =
      F.params.anyTypes.get? (anyKey call.node q)) :
    CallLoaded blocks F' call := by
  obtain ⟨package, s, x, y, rest, posIs, resolves, known, found, configIs, typesAre⟩ := loaded
  refine ⟨package, s, x, y, rest, posIs, ?_, ?_, sameNode.trans found, sameConfig.trans configIs,
    fun q => (sameTypes q).trans (typesAre q)⟩
  · rw [sameCatalog]
    exact resolves
  · rw [sameCatalog]
    exact known

/-- One node call, in an editor the commands keep in their invariant, whose class resolves to
`package`: the editor it leaves keeps the invariant, the catalog, the edges, the selection and the
view; the call's name was free and now holds the call's node, every other name keeps its node;
the call ends as `CallLoaded` says, and what held for an earlier node still holds. -/
theorem stageCall_loaded (h : e.Invariant) {blocks : List Script.CustomBlock}
    {call : Script.NodeCall} {package : String} {position : Position} {n : Node} {e₁ e₂ : Editor}
    (resolves : ResolvesTo blocks e.catalog call.clazz package)
    (positioned : callPosition call = .ok position)
    (created : (create package position (some call.node)).run e = .ok n e₁)
    (settingsRan : e₁.applySettings call.node package call.params = .ok e₂) :
    e₂.Invariant ∧ e₂.catalog = e.catalog ∧ e₂.graph.edges = e.graph.edges ∧
      e₂.selection = e.selection ∧ e₂.transform = e.transform ∧ e.node? call.node = none ∧
      (∀ k, e₂.node? k =
        if k = call.node then some ⟨call.node, package, position, false⟩ else e.node? k) ∧
      CallLoaded blocks e₂ call ∧ (∀ c, CallLoaded blocks e c → CallLoaded blocks e₂ c) := by
  obtain ⟨s, known, free, valid, shape₂, configs, types, others⟩ := stageCall_lookups h created settingsRan
  have invariant₂ : e₂.Invariant :=
    ((h.of_create (by intro given; cases given) created).applySettings settingsRan).1
  have catalog₂ : e₂.catalog = e.catalog := by rw [shape₂]
  have nodes₂ : ∀ k, e₂.node? k =
      if k = call.node then some ⟨call.node, package, position, false⟩ else e.node? k := by
    intro k
    rw [shape₂]
    simp only [node?_def, Table.get?_insert]
  have loaded₂ : CallLoaded blocks e₂ call := by
    obtain ⟨x, y, rest', posIs, rfl⟩ := callPosition_eq_ok positioned
    refine ⟨package, s, x, y, rest', posIs, ?_, ?_, by rw [nodes₂, if_pos rfl],
      by rw [configs, if_pos rfl], types⟩
    · rw [catalog₂]
      exact resolves
    · rw [catalog₂]
      exact known
  have keeps : ∀ c, CallLoaded blocks e c → CallLoaded blocks e₂ c := by
    intro c loaded
    obtain ⟨_, _, _, _, _, -, -, -, found, -, -⟩ := id loaded
    have apart : c.node ≠ call.node := by
      intro same
      rw [same, node?_eq_none_of_contains free] at found
      cases found
    refine loaded.of_agree catalog₂ (by rw [nodes₂, if_neg apart]) (by rw [configs, if_neg apart])
      fun q => others _ fun q' same => apart ?_
    exact (anyKey_inj (h.graph.dollar_not_mem found) (isValidNodeName_iff.mp valid).2 same).1
  exact ⟨invariant₂, catalog₂, by rw [shape₂], by rw [shape₂], by rw [shape₂], node?_eq_none_of_contains free, nodes₂,
    loaded₂, keeps⟩

/-- Creating the nodes of a script's calls one by one, from an editor the commands keep in their
invariant: each call's name was free and the names are distinct, each call ends as
`CallLoaded` says, what held for a node before still holds, every node is an earlier one or a
call's, and the catalog, edges, selection and view stay. -/
theorem stageCalls_loaded (h : e.Invariant) {packages : List (String × String)}
    {blocks : List Script.CustomBlock} {calls : List Script.NodeCall}
    (resolves : ∀ clazz package, callPackage packages e.catalog clazz = .ok package →
      ResolvesTo blocks e.catalog clazz package)
    (ran : stageCalls packages e calls = .ok e') :
    e'.catalog = e.catalog ∧ e'.graph.edges = e.graph.edges ∧ e'.selection = e.selection ∧
      e'.transform = e.transform ∧
      (∀ call, CallLoaded blocks e call → CallLoaded blocks e' call) ∧
      (∀ call ∈ calls, CallLoaded blocks e' call ∧ e.node? call.node = none) ∧
      (calls.map (·.node)).Nodup ∧
      ∀ k, (e'.node? k).isSome → (e.node? k).isSome ∨ ∃ call ∈ calls, call.node = k := by
  induction calls generalizing e with
  | nil =>
    cases ran
    exact ⟨rfl, rfl, rfl, rfl, fun _ loaded => loaded, by simp, List.nodup_nil, fun k isLive => .inl isLive⟩
  | cons call rest ih =>
    simp only [stageCalls, Except.bind_eq_ok] at ran
    obtain ⟨package, packageIs, position, positioned, ⟨n, e₁⟩, created, e₂, settingsRan, restRan⟩ := ran
    rw [Edit.toExcept_eq_ok] at created
    obtain ⟨invariant₂, catalog₂, edges₂, selection₂, transform₂, free, nodes₂, loaded₂, keeps⟩ :=
      stageCall_loaded h (resolves _ _ packageIs) positioned created settingsRan
    obtain ⟨catalog', edges', selection', transform', frame, callsLoaded, distinct, live⟩ :=
      ih invariant₂ (by rw [catalog₂]; exact resolves) restRan
    refine ⟨catalog'.trans catalog₂, edges'.trans edges₂, selection'.trans selection₂, transform'.trans transform₂,
      fun c loaded => frame c (keeps c loaded), fun c listed => ?_, ?_, fun k isLive => ?_⟩
    · rcases List.mem_cons.mp listed with rfl | listed
      · exact ⟨frame _ loaded₂, free⟩
      · obtain ⟨loaded', free'⟩ := callsLoaded c listed
        refine ⟨loaded', ?_⟩
        rw [nodes₂] at free'
        split at free'
        · cases free'
        · exact free'
    · refine List.nodup_cons.mpr ⟨fun member => ?_, distinct⟩
      obtain ⟨c, listed, nameIs⟩ := List.mem_map.mp member
      have free' := (callsLoaded c listed).2
      rw [nameIs, nodes₂, if_pos rfl] at free'
      cases free'
    · rcases live k isLive with live₂ | ⟨c, listed, rfl⟩
      · rw [nodes₂] at live₂
        split at live₂
        · rename_i isCall
          exact .inr ⟨call, List.mem_cons_self, isCall.symm⟩
        · exact .inl live₂
      · exact .inr ⟨c, List.mem_cons_of_mem _ listed, rfl⟩

/-- The editor `E'` is script `r` loaded over editor `E`: the catalog of `E` without its entries
carrying user code, with one entry per block under the package of its number; one node per call,
as `CallLoaded` says, and no other node, config or chosen type; the links connected in order;
nothing selected and the view reset. -/
structure ScriptLoaded (E : Editor) (r : DecompiledScript) (E' : Editor) : Prop where
  catalog_block : ∀ i b, r.custom[i]? = some b →
    E'.catalog.get? (customNodePackage ++ toString (i + 1)) =
      some (b.toStructure (customNodePackage ++ toString (i + 1)))
  catalog_kept : ∀ P, (∀ i < r.custom.length, P ≠ customNodePackage ++ toString (i + 1)) →
    E'.catalog.get? P = (E.catalog.get? P).filter fun s => !s.isCustom
  call : ∀ call ∈ r.nodes, CallLoaded r.custom E' call
  names_nodup : (r.nodes.map (·.node)).Nodup
  node_call : ∀ k, (E'.node? k).isSome → ∃ call ∈ r.nodes, call.node = k
  config_live : ∀ k, (E'.params.configs.get? k).isSome = (E'.node? k).isSome
  anyType_owned : ∀ key, (E'.params.anyTypes.get? key).isSome →
    ∃ call ∈ r.nodes, ∃ q, key = anyKey call.node q
  edges : ∀ x, x ∈ E'.graph.edges ↔ LastInto (r.edges.map Script.Link.edge) x
  selection : E'.selection = Selection.empty
  transform : E'.transform = ViewTransform.identity

/-- Loading a script either is refused and leaves the editor as it was, or replaces it with
exactly the editor the script describes. -/
theorem loadScript_exact_state (E : Editor) (r : DecompiledScript) :
    (∃ err, (loadScript r).run E = .error err E) ∨
      ∃ E', (loadScript r).run E = .ok () E' ∧ ScriptLoaded E r E' := by
  rw [loadScript_run]
  rcases stagedOk : E.stageScript r with err | E'
  · exact .inl ⟨err, rfl⟩
  refine .inr ⟨E', rfl, ?_⟩
  obtain ⟨invariant, catalogIs⟩ := Invariant.stageScript stagedOk
  simp only [stageScript, Except.bind_eq_ok] at stagedOk
  obtain ⟨staged, callsRan, staged₂, linksRan, done⟩ := stagedOk
  have result := (Except.ok.inj done).symm
  clear done
  obtain ⟨catalog₁, noEdges₁, selection₁, transform₁, -, loaded, distinct, live⟩ :=
    stageCalls_loaded (invariant_ofCatalog _) (fun _ _ => callPackage_resolves E.catalog) callsRan
  rw [stageLinks_eq_connectAll] at linksRan
  have edgesIff := mem_edges_of_connectAll_of_nil (by rw [noEdges₁]; rfl) linksRan
  obtain ⟨es, rfl⟩ := connectAll_eq_ok_edges linksRan
  have unflagged : ∀ k, E'.node? k = (staged.node? k).map fun n => { n with selected := false } := by
    intro k
    rw [result, syncSelectedFlags_node?]
    simp [Selection.clear, Selection.contains]
  have finalCatalog : E'.catalog = staged.catalog := by rw [result]; rfl
  have finalParams : E'.params = staged.params := by rw [result]; rfl
  have callsLoaded : ∀ call ∈ r.nodes, CallLoaded r.custom E' call := by
    intro call listed
    have loaded' := (loaded call listed).1
    obtain ⟨_, _, _, _, _, -, -, -, found, -, -⟩ := id loaded'
    refine loaded'.of_agree finalCatalog ?_ (by rw [finalParams]) fun q => by rw [finalParams]
    rw [unflagged, found]
    rfl
  have nodeCall : ∀ k, (E'.node? k).isSome → ∃ call ∈ r.nodes, call.node = k := by
    intro k isLive
    rw [unflagged, Option.isSome_map] at isLive
    rcases live k isLive with initial | listed
    · simp [ofCatalog, Graph.empty] at initial
    · exact listed
  refine
    { catalog_block := fun i b found' => by rw [catalogIs]; exact scriptCatalog_get?_block E.catalog found'
      catalog_kept := fun P noBlock => by rw [catalogIs]; exact scriptCatalog_get?_of_ne E.catalog noBlock
      call := callsLoaded
      names_nodup := distinct
      node_call := nodeCall
      config_live := invariant.params.config_live
      anyType_owned := fun key typed => ?_
      edges := fun x => by rw [result]; exact edgesIff x
      selection := by rw [result, syncSelectedFlags_selection, selection₁]; rfl
      transform := by rw [result, syncSelectedFlags_transform, transform₁]; rfl }
  obtain ⟨k, n, s, p, found, -, -, -, rfl⟩ := (invariant.params.anyTypes_exact key).mp typed
  obtain ⟨call, listed, rfl⟩ := nodeCall k (by rw [found]; rfl)
  exact ⟨call, listed, p.name, rfl⟩

/-- A script with two custom blocks of class `X` and one call of class `X`. -/
def twoBlockScript : DecompiledScript :=
  { nodes := [{ node := "n", clazz := "X", pos := [0, 0] }]
    custom := [{ functionName := "f", clazz := "X", code := "" },
      { functionName := "g", clazz := "X", code := "" }] }

/-- The script loads, and its node takes the package of the second block, the last of class `X`. -/
theorem twoBlockScript_loaded :
    ∃ E', (loadScript twoBlockScript).run (ofCatalog Catalog.empty) = .ok () E' ∧
      ScriptLoaded (ofCatalog Catalog.empty) twoBlockScript E' ∧
      E'.node? "n" = some ⟨"n", customNodePackage ++ "2", ⟨0, 0⟩, false⟩ := by
  obtain ⟨E', stagedOk⟩ :
      ∃ E', (ofCatalog Catalog.empty).stageScript twoBlockScript = .ok E' := ⟨_, rfl⟩
  have nodeIs : (((ofCatalog Catalog.empty).stageScript twoBlockScript).toOption.bind
      fun E => E.node? "n") = some ⟨"n", customNodePackage ++ "2", ⟨0, 0⟩, false⟩ := rfl
  rw [stagedOk] at nodeIs
  rcases loadScript_exact_state (ofCatalog Catalog.empty) twoBlockScript with
    ⟨err, refused⟩ | ⟨E'', ran, loaded⟩
  · rw [loadScript_run, stagedOk] at refused
    cases refused
  · refine ⟨E'', ran, loaded, ?_⟩
    rw [loadScript_run, stagedOk] at ran
    cases ran
    exact nodeIs

end Editor

end PipelineEditor
