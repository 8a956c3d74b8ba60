import PipelineEditor.Params.Store

/-! Keys of the concrete types of `any` parameters: for names without `$`, a key names its node. -/

namespace PipelineEditor

theorem removeConfig_drops_exactly_anyKeys :
    (∀ key node param : String, anyKeyParam? key node = some param ↔ key = anyKey node param) ∧
    (∀ node node' param param' : String, '$' ∉ node.toList → '$' ∉ node'.toList →
      anyKey node param = anyKey node' param' → node = node' ∧ param = param') ∧
    (∀ (st : ParamStore) (name : String), '$' ∉ name.toList →
      (st.removeConfig name).configs.get? name = none ∧
      (∀ node, node ≠ name → (st.removeConfig name).configs.get? node = st.configs.get? node) ∧
      (∀ param, (st.removeConfig name).anyTypes.get? (anyKey name param) = none) ∧
      (∀ key, (∀ param, key ≠ anyKey name param) →
        (st.removeConfig name).anyTypes.get? key = st.anyTypes.get? key) ∧
      (∀ node param, '$' ∉ node.toList → node ≠ name →
        (st.removeConfig name).anyTypes.get? (anyKey node param) =
          st.anyTypes.get? (anyKey node param))) := by
  refine ⟨fun _ _ _ => anyKeyParam?_eq_some_iff, fun _ _ _ _ => anyKey_inj,
    fun st name nameFree => ⟨?_, ?_, ?_, ?_, ?_⟩⟩
  · simp [ParamStore.removeConfig_configs_get?]
  · intro node other
    simp [ParamStore.removeConfig_configs_get?, other]
  · exact ParamStore.removeConfig_anyTypes_get?_anyKey st name
  · exact ParamStore.removeConfig_anyTypes_get?_of_ne st name
  · intro node param nodeFree other
    apply ParamStore.removeConfig_anyTypes_get?_of_ne
    intro param' same
    exact other (anyKey_inj nodeFree nameFree same).1

/-- Removing node `a` keeps the key of parameter `x` of node `a1`, and a parameter name that
holds `$` still names one parameter. -/
theorem removeConfig_keeps_extended_name :
    ('$' ∉ "a".toList ∧ '$' ∉ "a1".toList ∧ "a1" ≠ "a" ∧
      (((ParamStore.empty.insertAnyType "a$x" "int").insertAnyType "a1$x" "str").removeConfig
          "a").anyTypes.get? (anyKey "a1" "x") =
        ((ParamStore.empty.insertAnyType "a$x" "int").insertAnyType "a1$x" "str").anyTypes.get?
          (anyKey "a1" "x")) ∧
    (anyKey "a" "1$x" = anyKey "a" "1$x" → "a" = "a" ∧ "1$x" = "1$x") :=
  ⟨⟨by decide, by decide, by decide,
      (removeConfig_drops_exactly_anyKeys.2.2 _ "a" (by decide)).2.2.2.2 "a1" "x" (by decide)
        (by decide)⟩,
    removeConfig_drops_exactly_anyKeys.2.1 "a" "a" "1$x" "1$x" (by decide) (by decide)⟩

end PipelineEditor
