import ValueSchema.Proofs.Filter.Representation
import ValueSchema.Proofs.Registry
import ValueSchema.Proofs.Source.Bindings

/-!
# The two emission strategies agree

The mapping extension states the schema types of value objects in its text, and a filter writes them
into schemas at run time.  For work items that a registry accepts, what the text registers for a
type is what the filter writes.
-/

namespace ValueSchema

namespace SchemaFilter

variable {registry : Registry} {item : WorkItem}

theorem type_apply_schema
    (h : registry.underlying? item.typeName = some item.underlyingName) (s : Schema) :
    ∃ replaced, ((ofTypes registry).apply item.typeName s).value = .ok (true, replaced) ∧
      replaced.type = some item.schemaType.keyword :=
  ⟨_, value_apply_ofTypes_schema h s, rfl⟩

theorem get?_type_apply_object
    (h : registry.underlying? item.typeName = some item.underlyingName) (object : JsonObject) :
    ∃ replaced, ((ofTypes registry).apply item.typeName object).value = .ok (true, replaced) ∧
      replaced.get? "type" = some (.string item.schemaType.keyword) := by
  have hkeyword : "type" ∈ schemaKeywords := by decide
  refine ⟨_, value_apply_ofTypes_object h object, ?_⟩
  rw [JsonObject.get?_storeAll, if_pos hkeyword]
  rfl

end SchemaFilter

namespace Source

/-- Synthesis of the mapping extension registers the bindings of the work items, in order. -/
theorem bindings_mappingExtension
    {τ : Type} [SymbolTable τ] {symbols : τ} {c : Configuration} {items : List WorkItem}
    (hitems : ∀ item ∈ items, '\n' ∉ item.typeName.toList) (hvalid : c.IsValid)
    (hselected : c.effective = .mappingExtension) (hframework : referencesFramework symbols = true) :
    ∃ made, (synthesize (some c) symbols items).value = some made ∧
      bindings made.text = items.map binding := by
  have hmade : (synthesize (some c) symbols items).value =
      some (artifact .mappingExtension c items).value := by
    rw [synthesize]
    simp only [Option.getD_some, hselected, hframework, if_true]
    rfl
  exact ⟨_, hmade, bindings_mappingArtifact hvalid hitems⟩

/-- The mapping extension and the filter describe the same value objects by the same types. -/
theorem registrations_agree_with_filter
    {τ : Type} [SymbolTable τ] {symbols : τ} {c : Configuration} {items : List WorkItem}
    {registry : Registry}
    (hitems : ∀ item ∈ items, '\n' ∉ item.typeName.toList)
    (hregistry : Registry.ofItems items = .ok registry) (hvalid : c.IsValid)
    (hselected : c.effective = .mappingExtension)
    (hframework : referencesFramework symbols = true) :
    ∃ made, (synthesize (some c) symbols items).value = some made ∧
      (bindings made.text).length = items.length ∧
      (∀ (i : Nat) (item : WorkItem), items[i]? = some item →
        ∃ type, (bindings made.text)[i]? = some (item.typeName, type) ∧
          (∀ s : Schema, ∃ replaced,
            ((SchemaFilter.ofTypes registry).apply item.typeName s).value =
                .ok (true, replaced) ∧
              replaced.type = some type.keyword) ∧
          (∀ object : JsonObject, ∃ replaced,
            ((SchemaFilter.ofTypes registry).apply item.typeName object).value =
                .ok (true, replaced) ∧
              replaced.get? "type" = some (.string type.keyword))) ∧
      (∀ typeName, typeName ∉ items.map WorkItem.typeName →
        (∀ s : Schema,
          ((SchemaFilter.ofTypes registry).apply typeName s).value = .ok (false, s)) ∧
          (∀ object : JsonObject,
            ((SchemaFilter.ofTypes registry).apply typeName object).value =
              .ok (false, object)) ∧
          typeName ∉ (bindings made.text).map Prod.fst) ∧
      ((bindings made.text).map Prod.fst).dedup.length = registry.size := by
  obtain ⟨made, hmade, hbindings⟩ :=
    bindings_mappingExtension hitems hvalid hselected hframework
  have hnames : (bindings made.text).map Prod.fst = items.map WorkItem.typeName := by
    rw [hbindings, List.map_map]
    rfl
  refine ⟨made, hmade, ?_, ?_, ?_, ?_⟩
  · rw [hbindings, List.length_map]
  · intro i item hitem
    have hregistered := Registry.underlying?_of_mem hregistry (List.mem_of_getElem? hitem)
    refine ⟨item.schemaType, ?_, SchemaFilter.type_apply_schema hregistered,
      SchemaFilter.get?_type_apply_object hregistered⟩
    rw [hbindings, List.getElem?_map, hitem]
    rfl
  · intro typeName hname
    have hunknown : registry.underlying? typeName = none :=
      Registry.underlying?_of_not_mem hregistry hname
    refine ⟨SchemaFilter.value_apply_of_eq_none hunknown,
      SchemaFilter.value_apply_of_eq_none hunknown, ?_⟩
    rwa [hnames]
  · rw [hnames, Registry.size_ofItems hregistry]

/-- A work item that stands twice in the list is bound twice and registered once. -/
theorem registrations_agree_with_filter_repeated :
    let items : List WorkItem :=
      [⟨"App.Age", "System.Int32"⟩, ⟨"App.Name", "System.String"⟩, ⟨"App.Age", "System.Int32"⟩]
    let c := Configuration.ofCustomization .mappingExtension
    let registry : Registry :=
      ⟨⟨[("App.Age", "System.Int32"), ("App.Name", "System.String")], by decide⟩⟩
    Registry.ofItems items = .ok registry ∧ c.IsValid ∧
      ∃ made, (synthesize (some c) [filterInterface] items).value = some made ∧
        (bindings made.text).length = 3 ∧ ((bindings made.text).map Prod.fst).dedup.length = 2 := by
  intro items c registry
  have hitems : ∀ item ∈ items, '\n' ∉ item.typeName.toList := by decide
  have hregistry : Registry.ofItems items = .ok registry := rfl
  have hframework : referencesFramework [filterInterface] = true :=
    containsType_list.mpr List.mem_cons_self
  have hvalid : c.IsValid := Configuration.isValid_ofCustomization _
  obtain ⟨made, hmade, hlength, -, -, hsize⟩ :=
    registrations_agree_with_filter hitems hregistry hvalid rfl hframework
  exact ⟨hregistry, hvalid, made, hmade, hlength, hsize⟩

end Source

end ValueSchema
