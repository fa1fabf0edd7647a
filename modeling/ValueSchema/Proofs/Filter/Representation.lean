import ValueSchema.Filter
import ValueSchema.Proofs.Property.ObjectCopy
import ValueSchema.Proofs.Schema.Copy

/-!
# One schema in two representations

A JSON object that decodes to a typed schema represents it.  Copying and filtering treat the two
alike: it makes no difference whether an object is rewritten and then decoded, or decoded and then
rewritten.
-/

namespace ValueSchema

namespace Schema

theorem name_mem_schemaKeywords
    {field : Field} (h : field ≠ .reference) :
    field.name ∈ schemaKeywords := by
  cases field <;> first | decide | exact absurd rfl h

/-- A keyword that holds `null` reads like an absent one, if it can be read at all. -/
theorem Field.Reads.present?
    {field : Field} {object : JsonObject} {key : String} {found : field.Content}
    (h : field.Reads field.absent (object.get? key) found) :
    field.Reads field.absent (object.present? key) found := by
  unfold JsonObject.present?
  cases hvalue : object.get? key with
  | none => rwa [hvalue] at h
  | some value =>
      rw [hvalue] at h
      cases value with
      | null => exact Field.eq_absent_of_decode_null h
      | _ => exact h

theorem ofJson_toJson_eq_ok_iff {object : JsonObject} {s : Schema} :
    ofJson object.toJson = .ok s ↔
      ∀ field : Field, field.Reads field.absent (object.get? field.name) (s.content field) :=
  ofJson_object_eq_ok_iff object.nodup_keys

/-- Rewriting every keyword after a source gives an object that decodes to the schema of the source
under the reference of the destination. -/
theorem ofJson_storeAll
    {source destination : JsonObject} {s t : Schema}
    (hs : ofJson source.toJson = .ok s) (ht : ofJson destination.toJson = .ok t) :
    ofJson (source.storeAll destination schemaKeywords).toJson =
      .ok { s with reference := t.reference } := by
  rw [ofJson_toJson_eq_ok_iff] at hs ht ⊢
  intro field
  rw [JsonObject.get?_storeAll]
  by_cases hfield : field = .reference
  · subst hfield
    have hname : Field.reference.name ∉ schemaKeywords := JsonObject.referenceKeyword_not_mem
    rw [if_neg hname]
    exact ht .reference
  · have hcontent :
        ({ s with reference := t.reference } : Schema).content field = s.content field := by
      cases field <;> first | rfl | exact absurd rfl hfield
    rw [if_pos (name_mem_schemaKeywords hfield), hcontent]
    exact (hs field).present?

end Schema

theorem ofJson_ofSchemaType (type : SchemaType) :
    Schema.ofJson (TypedSchema.ofSchemaType type : JsonObject).toJson =
      .ok (TypedSchema.ofSchemaType type : Schema) :=
  rfl

namespace SchemaFilter

variable {σ : Type} [PropertySurface σ]

/-- The schema of a type that is not registered is left alone. -/
theorem value_apply_of_eq_none
    {f : SchemaFilter σ} {typeName : String} (h : f.registry.underlying? typeName = none)
    (schema : σ) :
    (f.apply typeName schema).value = .ok (false, schema) := by
  unfold apply
  rw [h]
  rfl

/-- The schema of a registered type is rewritten after the schema of its primitive. -/
theorem value_apply_of_eq_some
    {f : SchemaFilter σ} {typeName underlyingName : String}
    (h : f.registry.underlying? typeName = some underlyingName) (schema : σ) :
    (f.apply typeName schema).value =
      (copyProperties (f.generate underlyingName) schema).map fun copied => (true, copied.2) := by
  unfold apply
  rw [h]
  simp only
  cases copyProperties (f.generate underlyingName) schema <;> rfl

variable {registry : Registry} {typeName underlyingName : String}

/-- Filtering an object by type keywords rewrites its keywords after the object with a type alone. -/
theorem value_apply_ofTypes_object
    (h : registry.underlying? typeName = some underlyingName) (object : JsonObject) :
    ((ofTypes registry).apply typeName object).value =
      .ok (true, JsonObject.storeAll
        (TypedSchema.ofSchemaType (SchemaType.ofPrimitive underlyingName)) object
        schemaKeywords) := by
  have hregistered : (ofTypes (σ := JsonObject) registry).registry.underlying? typeName =
    some underlyingName := h
  rw [value_apply_of_eq_some hregistered, JsonObject.copyProperties_eq_ok]
  rfl

/-- Filtering a typed schema by type keywords leaves its reference beside the type. -/
theorem value_apply_ofTypes_schema
    (h : registry.underlying? typeName = some underlyingName) (s : Schema) :
    ((ofTypes registry).apply typeName s).value =
      .ok (true, { Schema.ofType (SchemaType.ofPrimitive underlyingName).keyword with
        reference := s.reference }) := by
  have hregistered : (ofTypes (σ := Schema) registry).registry.underlying? typeName =
    some underlyingName := h
  rw [value_apply_of_eq_some hregistered, Schema.copyProperties_eq_ok]
  rfl

end SchemaFilter

/-- Copying commutes with decoding, and so does filtering by the type keywords of primitives. -/
theorem copyProperties_decoded
    {source destination : JsonObject} {s t : Schema}
    (hs : Schema.ofJson source.toJson = .ok s)
    (ht : Schema.ofJson destination.toJson = .ok t) :
    (∃ written rewritten typedWritten typedRewritten,
      copyProperties source destination = .ok (written, rewritten) ∧
        copyProperties s t = .ok (typedWritten, typedRewritten) ∧
        Schema.ofJson rewritten.toJson = .ok typedRewritten) ∧
    ∀ (registry : Registry) (typeName : String), ∃ replaced rewritten typedRewritten,
      ((SchemaFilter.ofTypes registry).apply typeName destination).value =
          .ok (replaced, rewritten) ∧
        ((SchemaFilter.ofTypes registry).apply typeName t).value =
          .ok (replaced, typedRewritten) ∧
        Schema.ofJson rewritten.toJson = .ok typedRewritten := by
  constructor
  · have hnormal := Schema.normal_of_ofJson _ s hs
    refine ⟨_, _, _, _, JsonObject.copyProperties_eq_ok source destination,
      Schema.copyProperties_eq_ok s t, ?_⟩
    rw [hnormal]
    exact Schema.ofJson_storeAll hs ht
  · intro registry typeName
    cases h : registry.underlying? typeName with
    | none =>
        exact ⟨false, destination, t, SchemaFilter.value_apply_of_eq_none h destination,
          SchemaFilter.value_apply_of_eq_none h t, ht⟩
    | some underlyingName =>
        have htype := ofJson_ofSchemaType (SchemaType.ofPrimitive underlyingName)
        exact ⟨true, _, _, SchemaFilter.value_apply_ofTypes_object h destination,
          SchemaFilter.value_apply_ofTypes_schema h t, Schema.ofJson_storeAll htype ht⟩

/-- Positional items and a member that is no keyword, copied over a nullable reference. -/
theorem copyProperties_decoded_array :
    let source : JsonObject :=
      ((OrderedMap.empty.insert "type" (.string "array")).insert "items"
        (.array [.string "string", .null])).insert "x-note" .null
    let destination : JsonObject :=
      (OrderedMap.empty.insert "$ref" (.string "#/Age")).insert "nullable" (.boolean true)
    let s : Schema := { type := some "array", items := some (Schema.ofType "string") }
    let t : Schema := { nullable := true, reference := some "#/Age" }
    Schema.ofJson source.toJson = .ok s ∧ Schema.ofJson destination.toJson = .ok t ∧
      ∃ written rewritten typedWritten typedRewritten,
        copyProperties source destination = .ok (written, rewritten) ∧
          copyProperties s t = .ok (typedWritten, typedRewritten) ∧
          Schema.ofJson rewritten.toJson = .ok typedRewritten :=
  ⟨rfl, rfl, (copyProperties_decoded rfl rfl).1⟩

end ValueSchema
