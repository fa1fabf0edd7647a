import ValueSchema.Proofs.Property.ObjectCopy
import ValueSchema.Proofs.Schema.Copy

/-!
# Descriptors, reads and writes

A surface tells in three ways what its properties are: by its descriptors, by what it reads and by
what it writes.  Both kinds of schema tell the same in each way, whatever they hold.  A name without
descriptor is read and written by nobody, a read-only property refuses every value for that reason,
and a property that can be written accepts at least the value that it has.
-/

namespace ValueSchema

open PropertySurface

/-- The descriptors, the reads and the writes of a surface agree on what a property is. -/
structure AgreesOnProperties (σ : Type) [PropertySurface σ] : Prop where
  properties_eq : ∀ left right : σ, properties left = properties right
  nodup_names : ∀ object : σ, ((properties object).map Descriptor.name).Nodup
  property?_eq_find? : ∀ (object : σ) (name : String),
    property? object name = Descriptor.find? (properties object) name
  get?_eq_none_iff : ∀ (object : σ) (name : String),
    get? object name = none ↔ property? object name = none
  set_unknown_iff : ∀ (object : σ) (name : String),
    (∀ value, ∃ refusal, set object name value = .error (.invalidValue name refusal) ∧
      refusal.message = "no such property") ↔ property? object name = none
  set_readOnly_iff : ∀ (object : σ), ∀ d ∈ properties object,
    (∀ value, set object d.name value = .error (.readOnlyProperty d.name)) ↔ d.writable = false
  set_own_value : ∀ (object : σ), ∀ d ∈ properties object, d.writable = true →
    ∃ value next, get? object d.name = some value ∧ set object d.name value = .ok next

/-! ## Surfaces of a fixed shape -/

section FixedShape

variable {σ : Type} [PropertySurface σ] {descriptors : List Descriptor}

theorem Descriptor.find?_name
    (hnodup : (descriptors.map Descriptor.name).Nodup) {d : Descriptor} (hd : d ∈ descriptors) :
    Descriptor.find? descriptors d.name = some d := by
  induction descriptors with
  | nil => cases hd
  | cons first rest ih =>
      rw [List.map_cons, List.nodup_cons] at hnodup
      rw [Descriptor.find?, List.find?_cons]
      rcases List.mem_cons.mp hd with rfl | hrest
      · simp
      · have hne : first.name ≠ d.name := fun h =>
          hnodup.1 (h ▸ List.mem_map_of_mem hrest)
        simp only [beq_eq_false_iff_ne.mpr hne]
        exact ih hnodup.2 hrest

theorem Descriptor.find?_eq_none_of_not_mem
    {name : String} (h : name ∉ descriptors.map Descriptor.name) :
    Descriptor.find? descriptors name = none := by
  refine List.find?_eq_none.mpr fun d hd => ?_
  have hne : d.name ≠ name := fun he => h (he ▸ List.mem_map_of_mem hd)
  simpa using hne

/-- What is left to know of a surface of a fixed shape: it has no properties but those of its
descriptors, and writes to these go as the descriptors say. -/
structure FollowsDescriptors (σ : Type) [PropertySurface σ] (descriptors : List Descriptor) :
    Prop where
  shape : FixedShape σ descriptors
  nodup_names : (descriptors.map Descriptor.name).Nodup
  property?_eq_none : ∀ (object : σ) {name : String}, name ∉ descriptors.map Descriptor.name →
    property? object name = none
  get?_eq_none : ∀ (object : σ) {name : String}, name ∉ descriptors.map Descriptor.name →
    get? object name = none
  set_unknown : ∀ (object : σ) {name : String}, name ∉ descriptors.map Descriptor.name →
    ∀ value, set object name value = .error (.invalidValue name .unknownProperty)
  set_readOnly : ∀ (object : σ), ∀ d ∈ descriptors, d.writable = false →
    ∀ value, set object d.name value = .error (.readOnlyProperty d.name)
  set_own : ∀ (object : σ), ∀ d ∈ descriptors, d.writable = true →
    ∃ value next, get? object d.name = some value ∧ set object d.name value = .ok next

namespace FollowsDescriptors

variable (h : FollowsDescriptors σ descriptors)
include h

theorem name_cases (object : σ) (name : String) :
    (∃ d ∈ descriptors, d.name = name ∧ property? object name = some d) ∨
      (name ∉ descriptors.map Descriptor.name ∧ property? object name = none) := by
  by_cases hname : name ∈ descriptors.map Descriptor.name
  · obtain ⟨d, hd, rfl⟩ := List.mem_map.mp hname
    exact .inl ⟨d, hd, rfl, h.shape.property?_name object d hd⟩
  · exact .inr ⟨hname, h.property?_eq_none object hname⟩

/-- Every property accepts some value or refuses one because it is read-only. -/
theorem exists_set (object : σ) {d : Descriptor} (hd : d ∈ descriptors) :
    ∃ value, (∃ next, set object d.name value = .ok next) ∨
      set object d.name value = .error (.readOnlyProperty d.name) := by
  cases hwritable : d.writable with
  | true =>
      obtain ⟨value, next, -, hset⟩ := h.set_own object d hd hwritable
      exact ⟨value, .inl ⟨next, hset⟩⟩
  | false => exact ⟨.null, .inr (h.set_readOnly object d hd hwritable .null)⟩

theorem agreesOnProperties : AgreesOnProperties σ where
  properties_eq left right := by
    rw [h.shape.properties_eq left, h.shape.properties_eq right]
  nodup_names object := by
    rw [h.shape.properties_eq object]
    exact h.nodup_names
  property?_eq_find? object name := by
    rw [h.shape.properties_eq object]
    rcases h.name_cases object name with ⟨d, hd, rfl, hproperty⟩ | ⟨hname, hproperty⟩
    · rw [hproperty, Descriptor.find?_name h.nodup_names hd]
    · rw [hproperty, Descriptor.find?_eq_none_of_not_mem hname]
  get?_eq_none_iff object name := by
    rcases h.name_cases object name with ⟨d, hd, rfl, hproperty⟩ | ⟨hname, hproperty⟩
    · obtain ⟨value, hvalue⟩ := Option.isSome_iff_exists.mp (h.shape.isSome_get? object d hd)
      simp [hproperty, hvalue]
    · simp [hproperty, h.get?_eq_none object hname]
  set_unknown_iff object name := by
    rcases h.name_cases object name with ⟨d, hd, rfl, hproperty⟩ | ⟨hname, hproperty⟩
    · obtain ⟨value, hset⟩ := h.exists_set object hd
      rw [hproperty]
      refine iff_of_false (fun hall => ?_) nofun
      obtain ⟨refusal, hrefused, -⟩ := hall value
      rcases hset with ⟨next, hnext⟩ | hreadOnly
      · rw [hrefused] at hnext
        cases hnext
      · rw [hrefused] at hreadOnly
        cases hreadOnly
    · refine iff_of_true (fun value => ?_) hproperty
      exact ⟨.unknownProperty, h.set_unknown object hname value, rfl⟩
  set_readOnly_iff object d hd := by
    rw [h.shape.properties_eq object] at hd
    cases hwritable : d.writable with
    | false => exact iff_of_true (h.set_readOnly object d hd hwritable) rfl
    | true =>
        obtain ⟨value, next, -, hset⟩ := h.set_own object d hd hwritable
        refine iff_of_false (fun hall => ?_) nofun
        rw [hall value] at hset
        cases hset
  set_own_value object d hd := by
    rw [h.shape.properties_eq object] at hd
    exact h.set_own object d hd

end FollowsDescriptors

end FixedShape

/-! ## Typed schemas -/

namespace Schema

theorem field?_eq_none_of_not_mem
    {name : String} (h : name ∉ descriptors.map Descriptor.name) :
    recordFormat.field? name = none := by
  rw [descriptors_eq] at h
  refine List.find?_eq_none.mpr fun field hfield => ?_
  have hne : field.name ≠ name := by
    rintro rfl
    exact h (List.mem_map_of_mem (List.mem_map_of_mem hfield))
  exact fun he => hne (beq_iff_eq.mp he)

theorem followsDescriptors : FollowsDescriptors Schema descriptors where
  shape := fixedShape
  nodup_names := by decide
  property?_eq_none _ _ h := Descriptor.find?_eq_none_of_not_mem h
  get?_eq_none s _ h := get?_eq_none s (field?_eq_none_of_not_mem h)
  set_unknown s _ h := set_eq_error s (field?_eq_none_of_not_mem h)
  set_readOnly s d hd hwritable value := by
    obtain ⟨field, rfl⟩ := exists_eq_descriptor hd
    obtain rfl : field = .reference := by simpa [Field.descriptor, Field.writable] using hwritable
    rfl
  set_own s d hd hwritable := by
    obtain ⟨field, rfl⟩ := exists_eq_descriptor hd
    exact ⟨s.get field, _, get?_name s field, set_get s s hwritable⟩

end Schema

/-! ## Objects -/

namespace JsonObject

theorem descriptor?_eq_none_of_not_mem
    {name : String} (h : name ∉ descriptors.map Descriptor.name) :
    descriptor? name = none := by
  have hnames : descriptors.map Descriptor.name = schemaKeywords ++ [referenceKeyword] := by decide
  rw [hnames, List.mem_append, List.mem_singleton, not_or] at h
  rw [descriptor?, if_neg h.2, if_neg h.1]

theorem followsDescriptors : FollowsDescriptors JsonObject descriptors where
  shape := fixedShape
  nodup_names := by decide
  property?_eq_none _ _ h := descriptor?_eq_none_of_not_mem h
  get?_eq_none object name h := by
    change read object name = none
    rw [read, descriptor?_eq_none_of_not_mem h]
  set_unknown object name h value := by
    change write object name value = _
    rw [write, descriptor?_eq_none_of_not_mem h]
  set_readOnly object d hd hwritable value := by
    rcases eq_of_mem_descriptors hd with ⟨name, -, rfl⟩ | rfl
    · cases hwritable
    · rfl
  set_own object d hd hwritable := by
    rcases eq_of_mem_descriptors hd with ⟨name, hname, rfl⟩ | rfl
    · exact ⟨_, _, get?_of_mem object hname, set_of_mem object hname _⟩
    · cases hwritable

end JsonObject

/-- Both kinds of schema agree with themselves on what a property is. -/
theorem schemas_agree_on_properties : AgreesOnProperties Schema ∧ AgreesOnProperties JsonObject :=
  ⟨Schema.followsDescriptors.agreesOnProperties, JsonObject.followsDescriptors.agreesOnProperties⟩

end ValueSchema
