import ValueSchema.Proofs.Property.FixedShape
import ValueSchema.Property.Keywords

/-!
# Copies between JSON objects

Each keyword of the destination is set or removed after the source.  A keyword that the source
lacks, or holds as `null`, is gone from the destination afterwards; keys that are no keywords are
left alone.
-/

namespace ValueSchema.JsonObject

open PropertySurface

/-- The object with a value under a key, or without the key if the value is `null`. -/
def store (object : JsonObject) (name : String) (value : Json) : JsonObject :=
  if value.isNull then object.erase name else object.insert name value

theorem get?_store (object : JsonObject) (name key : String) (value : Json) :
    (object.store name value).get? key =
      if key = name then (if value.isNull then none else some value) else object.get? key := by
  unfold store
  split
  · exact OrderedMap.get?_erase object name key
  · exact OrderedMap.get?_insert object name key value

theorem descriptor?_of_mem {name : String} (h : name ∈ schemaKeywords) :
    descriptor? name = some (.readWrite name) := by
  have hname : name ≠ referenceKeyword := by
    intro he
    exact referenceKeyword_not_mem (he ▸ h)
  simp [descriptor?, hname, h]

theorem get?_of_mem
    (object : JsonObject) {name : String} (h : name ∈ schemaKeywords) :
    PropertySurface.get? object name = some ((object.get? name).getD .null) := by
  change read object name = _
  rw [read, descriptor?_of_mem h]

theorem set_of_mem
    (object : JsonObject) {name : String} (h : name ∈ schemaKeywords) (value : Json) :
    set object name value = .ok (object.store name value) := by
  change write object name value = _
  rw [write, descriptor?_of_mem h]
  rfl

theorem eq_of_mem_descriptors
    {d : Descriptor} (hd : d ∈ descriptors) :
    (∃ name ∈ schemaKeywords, d = .readWrite name) ∨ d = .readOnly referenceKeyword := by
  rcases List.mem_append.mp hd with h | h
  · obtain ⟨name, hname, rfl⟩ := List.mem_map.mp h
    exact .inl ⟨name, hname, rfl⟩
  · exact .inr (List.mem_singleton.mp h)

theorem fixedShape : FixedShape JsonObject descriptors where
  properties_eq _ := rfl
  property?_name _ d hd := by
    rcases eq_of_mem_descriptors hd with ⟨name, hname, rfl⟩ | rfl
    · exact descriptor?_of_mem hname
    · rfl
  readable d hd := by
    rcases eq_of_mem_descriptors hd with ⟨name, -, rfl⟩ | rfl <;> rfl
  isSome_get? object d hd := by
    rcases eq_of_mem_descriptors hd with ⟨name, hname, rfl⟩ | rfl
    · change (PropertySurface.get? object name).isSome = true
      rw [get?_of_mem object hname]
      rfl
    · rfl

theorem writesFrom_eq (source : JsonObject) :
    writesFrom source descriptors =
      schemaKeywords.map fun name => (name, (source.get? name).getD .null) := by
  have hfilter : descriptors.filter Descriptor.writable =
      schemaKeywords.map Descriptor.readWrite := by decide
  rw [writesFrom, hfilter, List.map_map]
  refine List.map_congr_left fun name hname => ?_
  change (name, (PropertySurface.get? source name).getD .null) = _
  rw [get?_of_mem source hname]
  rfl

/-- The destination with each of the names set or removed after the source, in turn. -/
def storeAll (source destination : JsonObject) (names : List String) : JsonObject :=
  names.foldl (fun object name => object.store name ((source.get? name).getD .null)) destination

theorem writeAll_eq
    (source destination : JsonObject) {names : List String} (hnames : names ⊆ schemaKeywords) :
    writeAll destination (names.map fun name => (name, (source.get? name).getD .null)) =
      .ok (source.storeAll destination names) := by
  induction names generalizing destination with
  | nil => rfl
  | cons name rest ih =>
      have hrest : rest ⊆ schemaKeywords :=
        fun other hother => hnames (List.mem_cons_of_mem name hother)
      rw [List.map_cons, writeAll, set_of_mem destination (hnames (by simp))]
      exact ih _ hrest

/-- What an object holds under a key, unless it is `null`. -/
def present? (object : JsonObject) (key : String) : Option Json :=
  (object.get? key).filter fun value => !value.isNull

theorem present?_eq (object : JsonObject) (key : String) :
    object.present? key =
      if ((object.get? key).getD .null).isNull then none
      else some ((object.get? key).getD .null) := by
  rw [present?]
  cases object.get? key with
  | none => rfl
  | some value => cases hnull : value.isNull <;> simp [hnull, Option.filter]

theorem get?_storeAll (source destination : JsonObject) (names : List String) (key : String) :
    (source.storeAll destination names).get? key =
      if key ∈ names then source.present? key else destination.get? key := by
  induction names generalizing destination with
  | nil => rfl
  | cons name rest ih =>
      change (source.storeAll (destination.store name _) rest).get? key = _
      rw [ih, get?_store]
      by_cases hrest : key ∈ rest
      · simp [hrest]
      · by_cases hname : key = name
        · subst hname
          have hmem : key ∈ key :: rest := List.mem_cons_self
          rw [if_neg hrest, if_pos rfl, if_pos hmem, present?_eq]
        · simp [hrest, hname]

/-- A copy writes every keyword. -/
theorem copyProperties_eq_ok (source destination : JsonObject) :
    copyProperties source destination =
      .ok (schemaKeywords.length, source.storeAll destination schemaKeywords) := by
  rw [fixedShape.copyProperties_eq, writesFrom_eq,
    writeAll_eq source destination (List.Subset.refl schemaKeywords)]
  simp [Except.map]

end ValueSchema.JsonObject
