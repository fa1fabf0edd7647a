import ValueSchema.Proofs.Property.FixedShape
import ValueSchema.Proofs.Schema.Surface

/-!
# Copies between typed schemas

Each field but the reference is read as JSON and decoded again, so a copy leaves the normal form of
the source under the reference of the destination.
-/

namespace ValueSchema.Schema

open PropertySurface

/-- The properties of a schema are its fields. -/
theorem fixedShape : FixedShape Schema descriptors where
  properties_eq _ := rfl
  property?_name _ d hd := by
    obtain ⟨field, rfl⟩ := exists_eq_descriptor hd
    cases field <;> rfl
  readable d hd := by
    obtain ⟨field, rfl⟩ := exists_eq_descriptor hd
    rfl
  isSome_get? s d hd := by
    obtain ⟨field, rfl⟩ := exists_eq_descriptor hd
    change (get? s field.name).isSome = true
    rw [get?_name]
    rfl

def writableFields : List Field := Field.all.filter Field.writable

theorem writesFrom_eq (s : Schema) :
    writesFrom s descriptors = writableFields.map fun field => (field.name, s.get field) := by
  rw [writesFrom, descriptors_eq, List.filter_map, List.map_map]
  refine List.map_congr_left fun field _ => ?_
  change (field.name, (get? s field.name).getD .null) = _
  rw [get?_name]
  rfl

/-- A write of what another schema holds in a field brings over the normal form of it. -/
theorem set_get
    (s t : Schema) {field : Field} (hwritable : field.writable = true) :
    set t field.name (s.get field) = .ok (t.replace field (s.normal.content field)) := by
  rw [set_name t hwritable, decode_get]
  rfl

theorem writeAll_get
    (s t : Schema) {fields : List Field} (hwritable : ∀ field ∈ fields, field.writable = true) :
    writeAll t (fields.map fun field => (field.name, s.get field)) =
      .ok (fields.foldl (fun next field => next.replace field (s.normal.content field)) t) := by
  induction fields generalizing t with
  | nil => rfl
  | cons field rest ih =>
      have hrest := fun other hother => hwritable other (List.mem_cons_of_mem field hother)
      rw [List.map_cons, writeAll, set_get s t (hwritable field (by simp))]
      exact ih _ hrest

/-- A copy writes ten properties and leaves the normal form of the source, under the reference of
the destination. -/
theorem copyProperties_eq_ok (s t : Schema) :
    copyProperties s t = .ok (10, { s.normal with reference := t.reference }) := by
  have hwritable : ∀ field ∈ writableFields, field.writable = true :=
    fun field hfield => (List.mem_filter.mp hfield).2
  have hfields : writableFields.foldl
      (fun next field => next.replace field (s.normal.content field)) t =
        { s.normal with reference := t.reference } := rfl
  rw [fixedShape.copyProperties_eq, writesFrom_eq, writeAll_get s t hwritable, hfields]
  rfl

end ValueSchema.Schema
