import ValueSchema.Property.Copy

/-!
# Surfaces of a fixed shape

Both kinds of schema show the same readable properties whatever they hold.  For such a surface the
first phase of a copy cannot fail: it plans one write for each property that can be written, and
only the writes remain to be looked at.
-/

namespace ValueSchema

open PropertySurface

/-- Every object shows these descriptors, finds each by its name, and reads each. -/
structure FixedShape (σ : Type) [PropertySurface σ] (descriptors : List Descriptor) : Prop where
  properties_eq : ∀ object : σ, properties object = descriptors
  property?_name : ∀ object : σ, ∀ d ∈ descriptors, property? object d.name = some d
  readable : ∀ d ∈ descriptors, d.readable = true
  isSome_get? : ∀ object : σ, ∀ d ∈ descriptors, (get? object d.name).isSome = true

variable {σ : Type} [PropertySurface σ]

def writesFrom (source : σ) (descriptors : List Descriptor) : List (String × Json) :=
  (descriptors.filter Descriptor.writable).map fun d => (d.name, (get? source d.name).getD .null)

namespace FixedShape

variable {descriptors : List Descriptor}

theorem plannedWrites_eq
    (hshape : FixedShape σ descriptors) (source : σ)
    {targets : List Descriptor} (htargets : targets ⊆ descriptors) :
    plannedWrites source targets = .ok (writesFrom source targets) := by
  induction targets with
  | nil => rfl
  | cons d rest ih =>
      have hd : d ∈ descriptors := htargets (by simp)
      have ih := ih fun other hother => htargets (List.mem_cons_of_mem _ hother)
      obtain ⟨value, hvalue⟩ := Option.isSome_iff_exists.mp (hshape.isSome_get? source d hd)
      rw [plannedWrites, hshape.property?_name source d hd]
      cases hwritable : d.writable with
      | false => simp [hwritable, ih, writesFrom]
      | true => simp [hwritable, hshape.readable d hd, hvalue, ih, writesFrom, Except.map]

/-- A copy comes down to the writes. -/
theorem copyProperties_eq
    (hshape : FixedShape σ descriptors) (source destination : σ) :
    copyProperties source destination =
      (writeAll destination (writesFrom source descriptors)).map
        ((writesFrom source descriptors).length, ·) := by
  rw [copyProperties, hshape.properties_eq,
    hshape.plannedWrites_eq source (List.Subset.refl descriptors)]

end FixedShape

end ValueSchema
