import ValueSchema.Property.Error
import ValueSchema.WorkItem

/-!
# Registries of value objects

A registry knows the primitive of each value object.  A value object is registered once: the same
primitive again changes nothing, and another one is refused.
-/

namespace ValueSchema

/-- The primitives of the registered value objects. -/
structure Registry where
  entries : OrderedMap String := {}

namespace Registry

def underlying? (r : Registry) (typeName : String) : Option String := r.entries.get? typeName

def contains (r : Registry) (typeName : String) : Bool := r.entries.contains typeName

def size (r : Registry) : Nat := r.entries.size

def isEmpty (r : Registry) : Bool := r.entries.isEmpty

/-- Registers a value object with its primitive. -/
def register (r : Registry) (typeName underlyingName : String) : Except FilterError Registry :=
  match r.underlying? typeName with
  | none => .ok ⟨r.entries.insert typeName underlyingName⟩
  | some existing =>
    if existing = underlyingName then .ok r
    else .error (.conflictingRegistration typeName existing underlyingName)

/-- Registers work items in turn. -/
def registerAll (r : Registry) : List WorkItem → Except FilterError Registry
  | [] => .ok r
  | item :: rest =>
    match r.register item.typeName item.underlyingName with
    | .ok next => registerAll next rest
    | .error error => .error error

def ofItems (items : List WorkItem) : Except FilterError Registry := registerAll {} items

/-- The two registries register the same value objects with the same primitives. -/
def same (left right : Registry) : Bool :=
  left.size == right.size &&
    left.entries.entries.all fun entry => right.underlying? entry.1 == some entry.2

theorem underlying?_register {r next : Registry} {typeName underlyingName : String}
    (h : r.register typeName underlyingName = .ok next) (other : String) :
    next.underlying? other =
      if other = typeName then some underlyingName else r.underlying? other := by
  unfold register at h
  split at h
  · rw [← Except.ok.inj h]
    exact OrderedMap.get?_insert r.entries typeName other underlyingName
  · rename_i existing hexisting
    split at h
    · rename_i heq
      rw [← Except.ok.inj h]
      by_cases ho : other = typeName
      · simp [ho, hexisting, heq]
      · simp [ho]
    · cases h

end Registry

end ValueSchema
