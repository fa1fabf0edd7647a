import ValueSchema.Property.Error

/-!
# Property surfaces

A schema object shows its properties by name: a list of descriptors, and reads and writes of JSON
values.  Names are case-sensitive.  A surface is free in how the three fit together; nothing is
assumed of it but that an object is changed by writes alone.
-/

namespace ValueSchema

/-- What is known of a property without its value. -/
structure Descriptor where
  name : String
  readable : Bool
  writable : Bool
  deriving DecidableEq

namespace Descriptor

/-- A property that can be read and written. -/
def readWrite (name : String) : Descriptor := ⟨name, true, true⟩

/-- A property that can be read only. -/
def readOnly (name : String) : Descriptor := ⟨name, true, false⟩

/-- The first descriptor of a name. -/
def find? (descriptors : List Descriptor) (name : String) : Option Descriptor :=
  descriptors.find? fun descriptor => descriptor.name == name

end Descriptor

/-- Access by name to the properties of an object. -/
class PropertySurface (σ : Type) where
  properties : σ → List Descriptor
  /-- The descriptor of a name; unless said otherwise, the first in the list. -/
  property? : σ → String → Option Descriptor :=
    fun object name => Descriptor.find? (properties object) name
  /-- The value of a property, or `none` if there is none of that name. -/
  get? : σ → String → Option Json
  /-- The object with a property written. -/
  set : σ → String → Json → Except FilterError σ

end ValueSchema
