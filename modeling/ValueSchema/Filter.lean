import ValueSchema.Log
import ValueSchema.Property.Copy
import ValueSchema.Property.Keywords
import ValueSchema.Registry
import ValueSchema.Schema.Property

/-!
# Schema filters

A filter replaces the schema of a value object by the schema of its primitive: it generates a schema
for the primitive and copies its properties.  The schema of any other type is left alone.
-/

namespace ValueSchema

/-- Schemas that can be made from a type keyword alone. -/
class TypedSchema (σ : Type) where
  ofSchemaType : SchemaType → σ

instance : TypedSchema Schema where
  ofSchemaType type := Schema.ofType type.keyword

instance : TypedSchema JsonObject where
  ofSchemaType type := OrderedMap.empty.insert "type" (.string type.keyword)

/-- A registry, with the schema of each primitive. -/
structure SchemaFilter (σ : Type) where
  registry : Registry
  generate : String → σ

namespace SchemaFilter

variable {σ : Type}

/-- The filter that describes a primitive by its type keyword. -/
def ofTypes [TypedSchema σ] (registry : Registry) : SchemaFilter σ where
  registry := registry
  generate name := TypedSchema.ofSchemaType (SchemaType.ofPrimitive name)

/-- Replaces the schema of a type; the result tells whether the type is a value object. -/
def apply [PropertySurface σ] (f : SchemaFilter σ) (typeName : String) (schema : σ) :
    Logged (Except FilterError (Bool × σ)) :=
  match f.registry.underlying? typeName with
  | none => pure (.ok (false, schema))
  | some underlyingName =>
    match copyProperties (f.generate underlyingName) schema with
    | .error error => pure (.error error)
    | .ok (written, replaced) => do
      Logged.record (.schemaReplaced typeName underlyingName written)
      return .ok (true, replaced)

end SchemaFilter

end ValueSchema
