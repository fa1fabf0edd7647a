import Std.Data.HashSet.Basic
import Std.Data.TreeSet.Basic

/-!
# Symbol tables

A compilation answers whether it knows a type.  The schema framework counts as referenced when the
compilation knows the interface that its filters implement.
-/

namespace ValueSchema

/-- Look-up of types by their metadata name. -/
class SymbolTable (τ : Type) where
  containsType : τ → String → Bool

export SymbolTable (containsType)

instance : SymbolTable (List String) where
  containsType table name := table.contains name

instance : SymbolTable (Std.HashSet String) where
  containsType table name := table.contains name

instance : SymbolTable (Std.TreeSet String) where
  containsType table name := table.contains name

/-- The metadata name of the interface of schema filters. -/
def filterInterface : String := "Swashbuckle.AspNetCore.SwaggerGen.ISchemaFilter"

/-- The compilation references the schema framework. -/
def referencesFramework {τ : Type} [SymbolTable τ] (table : τ) : Bool :=
  containsType table filterInterface

@[simp] theorem containsType_list {table : List String} {name : String} :
    containsType table name = true ↔ name ∈ table := by
  simp [containsType]

end ValueSchema
