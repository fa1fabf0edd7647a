import Std.Data.HashSet.Lemmas
import Std.Data.TreeSet.Lemmas
import ValueSchema.SymbolTable

/-!
# Symbol tables that contain their members

Each kind of symbol table knows a type just when its name is one of the members.  So whether the
schema framework is referenced does not depend on the kind of table that holds the names.
-/

namespace ValueSchema

/-- A symbol table that contains its members. -/
class LawfulSymbolTable (τ : Type) [SymbolTable τ] [Membership String τ] : Prop where
  containsType_iff_mem (table : τ) (name : String) : containsType table name = true ↔ name ∈ table

instance : LawfulSymbolTable (List String) := ⟨fun _ _ => containsType_list⟩

instance : LawfulSymbolTable (Std.HashSet String) := ⟨fun _ _ => Std.HashSet.contains_iff_mem⟩

instance : LawfulSymbolTable (Std.TreeSet String) := ⟨fun _ _ => Std.TreeSet.contains_iff_mem⟩

variable {τ : Type} [SymbolTable τ] [Membership String τ] [LawfulSymbolTable τ]

theorem referencesFramework_iff {symbols : τ} :
    referencesFramework symbols = true ↔ filterInterface ∈ symbols :=
  LawfulSymbolTable.containsType_iff_mem symbols filterInterface

instance (symbols : τ) : Decidable (filterInterface ∈ symbols) :=
  decidable_of_iff _ referencesFramework_iff

end ValueSchema
