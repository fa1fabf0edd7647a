import ValueSchema.Log
import ValueSchema.Source.Unit

/-!
# The mapping extension

The class of a method that registers, for each work item in order, the schema of its primitive.
Each registration is one line of the method, reported in the log as it is written; work items that
repeat are registered again.
-/

namespace ValueSchema

def WorkItem.schemaType (item : WorkItem) : SchemaType := .ofPrimitive item.underlyingName

namespace Source

/-- The registration of a type under a schema type. -/
def mapType (typeName : String) (type : SchemaType) : String :=
  "global::Microsoft.Extensions.DependencyInjection.SwaggerGenOptionsExtensions.MapType<" ++
    typeName ++ ">(o, () => new global::Microsoft.OpenApi.Models.OpenApiSchema \x7b Type = \"" ++
    type.keyword ++ "\" \x7d);"

def registration (item : WorkItem) : String := mapType item.typeName item.schemaType

def writeRegistration (item : WorkItem) : Logged String := do
  Logged.record (.registration item item.schemaType)
  return registration item

/-- Writes the registrations of work items in order, each indented and ended by a line feed. -/
def writeRegistrations (indent : String) (items : List WorkItem) : Logged String := do
  let lines ← items.mapM writeRegistration
  return Text.unlines (lines.map (indent ++ ·))

theorem value_writeRegistrations (indent : String) (items : List WorkItem) :
    (writeRegistrations indent items).value =
      Text.unlines (items.map fun item => indent ++ registration item) := by
  rw [writeRegistrations, Logged.mapM_eq, Logged.value_bind, Logged.value_pure, List.map_map]
  rfl

theorem events_writeRegistrations (indent : String) (items : List WorkItem) :
    (writeRegistrations indent items).events =
      items.map fun item => .registration item item.schemaType := by
  rw [writeRegistrations, Logged.mapM_eq, Logged.events_bind, Logged.events_pure, List.append_nil]
  exact List.map_eq_flatMap.symm

def mappingMethodName : String := "MapVogenTypes"

def optionsType : String := "global::Swashbuckle.AspNetCore.SwaggerGen.SwaggerGenOptions"

/-- The class up to the body of its method. -/
def mappingHeader : List String :=
  ["public static class " ++ ArtifactKind.mappingExtension.className,
   "\x7b",
   tab ++ "public static " ++ optionsType ++ " " ++ mappingMethodName ++ "(this " ++ optionsType ++
     " o)",
   tab ++ "\x7b"]

def mappingFooter : List String := [tab ++ tab ++ "return o;", tab ++ "\x7d", "\x7d"]

/-- Writes the class; a blank line follows the registrations if there are any. -/
def writeMappingClass (items : List WorkItem) : Logged String := do
  let registrations ← writeRegistrations (tab ++ tab) items
  return Text.unlines mappingHeader ++ registrations ++ (if items.isEmpty then "" else "\n") ++
    Text.unlines mappingFooter

/-- Writes the artifact that declares the class. -/
def mappingArtifact (c : Configuration) (items : List WorkItem) : Logged Artifact := do
  let classText ← writeMappingClass items
  return ⟨.mappingExtension, compilationUnit c classText⟩

end Source

end ValueSchema
