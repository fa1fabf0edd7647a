import ValueSchema.Source.Unit
import ValueSchema.Source.Artifact
import ValueSchema.SymbolTable

/-!
# The schema filter

The class of a filter that works while an application builds its document: for a type marked as a
value object it generates the schema of the underlying primitive and copies the properties of that
schema over the schema of the type.  The class does not depend on the work items.
-/

namespace ValueSchema.Source

def filterBody : List String :=
  ["\x7b",
   "    private const global::System.Reflection.BindingFlags _flags = " ++
     "global::System.Reflection.BindingFlags.Public | " ++
     "global::System.Reflection.BindingFlags.Instance;",
   "",
   "    public void Apply(global::Microsoft.OpenApi.Models.OpenApiSchema schema, " ++
     "global::Swashbuckle.AspNetCore.SwaggerGen.SchemaFilterContext context)",
   "    \x7b",
   "        var attribute = global::System.Linq.Enumerable.FirstOrDefault(",
   "            " ++
     "global::System.Reflection.CustomAttributeExtensions.GetCustomAttributes(context.Type),",
   "            a => a.GetType().IsGenericType && a.GetType().GetGenericTypeDefinition() == " ++
     "typeof(global::Vogen.ValueObjectAttribute<>));",
   "",
   "        if (attribute is null)",
   "        \x7b",
   "            return;",
   "        \x7d",
   "",
   "        var underlyingType = attribute.GetType().GetGenericArguments()[0];",
   "",
   "        var schemaValueObject = context.SchemaGenerator.GenerateSchema(",
   "            underlyingType,",
   "            context.SchemaRepository,",
   "            context.MemberInfo,",
   "            context.ParameterInfo);",
   "",
   "        TryCopyPublicProperties(schemaValueObject, schema);",
   "    \x7d",
   "",
   "    private static void TryCopyPublicProperties<T>(T oldObject, T newObject) where T : class",
   "    \x7b",
   "        if (ReferenceEquals(oldObject, newObject))",
   "        \x7b",
   "            return;",
   "        \x7d",
   "",
   "        var type = typeof(T);",
   "",
   "        var propertyList = type.GetProperties(_flags);",
   "",
   "        if (propertyList.Length <= 0)",
   "        \x7b",
   "            return;",
   "        \x7d",
   "",
   "        foreach (var newObjProp in propertyList)",
   "        \x7b",
   "            var oldProp = type.GetProperty(newObjProp.Name, _flags)",
   "                ?? throw new global::System.MissingMemberException(type.FullName, " ++
     "newObjProp.Name);",
   "",
   "            if (!oldProp.CanRead || !newObjProp.CanWrite)",
   "            \x7b",
   "                continue;",
   "            \x7d",
   "",
   "            var value = oldProp.GetValue(oldObject);",
   "            newObjProp.SetValue(newObject, value);",
   "        \x7d",
   "    \x7d",
   "\x7d"]

def filterClass : String :=
  "public class " ++ ArtifactKind.schemaFilter.className ++ " : global::" ++ filterInterface ++
    "\n" ++ Text.unlines filterBody

def filterArtifact (c : Configuration) : Artifact :=
  ⟨.schemaFilter, compilationUnit c filterClass⟩

end ValueSchema.Source
