import ValueSchema.Proofs.Source.Bindings
import ValueSchema.Proofs.Source.Enclosure

/-!
# The text of the mapping extension

The lines of the mapping extension, spelled out.  Between the head of the method and its end stands
one line for each work item, in order and whole, whatever the names of the types are.  In a
namespace each line of the class is indented by one step more, the blank line apart.
-/

namespace ValueSchema.Source

open Text

def mappingTextLines (c : Configuration) (items : List WorkItem) : List String :=
  let indent := indentation c.enclosingNamespace
  preambleLines ++ [""] ++ namespaceLines c.enclosingNamespace ++
    attributeLines indent c.identity? ++
    [indent ++ "public static class VogenSwashbuckleExtensions",
     indent ++ "\x7b",
     indent ++ ("    public static global::Swashbuckle.AspNetCore.SwaggerGen.SwaggerGenOptions " ++
       "MapVogenTypes(this global::Swashbuckle.AspNetCore.SwaggerGen.SwaggerGenOptions o)"),
     indent ++ "    \x7b"] ++
    items.map (fun item => indent ++ ("        " ++ registration item)) ++
    (if items = [] then [] else [""]) ++
    [indent ++ "        return o;", indent ++ "    \x7d", indent ++ "\x7d"] ++
    linesAfter c.enclosingNamespace

theorem mappingHeader_eq :
    mappingHeader =
      ["public static class VogenSwashbuckleExtensions",
       "\x7b",
       "    public static global::Swashbuckle.AspNetCore.SwaggerGen.SwaggerGenOptions " ++
         "MapVogenTypes(this global::Swashbuckle.AspNetCore.SwaggerGen.SwaggerGenOptions o)",
       "    \x7b"] :=
  by decide +kernel

theorem mappingFooter_eq : mappingFooter = ["        return o;", "    \x7d", "\x7d"] := rfl

theorem registrationLine_ne_empty (typeName : String) (type : SchemaType) :
    registrationLine typeName type ≠ "" := by
  intro hempty
  have hread := readRegistration?_registrationLine typeName type
  rw [hempty, readRegistration?_eq_none (by decide)] at hread
  cases hread

theorem registrationLine_binding (item : WorkItem) :
    registrationLine item.typeName item.schemaType = "        " ++ registration item := by
  have htabs : tab ++ tab = "        " := by decide
  rw [registrationLine, htabs]
  rfl

/-- A class that registers work items, indented: only the blank line goes without. -/
theorem map_indentedLine_mappingLines (indent : String) (items : List WorkItem) :
    (mappingLines (items.map binding)).map (indentedLine indent) =
      mappingHeader.map (indent ++ ·) ++
        items.map (fun item => indent ++ ("        " ++ registration item)) ++
        (if items = [] then [] else [""]) ++ mappingFooter.map (indent ++ ·) := by
  have hregistrations : ((items.map binding).map fun bound =>
      registrationLine bound.1 bound.2).map (indentedLine indent) =
      items.map fun item => indent ++ ("        " ++ registration item) := by
    rw [List.map_map, List.map_map]
    refine List.map_congr_left fun item _ => ?_
    change indentedLine indent (registrationLine item.typeName item.schemaType) = _
    rw [indentedLine_of_ne (registrationLine_ne_empty _ _), registrationLine_binding]
  have hblank : (if (items.map binding).isEmpty then [] else [""]).map (indentedLine indent) =
      if items = [] then [] else [""] := by
    cases items <;> rfl
  have hheader : ∀ line ∈ mappingHeader, line ≠ "" := by decide +kernel
  have hfooter : ∀ line ∈ mappingFooter, line ≠ "" := by decide +kernel
  rw [mappingLines, List.map_append, List.map_append, List.map_append, hregistrations, hblank,
    map_indentedLine hheader, map_indentedLine hfooter]

theorem unitLines_mappingLines (c : Configuration) (items : List WorkItem) :
    unitLines c.enclosingNamespace c.identity? (mappingLines (items.map binding)) =
      mappingTextLines c items := by
  rw [unitLines_eq, map_indentedLine_mappingLines, mappingHeader_eq, mappingFooter_eq, linesBefore]
  simp only [mappingTextLines, List.map_cons, List.map_nil, List.append_assoc]

/-- Between its line feeds the text of the mapping extension is just its lines, and an empty piece
after the last of them.  The registrations among them are those of the work items, in order. -/
theorem splitOn_mappingArtifact
    {c : Configuration} (hvalid : c.IsValid) {items : List WorkItem}
    (hitems : ∀ item ∈ items, '\n' ∉ item.typeName.toList) :
    (mappingArtifact c items).value.text.toList.splitOn '\n' =
        (mappingTextLines c items).map String.toList ++ [[]] ∧
      bindings (mappingArtifact c items).value.text = items.map binding := by
  have hlines := isLine_classLines .mappingExtension hitems
  have htext : (mappingArtifact c items).value.text = unlines (unitLines c.enclosingNamespace
      c.identity? (classLines .mappingExtension items)) :=
    congrArg Artifact.text (value_artifact .mappingExtension c hitems)
  constructor
  · rw [htext, splitOn_unlines (newline_not_mem_unitLines hvalid hlines), classLines,
      unitLines_mappingLines]
  · exact bindings_mappingArtifact hvalid hitems

/-- Names that hold a quote, a carriage return or the opening of another registration. -/
theorem splitOn_mappingArtifact_of_hostile_names :
    let c : Configuration :=
      { enclosingNamespace := some "App.Api", generatorName := some "Gen\n" }
    let items : List WorkItem :=
      [⟨"App.Age\r", "System.Int32"⟩, ⟨"MapType<\">(o, () => ", "System.Guid"⟩]
    c.IsValid ∧ (∀ item ∈ items, '\n' ∉ item.typeName.toList) ∧
      (mappingArtifact c items).value.text.toList.splitOn '\n' =
        (mappingTextLines c items).map String.toList ++ [[]] ∧
      bindings (mappingArtifact c items).value.text =
        [("App.Age\r", .integer), ("MapType<\">(o, () => ", .object)] := by
  intro c items
  have hvalid : c.IsValid := by decide +kernel
  have hitems : ∀ item ∈ items, '\n' ∉ item.typeName.toList := by decide
  exact ⟨hvalid, hitems, splitOn_mappingArtifact hvalid hitems⟩

end ValueSchema.Source
