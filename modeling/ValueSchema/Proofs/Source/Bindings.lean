import ValueSchema.Proofs.Source.UnitLines

/-!
# Bindings of a unit

The registrations that stand in a list of lines, in order.  The lines of a mapping class read as the
bindings that they were made from, and no other line of a unit reads as a registration.
-/

namespace ValueSchema.Source

open Text

def readBindings (lines : List String) : List (String × SchemaType) :=
  lines.filterMap fun line => readRegistration? line.toList

theorem readBindings_append (first second : List String) :
    readBindings (first ++ second) = readBindings first ++ readBindings second :=
  List.filterMap_append

theorem readBindings_eq_nil
    {lines : List String} (h : ∀ line ∈ lines, leading? line ≠ some 'g') :
    readBindings lines = [] :=
  List.filterMap_eq_nil_iff.mpr fun line hline => readRegistration?_eq_none (h line hline)

theorem readBindings_registrationLines (bindings : List (String × SchemaType)) :
    readBindings (bindings.map fun bound => registrationLine bound.1 bound.2) = bindings := by
  simp only [readBindings, List.filterMap_map, Function.comp_def,
    readRegistration?_registrationLine]
  exact List.filterMap_some

theorem readBindings_indentedLines (lines : List String) :
    readBindings (lines.map (indentedLine tab)) = readBindings lines := by
  simp only [readBindings, List.filterMap_map, Function.comp_def, readRegistration?_indentedLine]

/-- The bindings that a text registers on its lines. -/
def bindings (text : String) : List (String × SchemaType) :=
  (text.toList.splitOn '\n').filterMap readRegistration?

theorem bindings_unlines
    {lines : List String} (h : ∀ line ∈ lines, '\n' ∉ line.toList) :
    bindings (unlines lines) = readBindings lines := by
  have hlast : [[]].filterMap readRegistration? = [] := by decide +kernel
  rw [bindings, splitOn_unlines h, List.filterMap_append, List.filterMap_map, hlast,
    List.append_nil]
  rfl

/-! ## Classes -/

theorem leading?_mappingHeader : ∀ line ∈ mappingHeader, leading? line ≠ some 'g' := by
  have hpublic {line : String} (h : leading? line = some 'p') : leading? line ≠ some 'g' := by
    simp [h]
  have hclass : leading? "public static class " = some 'p' := leading?_of_spelling rfl
  have hmethod : leading? (tab ++ "public static ") = some 'p' :=
    (leading?_tab_append _).trans (leading?_of_spelling rfl)
  intro line hline
  simp only [mappingHeader, List.mem_cons, List.not_mem_nil, or_false] at hline
  rcases hline with rfl | rfl | rfl | rfl
  · exact hpublic (leading?_append hclass _)
  · decide
  · simp only [String.append_assoc]
    rw [← String.append_assoc]
    exact hpublic (leading?_append hmethod _)
  · decide

theorem leading?_mappingFooter : ∀ line ∈ mappingFooter, leading? line ≠ some 'g' := by
  intro line hline
  simp only [mappingFooter, List.mem_cons, List.not_mem_nil, or_false] at hline
  rcases hline with rfl | rfl | rfl <;> decide

theorem leading?_preambleLines : ∀ line ∈ preambleLines, leading? line ≠ some 'g' := by
  intro line hline
  have htrivia := isTrivia_preambleLines line hline
  unfold leading?
  generalize line.toList = chars at htrivia
  unfold CSharp.isTrivia at htrivia
  split at htrivia
  · simp
  · simp
  · simp
  · cases htrivia

theorem readBindings_mappingLines (bindings : List (String × SchemaType)) :
    readBindings (mappingLines bindings) = bindings := by
  have hblank : readBindings (if bindings.isEmpty then [] else [""]) = [] := by
    split <;> rfl
  simp only [mappingLines, readBindings_append, readBindings_registrationLines, hblank,
    readBindings_eq_nil leading?_mappingHeader, readBindings_eq_nil leading?_mappingFooter,
    List.nil_append, List.append_nil]

/-! ## Units -/

theorem leading?_attributeLine (name version : String) :
    leading? (attributeLine name version) = some '[' := by
  have hopening : leading? attributeOpening = some '[' := leading?_of_spelling rfl
  rw [attributeLine_eq]
  exact leading?_append hopening _

theorem leading?_namespaceLine (name : String) : leading? ("namespace " ++ name) = some 'n' :=
  leading?_append (leading?_of_spelling rfl) name

theorem readBindings_cons
    {line : String} (h : leading? line ≠ some 'g') (rest : List String) :
    readBindings (line :: rest) = readBindings rest :=
  List.filterMap_cons_none (readRegistration?_eq_none h)

theorem readBindings_declarationLines
    (identity? : Option (String × String)) (classLines : List String) :
    readBindings (declarationLines identity? classLines) = readBindings classLines := by
  cases identity? with
  | none => rfl
  | some identity => exact readBindings_cons (by simp [leading?_attributeLine]) classLines

theorem readBindings_bodyLines
    (enclosing? : Option String) (identity? : Option (String × String))
    (classLines : List String) :
    readBindings (bodyLines enclosing? identity? classLines) = readBindings classLines := by
  cases enclosing? with
  | none => exact readBindings_declarationLines identity? classLines
  | some name =>
      have hlast : readBindings ["\x7d"] = [] := readBindings_cons (by decide) []
      rw [bodyLines, List.cons_append, List.cons_append,
        readBindings_cons (by simp [leading?_namespaceLine]), readBindings_cons (by decide),
        readBindings_append, hlast, List.append_nil, readBindings_indentedLines,
        readBindings_declarationLines]

/-- A unit registers what the lines of its class register. -/
theorem readBindings_unitLines
    (enclosing? : Option String) (identity? : Option (String × String))
    (classLines : List String) :
    readBindings (unitLines enclosing? identity? classLines) = readBindings classLines := by
  rw [unitLines, readBindings_append, readBindings_eq_nil leading?_preambleLines, List.nil_append,
    readBindings_cons (by decide), readBindings_bodyLines]

/-- The mapping extension registers the bindings of the work items, in order. -/
theorem bindings_mappingArtifact
    {c : Configuration} (hvalid : c.IsValid) {items : List WorkItem}
    (hitems : ∀ item ∈ items, '\n' ∉ item.typeName.toList) :
    bindings (mappingArtifact c items).value.text = items.map binding := by
  have hlines := isLine_classLines .mappingExtension hitems
  change bindings (artifact .mappingExtension c items).value.text = _
  rw [value_artifact .mappingExtension c hitems,
    bindings_unlines (newline_not_mem_unitLines hvalid hlines), readBindings_unitLines]
  exact readBindings_mappingLines _

end ValueSchema.Source
