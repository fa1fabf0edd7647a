import ValueSchema.Proofs.CSharp.QualifiedName
import ValueSchema.Proofs.CSharp.Scanner
import ValueSchema.Proofs.Source.Registration
import ValueSchema.Source.Synthesis

/-!
# Lines of compilation units

The text of an artifact as a list of lines.  A unit is cut into lines and indented while it is made,
and still each line of the class comes out once, in order and whole, if the names of the types hold
no line feed.
-/

namespace ValueSchema

namespace Source

open Text

/-! ## The lines of a unit -/

/-- The lines of a class under the attribute that names its generator, if there is one. -/
def declarationLines (identity? : Option (String × String)) (classLines : List String) :
    List String :=
  match identity? with
  | some (name, version) => attributeLine name version :: classLines
  | none => classLines

/-- The lines of a unit after the preamble and the empty line below it. -/
def bodyLines (enclosing? : Option String) (identity? : Option (String × String))
    (classLines : List String) : List String :=
  match enclosing? with
  | some name =>
    ("namespace " ++ name) :: "\x7b" ::
      (declarationLines identity? classLines).map (indentedLine tab) ++ ["\x7d"]
  | none => declarationLines identity? classLines

/-- The lines of a unit that declares a class. -/
def unitLines (enclosing? : Option String) (identity? : Option (String × String))
    (classLines : List String) : List String :=
  preambleLines ++ "" :: bodyLines enclosing? identity? classLines

/-- What stands in an attribute before the name of the generator. -/
def attributeOpening : String := "[global::System.CodeDom.Compiler.GeneratedCode("

theorem attributeLine_eq (name version : String) :
    attributeLine name version =
      attributeOpening ++ (CSharp.literal name ++ (", " ++ (CSharp.literal version ++ ")]"))) := by
  change attributeOpening ++ CSharp.literal name ++ ", " ++ CSharp.literal version ++ ")]" = _
  simp only [String.append_assoc]

theorem isLine_attributeLine (name version : String) : IsLine (attributeLine name version) := by
  have hliteral (text : String) : Only (fun d => !CSharp.isLineTerminator d)
      (CSharp.literal text) := by
    intro d hd
    simp [CSharp.isLineTerminator_of_mem_literal hd]
  have hline : Only (fun d => !CSharp.isLineTerminator d) (attributeLine name version) := by
    rw [attributeLine_eq]
    exact Only.append (only_of_spelling rfl (by decide)) (Only.append (hliteral name)
      (Only.append (only_of_spelling rfl (by decide)) (Only.append (hliteral version)
        (only_of_spelling rfl (by decide)))))
  exact isLine_of_only hline rfl rfl

theorem isLine_declarationLines
    (identity? : Option (String × String)) {classLines : List String}
    (h : ∀ line ∈ classLines, IsLine line) :
    ∀ line ∈ declarationLines identity? classLines, IsLine line := by
  unfold declarationLines
  split
  · intro line hline
    rcases List.mem_cons.mp hline with rfl | hrest
    · exact isLine_attributeLine _ _
    · exact h line hrest
  · exact h

theorem declaration_unlines (c : Configuration) (classLines : List String) :
    declaration c (unlines classLines) = unlines (declarationLines c.identity? classLines) := by
  unfold declaration declarationLines
  cases c.identity? <;> rfl

theorem indented_unlines
    {texts : List String} (h : ∀ line ∈ texts, IsLine line) (indent : String) :
    indented indent (unlines texts) = unlines (texts.map (indentedLine indent)) := by
  apply String.toList_inj.mp
  rw [toList_indented, indentLines_unlines h]

theorem unlines_unitLines
    (enclosing? : Option String) (identity? : Option (String × String))
    (classLines : List String) :
    unlines (unitLines enclosing? identity? classLines) =
      preamble ++ "\n" ++ unlines (bodyLines enclosing? identity? classLines) := by
  rw [unitLines, unlines_append, unlines, String.empty_append, String.append_assoc]
  rfl

theorem compilationUnit_unlines
    (c : Configuration) {classLines : List String} (h : ∀ line ∈ classLines, IsLine line) :
    compilationUnit c (unlines classLines) =
      unlines (unitLines c.enclosingNamespace c.identity? classLines) := by
  have hindented := indented_unlines (isLine_declarationLines c.identity? h)
  rw [compilationUnit, unlines_unitLines, declaration_unlines, hindented, hindented]
  congr 1
  unfold bodyLines
  cases c.enclosingNamespace with
  | none =>
      have hempty : indentedLine "" = id := funext indentedLine_empty
      simp only [hempty, List.map_id]
  | some name =>
      simp only [unlines, unlines_append, List.cons_append, String.append_assoc, String.append_empty]
      rfl

/-! ## The lines of the two classes -/

def filterLines : List String :=
  ("public class " ++ ArtifactKind.schemaFilter.className ++ " : global::" ++ filterInterface) ::
    filterBody

/-- What the registration of a work item says. -/
def binding (item : WorkItem) : String × SchemaType := (item.typeName, item.schemaType)

def mappingLines (bindings : List (String × SchemaType)) : List String :=
  mappingHeader ++ bindings.map (fun bound => registrationLine bound.1 bound.2) ++
    (if bindings.isEmpty then [] else [""]) ++ mappingFooter

/-- The lines of the class that an artifact of a kind declares. -/
def classLines (kind : ArtifactKind) (items : List WorkItem) : List String :=
  match kind with
  | .schemaFilter => filterLines
  | .mappingExtension => mappingLines (items.map binding)

theorem unlines_filterLines : unlines filterLines = filterClass := rfl

theorem unlines_mappingLines (items : List WorkItem) :
    unlines (mappingLines (items.map binding)) = (writeMappingClass items).value := by
  rw [mappingLines, writeMappingClass, Logged.value_bind, Logged.value_pure,
    value_writeRegistrations, unlines_append, unlines_append, unlines_append, List.map_map]
  congr 1
  congr 1
  cases items <;> rfl

/-! ## Fixed lines -/

theorem only_preambleLines :
    ∀ line ∈ preambleLines, Only (fun c => !CSharp.isLineTerminator c) line := by
  simp only [preambleLines, List.forall_mem_cons, List.not_mem_nil, false_imp_iff, implies_true,
    and_true]
  repeat' apply And.intro
  all_goals repeat' with_reducible apply Only.append
  all_goals exact only_of_spelling rfl (by decide +kernel)

theorem isTrivia_preambleLines : ∀ line ∈ preambleLines, CSharp.isTrivia line.toList = true := by
  have hspelled {line : String} {chars : List Char} (hline : line = String.ofList chars)
      (hchars : CSharp.isTrivia chars = true) : CSharp.isTrivia line.toList = true := by
    rwa [toList_of_spelling hline]
  have happend {left : String} {chars : List Char} (hleft : left = String.ofList chars)
      (hchars : CSharp.isTrivia chars = true) (hnonempty : chars ≠ []) (right : String) :
      CSharp.isTrivia (left ++ right).toList = true := by
    rw [String.toList_append, toList_of_spelling hleft]
    exact CSharp.isTrivia_append hchars hnonempty _
  simp only [preambleLines, List.forall_mem_cons, List.not_mem_nil, false_imp_iff, implies_true,
    and_true, String.append_assoc]
  repeat' apply And.intro
  all_goals first
    | exact hspelled rfl rfl
    | exact happend rfl rfl (List.cons_ne_nil _ _) _

/-- Lines of code with braces on lines of their own, between the depth before and after them. -/
inductive Nested : Nat → List String → Nat → Prop where
  | nil {depth : Nat} : Nested depth [] depth
  | plain {depth last : Nat} {line : String} {rest : List String}
      (hline : Only CSharp.isPlainCharacter line) (hrest : Nested depth rest last) :
      Nested depth (line :: rest) last
  | opening {depth last : Nat} {line : String} {rest : List String}
      (hline : line.toList.dropWhile (· = ' ') = ['\x7b'])
      (hrest : Nested (depth + 1) rest last) : Nested depth (line :: rest) last
  | closing {depth last : Nat} {line : String} {rest : List String}
      (hline : line.toList.dropWhile (· = ' ') = ['\x7d']) (hrest : Nested depth rest last) :
      Nested (depth + 1) (line :: rest) last

theorem Nested.isLine
    {depth last : Nat} {lines : List String} (h : Nested depth lines last) :
    ∀ line ∈ lines, IsLine line := by
  have hbrace {line : String} {brace : Char} (hnewline : brace ≠ '\n') (hreturn : brace ≠ '\r')
      (hline : line.toList.dropWhile (· = ' ') = [brace]) : IsLine line := by
    refine isLine_of_only (p := fun c => c = ' ' || c = brace) ?_ (by simp [hnewline.symm])
      (by simp [hreturn.symm])
    intro c hc
    rw [← List.takeWhile_append_dropWhile (p := (· = ' ')) (l := line.toList), hline,
      List.mem_append, List.mem_singleton] at hc
    rcases hc with hc | rfl
    · simp [eq_space_of_mem_takeWhile hc]
    · simp
  induction h with
  | nil => exact List.forall_mem_nil _
  | plain hline hrest ih => exact List.forall_mem_cons.mpr ⟨isLine_of_only hline rfl rfl, ih⟩
  | opening hline hrest ih =>
      exact List.forall_mem_cons.mpr ⟨hbrace (by decide) (by decide) hline, ih⟩
  | closing hline hrest ih =>
      exact List.forall_mem_cons.mpr ⟨hbrace (by decide) (by decide) hline, ih⟩

theorem dropWhile_of_spelling
    {line : String} {chars kept : List Char} (hline : line = String.ofList chars)
    (hchars : chars.dropWhile (· = ' ') = kept) :
    line.toList.dropWhile (· = ' ') = kept := by
  rwa [toList_of_spelling hline]

theorem nested_filterLines (depth : Nat) : Nested depth filterLines depth := by
  unfold filterLines filterBody
  repeat' first
    | exact Nested.nil
    | refine Nested.opening (dropWhile_of_spelling rfl rfl) ?_
    | refine Nested.closing (dropWhile_of_spelling rfl rfl) ?_
    | refine Nested.plain (by
        repeat' with_reducible apply Only.append
        all_goals exact only_of_spelling rfl (by decide +kernel)) ?_

theorem nested_mappingHeader (depth : Nat) : Nested depth mappingHeader (depth + 2) := by
  have hbrace : (tab ++ "\x7b").toList.dropWhile (· = ' ') = ['\x7b'] :=
    (dropWhile_tab_append _).trans (dropWhile_of_spelling rfl rfl)
  unfold mappingHeader
  refine Nested.plain ?_ (Nested.opening (dropWhile_of_spelling rfl rfl)
    (Nested.plain ?_ (Nested.opening hbrace Nested.nil)))
  all_goals
    repeat' with_reducible apply Only.append
    all_goals exact only_of_spelling rfl (by decide +kernel)

theorem nested_mappingFooter (depth : Nat) : Nested (depth + 2) mappingFooter depth := by
  have hbrace : (tab ++ "\x7d").toList.dropWhile (· = ' ') = ['\x7d'] :=
    (dropWhile_tab_append _).trans (dropWhile_of_spelling rfl rfl)
  unfold mappingFooter
  refine Nested.plain ?_ (Nested.closing hbrace
    (Nested.closing (dropWhile_of_spelling rfl rfl) Nested.nil))
  repeat' with_reducible apply Only.append
  all_goals exact only_of_spelling rfl (by decide +kernel)

/-! ## The lines of an artifact -/

theorem isLine_classLines
    (kind : ArtifactKind) {items : List WorkItem}
    (h : ∀ item ∈ items, '\n' ∉ item.typeName.toList) :
    ∀ line ∈ classLines kind items, IsLine line := by
  cases kind with
  | schemaFilter => exact (nested_filterLines 0).isLine
  | mappingExtension =>
      intro line hline
      simp only [classLines, mappingLines, List.map_map, List.append_assoc, List.mem_append,
        List.mem_map] at hline
      rcases hline with hline | ⟨item, hitem, rfl⟩ | hline | hline
      · exact (nested_mappingHeader 0).isLine line hline
      · exact isLine_registrationLine (h item hitem) item.schemaType
      · obtain rfl : line = "" := by
          split at hline <;> simp_all
        exact ⟨by decide, by decide⟩
      · exact (nested_mappingFooter 0).isLine line hline

/-- The text of an artifact is made of the lines of its unit. -/
theorem value_artifact
    (kind : ArtifactKind) (c : Configuration) {items : List WorkItem}
    (h : ∀ item ∈ items, '\n' ∉ item.typeName.toList) :
    (artifact kind c items).value =
      ⟨kind, unlines (unitLines c.enclosingNamespace c.identity? (classLines kind items))⟩ := by
  rw [← compilationUnit_unlines c (isLine_classLines kind h)]
  cases kind with
  | schemaFilter => rw [classLines, unlines_filterLines]; rfl
  | mappingExtension => rw [classLines, unlines_mappingLines]; rfl

theorem newline_not_mem_namespaceLine
    {name : String} (h : CSharp.isQualifiedName name = true) :
    '\n' ∉ ("namespace " ++ name).toList := by
  have hname : Only CSharp.isNameCharacter name := fun _ hc =>
    CSharp.isNameCharacter_of_mem_qualifiedName h hc
  rw [String.toList_append, List.mem_append, not_or]
  exact ⟨by decide, not_mem_of_only hname (by decide +kernel)⟩

theorem newline_not_mem_unitLines
    {c : Configuration} (hvalid : c.IsValid) {classLines : List String}
    (h : ∀ line ∈ classLines, IsLine line) :
    ∀ line ∈ unitLines c.enclosingNamespace c.identity? classLines, '\n' ∉ line.toList := by
  have hdeclaration := isLine_declarationLines c.identity? h
  intro line hline
  rw [unitLines, List.mem_append, List.mem_cons] at hline
  rcases hline with hline | rfl | hline
  · exact not_mem_of_only (only_preambleLines line hline) rfl
  · decide
  · unfold bodyLines at hline
    split at hline
    · next name hname =>
        simp only [List.cons_append, List.mem_cons, List.mem_append, List.mem_map,
          List.not_mem_nil, or_false] at hline
        rcases hline with rfl | rfl | ⟨inner, hinner, rfl⟩ | rfl
        · exact newline_not_mem_namespaceLine ((Configuration.isValid_iff.mp hvalid).1 name hname)
        · decide
        · exact newline_not_mem_indentedLine (by decide)
            (hdeclaration inner hinner).newline_not_mem
        · decide
    · exact (hdeclaration line hline).newline_not_mem

end Source

end ValueSchema
