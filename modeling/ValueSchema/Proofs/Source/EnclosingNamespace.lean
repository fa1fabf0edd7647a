import ValueSchema.Proofs.Text.Lines
import ValueSchema.Source.Synthesis

/-!
# Units inside a namespace

A namespace around the class of an artifact changes the indentation of its lines and nothing else.
The unit is cut into lines while it is made, and the names of the types may hold line endings, which
are cut at like any other.  Both units are made of the same lines, whatever these are, so taking one
step of indentation off the lines of the namespace gives the unit without a namespace.
-/

namespace ValueSchema

namespace Text

/-! ## Taking indentation off -/

def linesOf (text : String) : List String := (lines text.toList).map String.ofList

theorem newline_not_mem_of_mem_linesOf {text line : String} (h : line ∈ linesOf text) :
    '\n' ∉ line.toList := by
  obtain ⟨chars, hchars, rfl⟩ := List.mem_map.mp h
  rw [String.toList_ofList]
  exact not_mem_newline_of_mem_lines hchars

theorem indentLines_eq (indent text : String) :
    indentLines indent.toList text.toList =
      (unlines ((linesOf text).map (indentedLine indent))).toList := by
  have hlines : (linesOf text).map String.toList = lines text.toList := map_toList_map_ofList _
  rw [indentLines, ← hlines, flatMap_indentLine]

theorem splitOn_indentLines
    {indent : String} (hindent : '\n' ∉ indent.toList) (text : String) :
    (indentLines indent.toList text.toList).splitOn '\n' =
      ((linesOf text).map (indentedLine indent)).map String.toList ++ [[]] := by
  rw [indentLines_eq, splitOn_unlines]
  intro line hline
  obtain ⟨bare, hbare, rfl⟩ := List.mem_map.mp hline
  exact newline_not_mem_indentedLine hindent (newline_not_mem_of_mem_linesOf hbare)

/-- A line under its indentation begins with it, if it is not empty. -/
theorem prefix_of_mem_splitOn_indentLines
    {indent : String} (hindent : '\n' ∉ indent.toList) {text : String} {piece : List Char}
    (hpiece : piece ∈ (indentLines indent.toList text.toList).splitOn '\n')
    (hnonempty : piece ≠ []) :
    indent.toList <+: piece := by
  rw [splitOn_indentLines hindent, List.mem_append, List.mem_singleton] at hpiece
  have hline := List.mem_map.mp (hpiece.resolve_right hnonempty)
  obtain ⟨_, hmem, rfl⟩ := hline
  obtain ⟨line, -, rfl⟩ := List.mem_map.mp hmem
  have hne : line ≠ "" := by
    rintro rfl
    exact hnonempty rfl
  rw [indentedLine_of_ne hne, String.toList_append]
  exact List.prefix_append _ _

theorem drop_indentedLine (indent line : String) :
    (indentedLine indent line).toList.drop indent.toList.length = line.toList := by
  unfold indentedLine
  split
  · next hempty => rw [hempty, String.toList_empty, List.drop_nil]
  · rw [String.toList_append, List.drop_left]

/-- Between its line feeds an indented text is the text without indentation, under the
indentation. -/
theorem intercalate_drop_indentLines
    {indent : String} (hindent : '\n' ∉ indent.toList) (text : String) :
    ['\n'].intercalate (((indentLines indent.toList text.toList).splitOn '\n').map
        (List.drop indent.toList.length)) =
      indentLines [] text.toList := by
  have hbare : indentLines [] text.toList = (unlines (linesOf text)).toList := by
    have hempty : indentedLine "" = id := funext indentedLine_empty
    have hindented := indentLines_eq "" text
    rwa [hempty, List.map_id, String.toList_empty] at hindented
  have hdrop : (((linesOf text).map (indentedLine indent)).map String.toList).map
      (List.drop indent.toList.length) = (linesOf text).map String.toList := by
    rw [List.map_map, List.map_map]
    exact List.map_congr_left fun line _ => drop_indentedLine indent line
  rw [splitOn_indentLines hindent, List.map_append, hdrop, List.map_singleton, List.drop_nil,
    ← splitOn_unlines fun _ => newline_not_mem_of_mem_linesOf, List.intercalate_splitOn, hbare]

/-- Both sides lose the carriage return before a line feed and keep any other, and both end the last
line. -/
example :
    indentLines [' ', ' '] ['a', '\r', '\n', '\n', ' ', '\n', '\r', 'b', '\r'] =
        [' ', ' ', 'a', '\n', '\n', ' ', ' ', ' ', '\n', ' ', ' ', '\r', 'b', '\r', '\n'] ∧
      indentLines [] ['a', '\r', '\n', '\n', ' ', '\n', '\r', 'b', '\r'] =
        ['a', '\n', '\n', ' ', '\n', '\r', 'b', '\r', '\n'] := by
  decide

end Text

namespace Source

open Text

/-! ## Units -/

theorem compilationUnit_of_some (c : Configuration) (name classText : String) :
    compilationUnit { c with enclosingNamespace := some name } classText =
      preamble ++ "\n" ++ "namespace " ++ name ++ "\n\x7b\n" ++
        indented tab (declaration c classText) ++ "\x7d\n" := by
  change preamble ++ "\n" ++ ("namespace " ++ name ++ "\n\x7b\n" ++
    indented tab (declaration c classText) ++ "\x7d\n") = _
  simp only [String.append_assoc]

theorem compilationUnit_of_none (c : Configuration) (classText : String) :
    compilationUnit { c with enclosingNamespace := none } classText =
      preamble ++ "\n" ++ indented "" (declaration c classText) :=
  rfl

/-- The text of the class that an artifact of a kind declares. -/
def classText (kind : ArtifactKind) (items : List WorkItem) : String :=
  match kind with
  | .schemaFilter => filterClass
  | .mappingExtension => (writeMappingClass items).value

theorem text_artifact (kind : ArtifactKind) (c : Configuration) (items : List WorkItem) :
    (artifact kind c items).value.text = compilationUnit c (classText kind items) := by
  cases kind <;> rfl

/-- Inside a namespace an artifact is a block of lines between the head of the namespace and its
closing brace.  Each line of the block that is not empty is indented by four spaces, and the block
without these is what the artifact consists of outside a namespace. -/
theorem artifact_in_namespace
    (kind : ArtifactKind) (c : Configuration) (name : String) (items : List WorkItem) :
    ∃ block : String,
      (artifact kind { c with enclosingNamespace := some name } items).value.text =
          preamble ++ "\n" ++ "namespace " ++ name ++ "\n\x7b\n" ++ block ++ "\x7d\n" ∧
        (∀ piece ∈ block.toList.splitOn '\n', piece ≠ [] → [' ', ' ', ' ', ' '] <+: piece) ∧
        (artifact kind { c with enclosingNamespace := none } items).value.text =
          preamble ++ "\n" ++ String.ofList
            (['\n'].intercalate ((block.toList.splitOn '\n').map (List.drop 4))) := by
  have htab : '\n' ∉ tab.toList := by decide
  refine ⟨indented tab (declaration c (classText kind items)), ?_, ?_, ?_⟩
  · rw [text_artifact, compilationUnit_of_some]
  · rw [toList_indented]
    exact fun piece hpiece => prefix_of_mem_splitOn_indentLines htab hpiece
  · have hdrop := intercalate_drop_indentLines htab (declaration c (classText kind items))
    rw [text_artifact, compilationUnit_of_none, toList_indented]
    exact congrArg (fun text => preamble ++ "\n" ++ String.ofList text) hdrop.symm

end Source

end ValueSchema
