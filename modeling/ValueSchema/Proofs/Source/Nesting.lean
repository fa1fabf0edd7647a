import ValueSchema.Proofs.Source.UnitLines

/-!
# Braces of a class

A scanner of C# source runs through the lines of a class.  A class closes every brace that it opens,
whatever names its registrations hold, so long as these names hold no quotes, braces, slashes or
ends of lines.
-/

namespace ValueSchema.Source

open CSharp CSharp.ScanState Text

/-! ## Lines that enclose -/

variable {depth middle last : Nat} {lines rest : List String}

/-- The lines lead a scanner from one depth to another, under any indentation. -/
def Encloses (depth : Nat) (lines : List String) (last : Nat) : Prop :=
  ∀ (indent : String) (literals : List String), Only (fun c => c = ' ') indent → ∃ read,
    run ⟨.lineStart, depth, literals⟩ (unlines (lines.map (indentedLine indent))).toList =
      some ⟨.lineStart, last, read⟩

theorem Encloses.nil : Encloses depth [] depth :=
  fun _ literals _ => ⟨literals, by simp [run_nil]⟩

theorem Encloses.append
    (hlines : Encloses depth lines middle) (hrest : Encloses middle rest last) :
    Encloses depth (lines ++ rest) last := by
  intro indent literals hindent
  obtain ⟨read, hread⟩ := hlines indent literals hindent
  obtain ⟨finished, hfinished⟩ := hrest indent read hindent
  refine ⟨finished, ?_⟩
  rw [List.map_append, unlines_append, String.toList_append, run_append hread, hfinished]

/-- A line is run through in one piece with its line feed. -/
theorem encloses_singleton
    {line : String}
    (h : ∀ (indent : String) (literals : List String), Only (fun c => c = ' ') indent → ∃ read,
      run ⟨.lineStart, depth, literals⟩ ((indentedLine indent line).toList ++ ['\n']) =
        some ⟨.lineStart, last, read⟩) :
    Encloses depth [line] last := by
  intro indent literals hindent
  obtain ⟨read, hread⟩ := h indent literals hindent
  refine ⟨read, ?_⟩
  rw [List.map_singleton, toList_unlines_cons, toList_unlines_nil, hread]

theorem encloses_plain
    {line : String} (hline : Only isPlainCharacter line) :
    Encloses depth [line] depth := by
  refine encloses_singleton fun indent literals hindent => ⟨literals, run_plain_line ?_⟩
  have hspaces : Only isPlainCharacter indent := hindent.mono fun c hc => by
    rw [of_decide_eq_true hc]
    decide
  unfold indentedLine
  split
  · exact fun _ hc => absurd hc (by simp)
  · exact hspaces.append hline

theorem encloses_opening
    {line : String} (hline : line.toList.dropWhile (· = ' ') = ['\x7b']) :
    Encloses depth [line] (depth + 1) :=
  encloses_singleton fun _ literals hindent =>
    ⟨literals, run_opening_line ((dropWhile_indentedLine hindent).trans hline)⟩

theorem encloses_closing
    {line : String} (hline : line.toList.dropWhile (· = ' ') = ['\x7d']) :
    Encloses (depth + 1) [line] depth :=
  encloses_singleton fun _ literals hindent =>
    ⟨literals, run_closing_line ((dropWhile_indentedLine hindent).trans hline)⟩

/-- Nested lines change the depth as their braces say. -/
theorem encloses_of_nested (h : Nested depth lines last) : Encloses depth lines last := by
  induction h with
  | nil => exact Encloses.nil
  | plain hline hrest ih => exact (encloses_plain hline).append ih
  | opening hline hrest ih => exact (encloses_opening hline).append ih
  | closing hline hrest ih => exact (encloses_closing hline).append ih

/-! ## Registrations -/

/-- What stands in a registration between the name of the type and the brace. -/
def schemaText : String := ">(o, () => new global::Microsoft.OpenApi.Models.OpenApiSchema "

theorem middleText_eq : middleText = schemaText ++ "\x7b Type = \"" := by decide +kernel

theorem escape_keyword (type : SchemaType) :
    type.keyword.toList.flatMap escapeChar = type.keyword.toList := by
  cases type <;> decide +kernel

theorem toList_registrationLine (typeName : String) (type : SchemaType) :
    (registrationLine typeName type).toList =
      (tab ++ tab).toList ++ ((openingText ++ typeName ++ schemaText).toList ++
        ("\x7b Type = \"".toList ++ (type.keyword.toList.flatMap escapeChar ++ ['"'] ++
          " \x7d);".toList))) := by
  have hclosing : closingText.toList = '"' :: " \x7d);".toList := by decide +kernel
  simp only [registrationLine_eq, middleText_eq, String.toList_append, escape_keyword, hclosing,
    List.append_assoc, List.cons_append, List.nil_append]

/-- A registration opens and closes one brace, and adds its keyword to the literals. -/
theorem encloses_registrationLine
    {typeName : String} (hname : Only isInlineCharacter typeName) (type : SchemaType) :
    Encloses depth [registrationLine typeName type] depth := by
  refine encloses_singleton fun indent literals hindent => ⟨literals ++ [type.keyword], ?_⟩
  have hspaces : Only (fun c => c = ' ') (indent ++ (tab ++ tab)) :=
    Only.append hindent (Only.append only_tab only_tab)
  have hpieces : ∀ c ∈ (openingText ++ typeName ++ schemaText).toList,
      isInlineCharacter c = true :=
    Only.append (Only.append (only_of_spelling rfl (by decide +kernel)) hname)
      (only_of_spelling rfl (by decide +kernel))
  have hcode : run ⟨.lineStart, depth, literals⟩ (openingText ++ typeName ++ schemaText).toList =
      some ⟨.code, depth, literals⟩ := by
    have hopening : openingText.toList = 'g' :: _ := toList_of_spelling rfl
    rw [String.append_assoc, String.toList_append, hopening, List.cons_append] at hpieces ⊢
    exact run_code (by decide) (by decide) fun c hc => hpieces c (List.mem_cons_of_mem _ hc)
  have hbrace : run ⟨.code, depth, literals⟩ "\x7b Type = \"".toList =
      some ⟨.literal [] .character, depth + 1, literals⟩ := rfl
  have hliteral : Scans [] ⟨.literal [] .character, depth + 1, literals⟩ _ _ :=
    scans_literal type.keyword
  -- Each rewrite runs through one piece: the indentation, the code, the brace, the literal.
  rw [toList_indentedLine_of_ne indent (by simp [toList_registrationLine]),
    toList_registrationLine, ← List.append_assoc indent.toList, ← String.toList_append,
    List.append_assoc, run_append (run_spaces fun c hc => of_decide_eq_true (hspaces c hc)),
    List.append_assoc, run_append hcode, List.append_assoc,
    run_append hbrace, List.append_assoc, run_append hliteral.run_eq]
  rfl

theorem encloses_registrationLines
    {bindings : List (String × SchemaType)}
    (h : ∀ bound ∈ bindings, Only isInlineCharacter bound.1) :
    Encloses depth (bindings.map fun bound => registrationLine bound.1 bound.2) depth := by
  induction bindings with
  | nil => exact Encloses.nil
  | cons bound rest ih =>
      exact (encloses_registrationLine (h bound (by simp)) bound.2).append
        (ih fun other hother => h other (List.mem_cons_of_mem bound hother))

/-- A class closes the braces that it opens. -/
theorem encloses_classLines
    (kind : ArtifactKind) {items : List WorkItem}
    (h : ∀ item ∈ items, Only isInlineCharacter item.typeName) (depth : Nat) :
    Encloses depth (classLines kind items) depth := by
  cases kind with
  | schemaFilter => exact encloses_of_nested (nested_filterLines depth)
  | mappingExtension =>
      have hheader := encloses_of_nested (nested_mappingHeader depth)
      have hfooter := encloses_of_nested (nested_mappingFooter depth)
      have hbindings : ∀ bound ∈ items.map binding, Only isInlineCharacter bound.1 := by
        intro bound hbound
        obtain ⟨item, hitem, rfl⟩ := List.mem_map.mp hbound
        exact h item hitem
      have hblank : Encloses (depth + 2) (if (items.map binding).isEmpty then [] else [""])
          (depth + 2) := by
        split
        · exact Encloses.nil
        · exact encloses_plain fun c hc => by simp at hc
      exact ((hheader.append (encloses_registrationLines hbindings)).append hblank).append hfooter

end ValueSchema.Source
